import LumpRules.Proofs.Application.Mutation
import LumpRules.RuleSet.Basic

/-!
# Verbosity

A verbose run tells of every change that it makes by an event of severity `info`.
`Logged.silenced` takes such events away and keeps the value and all other events.  It passes
through the steps of a computation, and so through a whole run: a run that is not verbose is the
silenced run, whatever the options say (`applyRules_silenced`, `applyLump_silenced` and
`applyWorld_silenced`).  Hence a verbose run and a quiet one leave the same lumps and the same
report and warn of the same (`verbose_agrees_quiet`).
-/

namespace LumpRules

/-! ### Silence -/

/-- The options with changes left untold. -/
def Options.quiet (options : Options) : Options :=
  { options with verbose := false }

namespace Logged

variable {α β : Type} {event : Event}

/-- A value with its events but for those of severity `info`. -/
def silenced (x : Logged α) : Logged α :=
  ⟨x.value, x.events.filter fun event => event.severity ≠ .info⟩

@[simp]
theorem silenced_pure (a : α) :
  (pure a : Logged α).silenced = pure a
  := rfl

@[simp]
theorem silenced_bind (x : Logged α) (f : α → Logged β) :
  (x >>= f).silenced = x.silenced >>= fun a => (f a).silenced
  := by
  simp [silenced, bind]

theorem silenced_event (h : event.severity ≠ .info) :
  (Logged.event event).silenced = Logged.event event
  := by
  simp [silenced, Logged.event, h]

theorem silenced_eventIf (h : event.severity ≠ .info) (condition : Bool) :
  (eventIf condition event).silenced = eventIf condition event
  := by
  cases condition <;> simp [silenced, eventIf, h]

theorem silenced_eventIf_info (h : event.severity = .info) (condition : Bool) :
  (eventIf condition event).silenced = eventIf false event
  := by
  cases condition <;> simp [silenced, eventIf, h]

/-- A silenced loop is the loop of the silenced steps. -/
theorem silenced_foldlM {step step' : β → α → Logged β}
    (h : ∀ state item, (step state item).silenced = step' state item) (start : β)
    (items : List α) :
  (items.foldlM step start).silenced = items.foldlM step' start
  := by
  induction items generalizing start with
  | nil => rfl
  | cons item items ih =>
    rw [List.foldlM_cons, silenced_bind, h, List.foldlM_cons]
    simp only [ih]

end Logged

open Logged

/-! ### Mutations -/

theorem attempt_silenced {ε : Type} {skipped : ApplyError → Event}
    (h : ∀ error, (skipped error).severity ≠ .info) (entity : ε)
    (changed : Except ApplyError ε) :
  (attempt skipped entity changed).silenced = attempt skipped entity changed
  := by
  cases changed with
  | ok changed => rfl
  | error error =>
    rw [attempt, silenced_bind, silenced_event (h error)]
    rfl

section Entities

variable {ε : Type} [EntityView ε] {options : Options} {lump : String} {mutation : Mutation}

theorem deleteConnections_silenced (patterns : List ConnectionPattern) (count : Nat)
    (entity : ε) :
  (deleteConnections patterns count entity).silenced = deleteConnections patterns count entity
  := by
  -- `count` says how many connections are still to be looked at, the last one first.
  induction count generalizing entity with
  | zero => rfl
  | succ index ih =>
    rw [deleteConnections]
    split
    · split
      · apply ih
      · rw [silenced_bind, silenced_event (by simp [Event.severity]), ih]
    · apply ih

theorem applyDelete_silenced (deletions : Conditions) (entity : ε) :
  (applyDelete deletions entity).silenced = applyDelete deletions entity
  := by
  unfold applyDelete
  dsimp only
  split
  · rfl
  · split
    · rw [silenced_bind, silenced_event (by simp [Event.severity]), silenced_pure]
    · apply deleteConnections_silenced

theorem Mutation.applyDelete_silenced (entity : ε) :
  (mutation.applyDelete entity).silenced = mutation.applyDelete entity
  := by
  unfold Mutation.applyDelete
  split
  · apply LumpRules.applyDelete_silenced
  · rfl

theorem Mutation.applyReplace_silenced (enabled : Bool) (entity : ε) :
  (mutation.applyReplace enabled lump entity).silenced =
    mutation.applyReplace enabled lump entity
  := by
  unfold Mutation.applyReplace
  split
  · split
    · apply attempt_silenced
      simp [Event.severity]
    · rfl
  · rfl

theorem Mutation.applyInsert_silenced (entity : ε) :
  (mutation.applyInsert lump entity).silenced = mutation.applyInsert lump entity
  := by
  unfold Mutation.applyInsert
  split
  · apply attempt_silenced
    simp [Event.severity]
  · rfl

theorem applyMutation_silenced (entity : ε) :
  (applyMutation options lump mutation entity).silenced =
    applyMutation options.quiet lump mutation entity
  := by
  simp only [applyMutation_eq, silenced_bind, silenced_pure, Mutation.applyDelete_silenced,
    Mutation.applyReplace_silenced, Mutation.applyInsert_silenced]
  rfl

end Entities

section Lumps

variable {ε σ : Type} [EntityView ε] [LumpView σ ε] {options : Options} {name : String}
  {conditions : Conditions} {mutation : Mutation} {run : Run σ}

/-! ### Rules -/

theorem removeAt_silenced {index : Nat} :
  (removeAt options name conditions run index).silenced =
    removeAt options.quiet name conditions run index
  := by
  unfold removeAt
  split
  · rfl
  · split
    · rw [silenced_bind, silenced_eventIf_info rfl]
      rfl
    · rfl

theorem removeBelow_silenced {count : Nat} :
  (removeBelow options name conditions count run).silenced =
    removeBelow options.quiet name conditions count run
  := by
  induction count generalizing run with
  | zero => rfl
  | succ index ih =>
    rw [removeBelow, silenced_bind, removeAt_silenced, removeBelow]
    simp only [ih]

theorem addEntity_silenced {insertions : Insertions} :
  (addEntity options name insertions run).silenced = addEntity options.quiet name insertions run
  := by
  unfold addEntity
  split
  · rw [silenced_bind, silenced_eventIf_info rfl]
    rfl
  · rw [silenced_bind, silenced_event (by simp [Event.severity])]
    rfl

theorem modifyAt_silenced {index : Nat} :
  (modifyAt options name conditions mutation run index).silenced =
    modifyAt options.quiet name conditions mutation run index
  := by
  unfold modifyAt
  split
  · rfl
  · split
    · rw [silenced_bind, applyMutation_silenced]
      congr 1
      funext ⟨changed, errors⟩
      rw [silenced_bind, silenced_eventIf_info rfl]
      rfl
    · rfl

theorem removeStep_silenced {rule : Rule} :
  (removeStep options name run rule).silenced = removeStep options.quiet name run rule
  := by
  cases rule with
  | remove conditions => apply removeBelow_silenced
  | add insertions => rfl
  | modify conditions mutation => rfl

theorem addStep_silenced {rule : Rule} :
  (addStep options name run rule).silenced = addStep options.quiet name run rule
  := by
  cases rule with
  | remove conditions => rfl
  | add insertions => apply addEntity_silenced
  | modify conditions mutation => rfl

theorem modifyStep_silenced {rule : Rule} :
  (modifyStep options name run rule).silenced = modifyStep options.quiet name run rule
  := by
  cases rule with
  | remove conditions => rfl
  | add insertions => rfl
  | modify conditions mutation =>
    apply silenced_foldlM
    intro run index
    apply modifyAt_silenced

/-! ### Runs -/

/-- A run that is not verbose is the silenced run. -/
theorem applyRules_silenced (rules : List Rule) (options : Options) (lump : σ) :
  (applyRules rules options lump).silenced = applyRules rules options.quiet lump
  := by
  simp only [applyRules, silenced_bind, silenced_pure,
    silenced_foldlM fun _ _ => removeStep_silenced, silenced_foldlM fun _ _ => addStep_silenced,
    silenced_foldlM fun _ _ => modifyStep_silenced]

variable (set : RuleSet) (level world : String) (options : Options)

theorem applyFile_silenced (done : σ × Report) (file : RuleFile) :
  (RuleSet.applyFile options done file).silenced = RuleSet.applyFile options.quiet done file
  := by
  rw [RuleSet.applyFile, silenced_bind, RuleFile.apply, applyRules_silenced]
  rfl

theorem applyLump_silenced (lump : σ) :
  (set.applyLump level world options lump).silenced =
    set.applyLump level world options.quiet lump
  := by
  rw [RuleSet.applyLump, silenced_bind, silenced_foldlM (applyFile_silenced options)]
  congr 1
  funext ⟨lump, report⟩
  rw [silenced_bind, silenced_eventIf (by simp [Event.severity]), silenced_pure]

theorem applyWorld_silenced (lumps : List σ) :
  (set.applyWorld level world options lumps).silenced =
    set.applyWorld level world options.quiet lumps
  := by
  induction lumps with
  | nil => rfl
  | cons lump lumps ih =>
    rw [RuleSet.applyWorld, silenced_bind, applyLump_silenced]
    simp only [silenced_bind, ih, silenced_pure]
    rfl

/-! ### Verbose and quiet runs -/

/-- A loud computation and a quiet one with the same value and the same warnings, of which the
quiet one has no events of severity `info`. -/
structure Logged.AgreesWith {α : Type} (loud quiet : Logged α) : Prop where
  value : loud.value = quiet.value
  warnings : loud.events.filter (fun event => event.severity = .warn) =
    quiet.events.filter fun event => event.severity = .warn
  noInfo : ∀ event ∈ quiet.events, event.severity ≠ .info

theorem Logged.agreesWith_silenced {α : Type} (x : Logged α) :
  x.AgreesWith x.silenced
  := by
  refine ⟨rfl, ?_, by simp [silenced]⟩
  rw [silenced, List.filter_filter]
  congr 1
  funext event
  cases event.severity <;> rfl

/-- A verbose run of a rule file over a lump, of a rule set over a lump or over the lumps of a
world agrees with the same run without verbosity. -/
theorem verbose_agrees_quiet (file : RuleFile) (lump : σ) (lumps : List σ)
    (replaceEnabled : Bool) :
  (file.apply { verbose := true, replaceEnabled } lump).AgreesWith
      (file.apply { verbose := false, replaceEnabled } lump) ∧
    (set.applyLump level world { verbose := true, replaceEnabled } lump).AgreesWith
      (set.applyLump level world { verbose := false, replaceEnabled } lump) ∧
    (set.applyWorld level world { verbose := true, replaceEnabled } lumps).AgreesWith
      (set.applyWorld level world { verbose := false, replaceEnabled } lumps)
  := by
  have hquiet : ({ verbose := false, replaceEnabled } : Options) =
      Options.quiet { verbose := true, replaceEnabled } := rfl
  rw [hquiet, RuleFile.apply, RuleFile.apply, ← applyRules_silenced, ← applyLump_silenced,
    ← applyWorld_silenced]
  exact ⟨agreesWith_silenced _, agreesWith_silenced _, agreesWith_silenced _⟩

end Lumps

end LumpRules
