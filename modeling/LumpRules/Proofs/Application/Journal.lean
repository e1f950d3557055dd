import LumpRules.Proofs.Application.Accounting
import LumpRules.Proofs.Application.Mutation

/-!
# The log of a run

A log `Tells` of some changes and errors if it warns of each of the errors, in order and in its
words, and informs of each of the changes, in order, provided that the run is verbose.  Every step
in a pass of a run is `Narrated`: it tells of exactly what it adds to the report, and all its
changes are of the kind of the pass.  Hence the log of a whole run tells of its report, removals
before additions before modifications, and rule files that are applied to a lump in turn add nothing
to their logs but a summary (`log_accounts`).
-/

namespace LumpRules

/-! ### What a log tells -/

/-- What is told of a change by a rule of a kind. -/
def RuleKind.change : RuleKind → String
  | .remove => "removed entity"
  | .add => "added entity"
  | .modify => "modified entity"

/-- What is told when the rule files for a lump have been applied. -/
def summaryMessage : String := "applied rules"

/-- A log with a warning for each of some errors and, if the run is verbose, an event of severity
`info` for each of some changes. -/
structure Tells (verbose : Bool) (events : List Event) (changes : List String)
    (errors : List ApplyError) : Prop where
  warnings : (events.filter fun event => event.severity = .warn).map (·.fields.lookup "error") =
    errors.map fun error => some error.message
  changes : (events.filter fun event => event.severity = .info).map Event.message =
    if verbose then changes else []
  /-- A log is without summaries. -/
  unsummed : ∀ event ∈ events, event.message ≠ summaryMessage

section Logs

variable {verbose : Bool} {events events' : List Event} {changes changes' : List String}
  {errors errors' : List ApplyError} {event : Event}

theorem tells_nil :
  Tells verbose [] [] []
  where
  warnings := rfl
  changes := by simp
  unsummed := by simp

/-- One log after the other. -/
theorem Tells.append (h : Tells verbose events changes errors)
    (h' : Tells verbose events' changes' errors') :
  Tells verbose (events ++ events') (changes ++ changes') (errors ++ errors')
  where
  warnings := by simp only [List.filter_append, List.map_append, h.warnings, h'.warnings]
  changes := by
    rw [List.filter_append, List.map_append, h.changes, h'.changes]
    split <;> rfl
  unsummed := List.forall_mem_append.mpr ⟨h.unsummed, h'.unsummed⟩

/-- A log that tells of nothing in front of another one. -/
theorem Tells.prepend (h' : Tells verbose events' changes errors) (h : Tells verbose events [] []) :
  Tells verbose (events ++ events') changes errors
  := h.append h'

/-- An event of severity `debug` tells of nothing. -/
theorem tells_debug (hseverity : event.severity = .debug) (h : event.message ≠ summaryMessage) :
  Tells verbose [event] [] []
  where
  warnings := by simp [hseverity]
  changes := by simp [hseverity]
  unsummed := by simpa using h

/-- A change that is told of if the run is verbose. -/
theorem tells_change {kind : RuleKind} (hseverity : event.severity = .info)
    (hmessage : event.message = kind.change) :
  Tells verbose (if verbose then [event] else []) [kind.change] []
  where
  warnings := by cases verbose <;> simp [hseverity]
  changes := by cases verbose <;> simp [hseverity, hmessage]
  unsummed := by cases verbose <;> cases kind <;> simp_all [RuleKind.change, summaryMessage]

/-- A change that is told of after some errors. -/
theorem Tells.change {kind : RuleKind} (h : Tells verbose events [] errors)
    (hseverity : event.severity = .info) (hmessage : event.message = kind.change) :
  Tells verbose (events ++ if verbose then [event] else []) [kind.change] errors
  := by
  simpa using h.append (tells_change hseverity hmessage)

/-- An error that is warned of. -/
theorem tells_error {error : ApplyError} (hseverity : event.severity = .warn)
    (hfield : event.fields.lookup "error" = some error.message)
    (h : event.message ≠ summaryMessage) :
  Tells verbose [event] [] [error]
  where
  warnings := by simp [hseverity, hfield]
  changes := by simp [hseverity]
  unsummed := by simpa using h

/-- A part of a mutation warns of the error that it leaves. -/
theorem tells_attempt {ε : Type} {skipped : ApplyError → Event}
    (hseverity : ∀ error, (skipped error).severity = .warn)
    (hfield : ∀ error, (skipped error).fields.lookup "error" = some error.message)
    (h : ∀ error, (skipped error).message ≠ summaryMessage) (entity : ε)
    (changed : Except ApplyError ε) :
  Tells verbose (attempt skipped entity changed).events [] (attempt skipped entity changed).value.2
  := by
  cases changed with
  | ok changed => apply tells_nil
  | error error => apply tells_error (hseverity error) (hfield error) (h error)

end Logs

/-! ### Mutations -/

section Entities

variable {ε : Type} [EntityView ε] {verbose : Bool} {options : Options} {lump : String}
  {mutation : Mutation}

theorem tells_deleteConnections (patterns : List ConnectionPattern) (count : Nat) (entity : ε) :
  Tells verbose (deleteConnections patterns count entity).events [] []
  := by
  -- `count` says how many connections are still to be looked at, the last one first.
  induction count generalizing entity with
  | zero => apply tells_nil
  | succ index ih =>
    rw [deleteConnections]
    split
    · split
      · apply ih
      · rw [Logged.events_bind]
        apply (ih entity).prepend
        apply tells_debug rfl
        simp [Event.message, summaryMessage]
    · apply ih

theorem tells_applyDelete (entity : ε) :
  Tells verbose (mutation.applyDelete entity).events [] []
  := by
  unfold Mutation.applyDelete
  split
  · unfold applyDelete
    dsimp only
    split
    · apply tells_nil
    · split
      · apply tells_debug rfl
        simp [Event.message, summaryMessage]
      · apply tells_deleteConnections
  · apply tells_nil

theorem tells_applyReplace (enabled : Bool) (entity : ε) :
  let replaced := mutation.applyReplace enabled lump entity
  Tells verbose replaced.events [] replaced.value.2
  := by
  unfold Mutation.applyReplace
  split
  · split
    · apply tells_attempt (fun _ => rfl) (fun _ => rfl)
      simp [Event.message, summaryMessage]
    · apply tells_nil
  · apply tells_nil

theorem tells_applyInsert (entity : ε) :
  let inserted := mutation.applyInsert lump entity
  Tells verbose inserted.events [] inserted.value.2
  := by
  unfold Mutation.applyInsert
  split
  · apply tells_attempt (fun _ => rfl) (fun _ => rfl)
    simp [Event.message, summaryMessage]
  · apply tells_nil

/-- A mutation warns of the errors that it meets. -/
theorem tells_applyMutation (entity : ε) :
  let mutated := applyMutation options lump mutation entity
  Tells verbose mutated.events [] mutated.value.2
  := by
  simp only [applyMutation_eq, Logged.events_bind, Logged.value_bind, Logged.events_pure,
    Logged.value_pure, List.append_nil]
  apply Tells.prepend _ (tells_applyDelete entity)
  apply (tells_applyReplace _ _).append (tells_applyInsert _)

end Entities

/-! ### Passes -/

/-- The report on some changes of one kind. -/
def Report.ofKind (kind : RuleKind) (count : Nat) (errors : List ApplyError) : Report :=
  match kind with
  | .remove => { removed := count, errors }
  | .add => { added := count, errors }
  | .modify => { modified := count, errors }

theorem Report.merge_ofKind {kind : RuleKind} {count count' : Nat}
    {errors errors' : List ApplyError} :
  (ofKind kind count errors).merge (ofKind kind count' errors') =
    ofKind kind (count + count') (errors ++ errors')
  := by
  cases kind <;> simp [ofKind, merge]

section Lumps

variable {ε σ : Type} [EntityView ε] [LumpView σ ε] {verbose : Bool} {options : Options}
  {name : String} {kind : RuleKind} {run : Run σ}

/-- A step in the pass of a kind that tells of what it adds to the report. -/
def Narrated (verbose : Bool) (kind : RuleKind) (run : Run σ) (step : Logged (Run σ)) : Prop :=
  ∃ count errors, step.value.report = run.report.merge (.ofKind kind count errors) ∧
    Tells verbose step.events (List.replicate count kind.change) errors

theorem narrated_pure :
  Narrated verbose kind run (pure run)
  := by
  refine ⟨0, [], ?_, tells_nil⟩
  cases kind <;> simp [Report.ofKind, Report.merge]

theorem Narrated.bind {step : Logged (Run σ)} {rest : Run σ → Logged (Run σ)}
    (h : Narrated verbose kind run step) (h' : ∀ run, Narrated verbose kind run (rest run)) :
  Narrated verbose kind run (step >>= rest)
  := by
  obtain ⟨count, errors, hreport, htells⟩ := h
  obtain ⟨count', errors', hreport', htells'⟩ := h' step.value
  use count + count', errors ++ errors'
  constructor
  · rw [Logged.value_bind, hreport', hreport, Report.merge_assoc, Report.merge_ofKind]
  · rw [Logged.events_bind, ← List.replicate_append_replicate]
    apply htells.append htells'

/-- A loop of steps that tell of what they do. -/
theorem narrated_foldlM {ι : Type} {step : Run σ → ι → Logged (Run σ)}
    (h : ∀ run item, Narrated verbose kind run (step run item)) (items : List ι) (run : Run σ) :
  Narrated verbose kind run (items.foldlM step run)
  := by
  induction items generalizing run with
  | nil => apply narrated_pure
  | cons item items ih =>
    rw [List.foldlM_cons]
    apply (h run item).bind ih

theorem narrated_removeAt (conditions : Conditions) (index : Nat) (run : Run σ) :
  Narrated options.verbose .remove run (removeAt options name conditions run index)
  := by
  unfold removeAt
  split
  · apply narrated_pure
  · split
    · use 1, []
      constructor
      · simp [Report.merge, Report.ofKind]
      · rw [Logged.events_bind, Logged.events_pure, List.append_nil]
        apply tells_change rfl rfl
    · apply narrated_pure

theorem narrated_removeBelow (conditions : Conditions) (count : Nat) (run : Run σ) :
  Narrated options.verbose .remove run (removeBelow options name conditions count run)
  := by
  induction count generalizing run with
  | zero => apply narrated_pure
  | succ index ih => apply (narrated_removeAt conditions index run).bind ih

theorem narrated_removeStep (run : Run σ) (rule : Rule) :
  Narrated options.verbose .remove run (removeStep options name run rule)
  := by
  cases rule with
  | remove conditions => apply narrated_removeBelow
  | add insertions => apply narrated_pure
  | modify conditions mutation => apply narrated_pure

theorem narrated_addEntity (insertions : Insertions) (run : Run σ) :
  Narrated options.verbose .add run (addEntity options name insertions run)
  := by
  unfold addEntity
  split
  · use 1, []
    constructor
    · simp [Report.merge, Report.ofKind]
    · rw [Logged.events_bind, Logged.events_pure, List.append_nil]
      apply tells_change rfl rfl
  · next error herror =>
    use 0, [error]
    constructor
    · simp [Report.merge, Report.ofKind]
    · rw [Logged.events_bind, Logged.events_pure, List.append_nil]
      apply tells_error rfl rfl
      simp [Event.message, summaryMessage]

theorem narrated_addStep (run : Run σ) (rule : Rule) :
  Narrated options.verbose .add run (addStep options name run rule)
  := by
  cases rule with
  | remove conditions => apply narrated_pure
  | add insertions => apply narrated_addEntity
  | modify conditions mutation => apply narrated_pure

theorem narrated_modifyAt (conditions : Conditions) (mutation : Mutation) (run : Run σ)
    (index : Nat) :
  Narrated options.verbose .modify run (modifyAt options name conditions mutation run index)
  := by
  unfold modifyAt
  split
  · apply narrated_pure
  · next entity hentity =>
    split
    · use 1, (applyMutation options name mutation entity).value.2
      constructor
      · simp [Report.merge, Report.ofKind]
      · rw [Logged.events_bind, Logged.events_bind, Logged.events_pure, List.append_nil]
        apply (tells_applyMutation entity).change rfl rfl
    · apply narrated_pure

theorem narrated_modifyStep (run : Run σ) (rule : Rule) :
  Narrated options.verbose .modify run (modifyStep options name run rule)
  := by
  cases rule with
  | remove conditions => apply narrated_pure
  | add insertions => apply narrated_pure
  | modify conditions mutation =>
    apply narrated_foldlM
    apply narrated_modifyAt

/-! ### Runs -/

/-- What is told of the changes that a report counts. -/
def Report.changes (report : Report) : List String :=
  List.replicate report.removed RuleKind.remove.change ++
    List.replicate report.added RuleKind.add.change ++
    List.replicate report.modified RuleKind.modify.change

/-- The log of a run tells of its report. -/
theorem tells_applyRules (rules : List Rule) (options : Options) (lump : σ) :
  let run := applyRules rules options lump
  Tells options.verbose run.events run.value.2.changes run.value.2.errors
  := by
  have hremovals (run : Run σ) : Narrated options.verbose .remove run
      (rules.foldlM (removeStep options (LumpView.name lump)) run) :=
    narrated_foldlM narrated_removeStep rules run
  have hadditions (run : Run σ) : Narrated options.verbose .add run
      (rules.foldlM (addStep options (LumpView.name lump)) run) :=
    narrated_foldlM narrated_addStep rules run
  have hmodifications (run : Run σ) : Narrated options.verbose .modify run
      (rules.foldlM (modifyStep options (LumpView.name lump)) run) :=
    narrated_foldlM narrated_modifyStep rules run
  obtain ⟨removed, errors, hremoved, hfirst⟩ := hremovals ⟨lump, {}⟩
  obtain ⟨added, errors', hadded, hsecond⟩ := hadditions _
  obtain ⟨modified, errors'', hmodified, hthird⟩ := hmodifications _
  have htells := (hfirst.append hsecond).append hthird
  rw [hremoved] at hadded
  rw [hadded] at hmodified
  intro run
  have hreport : run.value.2 = ⟨removed, added, modified, errors ++ errors' ++ errors''⟩ := by
    apply hmodified.trans
    simp [Report.merge, Report.ofKind]
  -- The log is that of the three passes.
  have hevents : run.events = _ ++ (_ ++ (_ ++ [])) := rfl
  rw [hreport, hevents, List.append_nil, ← List.append_assoc]
  exact htells

/-! ### Rule sets -/

/-- What is told while some rule files are applied, each to what the one before it left. -/
def eventsInTurn (options : Options) : List RuleFile → σ → List Event
  | [], _ => []
  | file :: files, lump =>
    let first := file.apply options lump
    first.events ++ eventsInTurn options files first.value.1

theorem foldlM_applyFile_events (options : Options) (files : List RuleFile) (done : σ × Report) :
  (files.foldlM (RuleSet.applyFile options) done).events = eventsInTurn options files done.1
  := by
  induction files generalizing done with
  | nil => rfl
  | cons file files ih =>
    rw [List.foldlM_cons, Logged.events_bind, ih, RuleSet.applyFile, Logged.events_bind,
      Logged.events_pure, List.append_nil]
    rfl

theorem unsummed_eventsInTurn (options : Options) (files : List RuleFile) (lump : σ) :
  ∀ event ∈ eventsInTurn options files lump, event.message ≠ summaryMessage
  := by
  induction files generalizing lump with
  | nil => simp [eventsInTurn]
  | cons file files ih =>
    rw [eventsInTurn, List.forall_mem_append]
    exact ⟨(tells_applyRules file.rules options lump).unsummed, ih _⟩

/-- What is told once the rule files for a lump have been applied: a summary if they changed
something or met errors. -/
def summary (level world lump : String) (report : Report) : List Event :=
  if report.isUnchanged = false ∨ report.errors ≠ [] then [.rulesApplied level world lump report]
  else []

theorem applyLump_events (set : RuleSet) (level world : String) (options : Options) (lump : σ) :
  let applied := set.applyLump level world options lump
  applied.events = eventsInTurn options (set.scopeChain level world (LumpView.name lump)) lump ++
    summary level world (LumpView.name lump) applied.value.2
  := by
  intro applied
  simp only [applied, RuleSet.applyLump, Logged.events_bind, foldlM_applyFile_events,
    Logged.events_pure, List.append_nil]
  congr 1
  simp [summary, Logged.eventIf]

/-- The log of a run warns of each error in its report and, if the run is verbose, informs of each
change, removals before additions before modifications.  The logs of the rule files for a lump are
followed by a single summary of severity `debug` if the merged report has a change or an error, and
by nothing otherwise. -/
theorem log_accounts (rules : List Rule) (options : Options) (lump : σ) (set : RuleSet)
    (level world : String) :
  let run := applyRules rules options lump
  let files := set.scopeChain level world (LumpView.name lump)
  let applied := set.applyLump level world options lump
  let closing := summary level world (LumpView.name lump) applied.value.2
  Tells options.verbose run.events run.value.2.changes run.value.2.errors ∧
    applied.value = applyInTurn options files lump ∧
    applied.events = eventsInTurn options files lump ++ closing ∧
    applied.events.filter (fun event => event.message = summaryMessage) = closing ∧
    ∀ event ∈ closing, event.severity = .debug
  := by
  intro run files applied closing
  have hevents : applied.events = eventsInTurn options files lump ++ closing :=
    applyLump_events set level world options lump
  have hclosing : ∀ event ∈ closing,
      event.message = summaryMessage ∧ event.severity = .debug := by
    intro event hevent
    simp only [closing, summary] at hevent
    split at hevent
    · obtain rfl := List.mem_singleton.mp hevent
      exact ⟨rfl, rfl⟩
    · contradiction
  refine ⟨tells_applyRules rules options lump, applyLump_value set level world options lump,
    hevents, ?_, fun event hevent => (hclosing event hevent).2⟩
  rw [hevents, List.filter_append, List.filter_eq_nil_iff.mpr, List.filter_eq_self.mpr]
  · rfl
  · intro event hevent
    apply decide_eq_true (hclosing event hevent).1
  · intro event hevent
    simpa using unsummed_eventsInTurn options files lump event hevent

end Lumps

end LumpRules
