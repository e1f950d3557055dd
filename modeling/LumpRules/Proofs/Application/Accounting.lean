import LumpRules.Proofs.Application.Reference
import LumpRules.RuleSet.Basic

/-!
# Reports account for every change

A report accounts for a change if the sizes before and after differ by what it counts as added and
removed, and if nothing has changed when it counts nothing.  Changes that follow one another are
accounted for by the merged report (`Report.AccountsFor.merge`), and so are changes side by side
(`Report.AccountsFor.cons`).  Each pass of a run accounts for what it does; hence a run over a lump
does, and a run over the lumps of a world (`accountsFor_applyRules` and `applyWorld_accounts`).
-/

namespace LumpRules

open Text

/-! ### Accounts -/

/-- A report that accounts for the change of one state into another. -/
structure Report.AccountsFor {σ : Type} (report : Report) (size : σ → Nat) (before after : σ) :
    Prop where
  size_add_removed : size after + report.removed = size before + report.added
  eq_of_isUnchanged : report.isUnchanged = true → after = before

/-- The report on runs side by side: counts are added up, and errors stand in the order of the
runs. -/
def Report.total (reports : List Report) : Report where
  removed := (reports.map Report.removed).sum
  added := (reports.map Report.added).sum
  modified := (reports.map Report.modified).sum
  errors := reports.flatMap Report.errors

/-- How many entities some lumps have. -/
def totalSize (lumps : List Lump) : Nat :=
  (lumps.map LumpView.size).sum

namespace Report

variable {σ : Type} {size : σ → Nat} {first second : Report} {before between after : σ}

theorem isUnchanged_merge :
  (first.merge second).isUnchanged = true ↔
    first.isUnchanged = true ∧ second.isUnchanged = true
  := by
  simp only [isUnchanged, merge, Bool.and_eq_true, beq_iff_eq]
  omega

theorem accountsFor_refl (size : σ → Nat) (state : σ) :
  ({} : Report).AccountsFor size state state
  := ⟨rfl, fun _ => rfl⟩

/-- One change after the other. -/
theorem AccountsFor.merge (h : first.AccountsFor size before between)
    (h' : second.AccountsFor size between after) :
  (first.merge second).AccountsFor size before after
  where
  size_add_removed := by
    have hfirst := h.size_add_removed
    have hsecond := h'.size_add_removed
    simp only [Report.merge]
    omega
  eq_of_isUnchanged := by
    rw [isUnchanged_merge]
    rintro ⟨hfirst, hsecond⟩
    rw [h'.eq_of_isUnchanged hsecond, h.eq_of_isUnchanged hfirst]

/-- Changes of one lump and of others. -/
theorem AccountsFor.cons {lump lump' : Lump} {lumps lumps' : List Lump}
    (h : first.AccountsFor LumpView.size lump lump')
    (h' : second.AccountsFor totalSize lumps lumps') :
  (first.merge second).AccountsFor totalSize (lump :: lumps) (lump' :: lumps')
  where
  size_add_removed := by
    have hfirst := h.size_add_removed
    have hsecond := h'.size_add_removed
    simp only [totalSize, Report.merge, List.map_cons, List.sum_cons] at hsecond ⊢
    omega
  eq_of_isUnchanged := by
    rw [isUnchanged_merge]
    rintro ⟨hfirst, hsecond⟩
    rw [h'.eq_of_isUnchanged hsecond, h.eq_of_isUnchanged hfirst]

theorem total_cons (report : Report) (reports : List Report) :
  total (report :: reports) = report.merge (total reports)
  := by
  simp [total, merge]

end Report

/-! ### Passes -/

variable {options : Options} {name : String} {start : Lump} {run : Run Lump}

/-- The entities that a test picks are removed. -/
theorem accountsFor_filter (lump : Lump) (p : Entity → Bool) :
  ({ removed := lump.entities.countP p } : Report).AccountsFor LumpView.size lump
    { lump with entities := lump.entities.filter (!p ·) }
  where
  size_add_removed := by
    have hlength : lump.entities.length =
        lump.entities.countP p + lump.entities.countP (!p ·) := by
      simpa using List.length_eq_countP_add_countP p (l := lump.entities)
    simp only [LumpView.size, ← List.countP_eq_length_filter]
    omega
  eq_of_isUnchanged := by
    intro hunchanged
    have hnone : ∀ entity ∈ lump.entities, p entity = false := by
      simpa [Report.isUnchanged] using hunchanged
    rw [List.filter_eq_self.mpr (by simpa using hnone)]

/-- The entities that could be made are added at the end. -/
theorem accountsFor_append (lump : Lump) (outcomes : List (Except ApplyError Entity)) :
  ({ added := outcomes.countP Except.isOk, errors := outcomes.filterMap errorOf? } :
      Report).AccountsFor LumpView.size lump
    { lump with entities := lump.entities ++ outcomes.filterMap Except.toOption }
  where
  size_add_removed := by
    have hlength : (outcomes.filterMap Except.toOption).length = outcomes.countP Except.isOk := by
      rw [List.length_filterMap_eq_countP]
      congr 1
      funext outcome
      cases outcome <;> rfl
    simp [LumpView.size, hlength]
  eq_of_isUnchanged := by
    intro hunchanged
    have hnone : outcomes.filterMap Except.toOption = [] := by
      rw [List.filterMap_eq_nil_iff]
      intro outcome houtcome
      have hfailed : outcome.isOk = false := by
        simp only [Report.isUnchanged] at hunchanged
        simp_all
      cases outcome with
      | error error => rfl
      | ok entity => contradiction
    rw [hnone, List.append_nil]

/-- A rule that does not apply to an entity leaves it as it is. -/
theorem Rule.visit_of_none {rule : Rule} {entity : Entity}
    (h : (rule.visit options name entity).2 = none) :
  (rule.visit options name entity).1 = entity
  := by
  cases rule with
  | remove conditions => rfl
  | add insertions => rfl
  | modify conditions mutation =>
    by_cases hholds : conditions.holds entity
    · simp [Rule.visit, hholds] at h
    · simp [Rule.visit, hholds]

/-- The entities are visited by a rule. -/
theorem accountsFor_visit (lump : Lump) (rule : Rule) :
  let visited := lump.entities.map fun entity => rule.visit options name entity
  ({ modified := visited.countP (·.2.isSome), errors := visited.flatMap (·.2.getD []) } :
      Report).AccountsFor LumpView.size lump { lump with entities := visited.map Prod.fst }
  where
  size_add_removed := by
    simp [LumpView.size]
  eq_of_isUnchanged := by
    intro hunchanged
    have hnone : ∀ entity ∈ lump.entities, (rule.visit options name entity).2 = none := by
      simpa [Report.isUnchanged] using hunchanged
    have hsame : lump.entities.map (fun entity => (rule.visit options name entity).1) =
        lump.entities := by
      rw [List.map_congr_left fun entity hentity => Rule.visit_of_none (hnone entity hentity)]
      apply List.map_id
    rw [List.map_map, Function.comp_def, hsame]

theorem accountsFor_foldl_modifyStep (rules : List Rule)
    (h : run.report.AccountsFor LumpView.size start run.lump) :
  let final := rules.foldl (fun run rule => (modifyStep options name run rule).value) run
  final.report.AccountsFor LumpView.size start final.lump
  := by
  induction rules generalizing run with
  | nil => apply h
  | cons rule rules ih =>
    rw [List.foldl_cons]
    apply ih
    rw [modifyStep_value]
    simpa [Report.merge] using h.merge (accountsFor_visit run.lump rule)

/-- The report on a run over a lump accounts for it. -/
theorem accountsFor_applyRules (rules : List Rule) (options : Options) (lump : Lump) :
  let final := (applyRules rules options lump).value
  final.2.AccountsFor LumpView.size lump final.1
  := by
  have hremovals := accountsFor_filter lump fun entity => rules.any (·.removes entity)
  have harrivals := hremovals.merge (accountsFor_append _ (additions rules))
  rw [applyRules_value]
  -- What the first two passes do is accounted for, and so it stays under each modification.
  apply accountsFor_foldl_modifyStep
  simpa [Report.merge, arrivals] using harrivals

/-- A lump stays as it is although an error is recorded. -/
example : (applyRules [.add { connections := [{}] }] {} ({ name := "a" } : Lump)).value =
  ({ name := "a" }, { errors := [.incompleteConnection .output] }) := rfl

/-! ### Rule sets -/

section Hosts

variable {ε σ : Type} [EntityView ε] [LumpView σ ε]

/-- A lump after some rule files, each applied to what the one before it left, with their reports
put together. -/
def applyInTurn (options : Options) : List RuleFile → σ → σ × Report
  | [], lump => (lump, {})
  | file :: files, lump =>
    let first := (file.apply options lump).value
    let others := applyInTurn options files first.1
    (others.1, first.2.merge others.2)

theorem foldl_applyFile_value (options : Options) (files : List RuleFile) (done : σ × Report) :
  files.foldl (fun done file => (RuleSet.applyFile options done file).value) done =
    let others := applyInTurn options files done.1
    (others.1, done.2.merge others.2)
  := by
  induction files generalizing done with
  | nil => simp [applyInTurn]
  | cons file files ih =>
    rw [List.foldl_cons, ih]
    simp [applyInTurn, RuleSet.applyFile, Report.merge_assoc]

variable (set : RuleSet) (level world : String) (options : Options)

/-- The rule files for a lump are applied in turn. -/
theorem applyLump_value (lump : σ) :
  (set.applyLump level world options lump).value =
    applyInTurn options (set.scopeChain level world (LumpView.name lump)) lump
  := by
  simp [RuleSet.applyLump, foldl_applyFile_value]

/-- The lumps of a world are treated one by one. -/
theorem applyWorld_value (lumps : List σ) :
  (set.applyWorld level world options lumps).value =
    (lumps.map fun lump => (set.applyLump level world options lump).value.1,
      Report.total (lumps.map fun lump => (set.applyLump level world options lump).value.2))
  := by
  induction lumps with
  | nil => rfl
  | cons lump lumps ih =>
    simp [RuleSet.applyWorld, ih, Report.total_cons]

end Hosts

theorem accountsFor_applyInTurn (options : Options) (files : List RuleFile) (lump : Lump) :
  let final := applyInTurn options files lump
  final.2.AccountsFor LumpView.size lump final.1
  := by
  induction files generalizing lump with
  | nil => apply Report.accountsFor_refl
  | cons file files ih =>
    apply (accountsFor_applyRules file.rules options lump).merge
    apply ih

theorem accountsFor_applyWorld (set : RuleSet) (level world : String) (options : Options)
    (lumps : List Lump) :
  let final := (set.applyWorld level world options lumps).value
  final.2.AccountsFor totalSize lumps final.1
  := by
  induction lumps with
  | nil => apply Report.accountsFor_refl
  | cons lump lumps ih =>
    rw [applyWorld_value] at ih ⊢
    rw [List.map_cons, List.map_cons, Report.total_cons]
    apply Report.AccountsFor.cons _ ih
    rw [applyLump_value]
    apply accountsFor_applyInTurn

/-- The report on a run over the lumps of a world accounts for it.  Each lump ends as it would
alone, and the report is the total of the reports on the single lumps.  For each of them the rules
of the lump, the global rules and those for the default lump of the level are applied in turn. -/
theorem applyWorld_accounts (set : RuleSet) (level world : String) (options : Options)
    (lumps : List Lump) :
  let alone := fun lump : Lump => (set.applyLump level world options lump).value
  let final := (set.applyWorld level world options lumps).value
  final.2.AccountsFor totalSize lumps final.1 ∧
    final.1 = lumps.map (fun lump => (alone lump).1) ∧
    final.2 = Report.total (lumps.map fun lump => (alone lump).2) ∧
    ∀ lump : Lump, alone lump = applyInTurn options
      ((set.lumpRules world lump.name).toList ++ set.global.toList ++
        if sameName world level && sameName lump.name defaultLump then set.globalDefault.toList
        else []) lump
  := by
  intro alone final
  refine ⟨accountsFor_applyWorld set level world options lumps, ?_, ?_, ?_⟩
  · simp only [final, applyWorld_value, alone]
  · simp only [final, applyWorld_value, alone]
  · apply applyLump_value

end LumpRules
