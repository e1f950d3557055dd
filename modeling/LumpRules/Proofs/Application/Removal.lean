import LumpRules.Proofs.Application.Accounting

/-!
# Files of removals

A rule file that holds removals only is a filter of the entities of a lump
(`RuleFile.RemovesOnly.apply_value`): an entity stays if none of the rules applies to it.  Such a
file does nothing more when it is applied again, two of them may be applied in either order, and
of the rules in a file only the set matters (`removals_idempotent_comm_congr`).
-/

namespace LumpRules

/-- A rule file that holds removals only. -/
def RuleFile.RemovesOnly (file : RuleFile) : Prop :=
  ∀ rule ∈ file.rules, rule.kind = .remove

/-- Whether a rule of the file removes an entity. -/
def RuleFile.removes (file : RuleFile) (entity : Entity) : Bool :=
  file.rules.any (·.removes entity)

variable {file f g : RuleFile} {options : Options} {name : String} {run : Run Lump}

theorem additions_of_removals {rules : List Rule} (h : ∀ rule ∈ rules, rule.kind = .remove) :
  additions rules = []
  := by
  rw [additions, List.filterMap_eq_nil_iff]
  intro rule hrule
  have hkind := h rule hrule
  cases rule with
  | remove conditions => rfl
  | add insertions => contradiction
  | modify conditions mutation => contradiction

/-- Removals are passed over in the pass of modifications. -/
theorem foldl_modifyStep_of_removals {rules : List Rule}
    (h : ∀ rule ∈ rules, rule.kind = .remove) :
  rules.foldl (fun run rule => (modifyStep options name run rule).value) run = run
  := by
  induction rules with
  | nil => rfl
  | cons rule rules ih =>
    rw [List.forall_mem_cons] at h
    obtain ⟨hkind, hrules⟩ := h
    cases rule with
    | remove conditions => apply ih hrules
    | add insertions => contradiction
    | modify conditions mutation => contradiction

/-- Removals filter the entities, and the report counts those that are gone. -/
theorem RuleFile.RemovesOnly.apply_value (h : file.RemovesOnly) (options : Options) (lump : Lump) :
  (file.apply options lump).value =
    ({ lump with entities := lump.entities.filter (!file.removes ·) },
      { removed := lump.entities.countP file.removes })
  := by
  have hremoves : file.removes = fun entity => file.rules.any (·.removes entity) := rfl
  rw [RuleFile.apply, applyRules_value, foldl_modifyStep_of_removals h]
  simp [arrivals, additions_of_removals h, hremoves]

/-- Of the rules in a file only the set matters for what it removes. -/
theorem RuleFile.removes_congr (h : ∀ rule, rule ∈ f.rules ↔ rule ∈ g.rules) :
  f.removes = g.removes
  := by
  funext entity
  rw [Bool.eq_iff_iff, RuleFile.removes, RuleFile.removes, List.any_eq_true, List.any_eq_true]
  simp only [h]

/-- The entities that one of two files removes are counted alike in either order. -/
theorem countP_add_countP_filter_comm {α : Type} (p q : α → Bool) (items : List α) :
  items.countP p + (items.filter (!p ·)).countP q =
    items.countP q + (items.filter (!q ·)).countP p
  := by
  rw [← countP_or, ← countP_or]
  simp only [Bool.or_comm]

/-- Two files of removals, one after the other. -/
theorem applyInTurn_of_removals (hf : f.RemovesOnly) (hg : g.RemovesOnly) (options : Options)
    (lump : Lump) :
  applyInTurn options [f, g] lump =
    ({ lump with
        entities := lump.entities.filter fun entity => !f.removes entity && !g.removes entity },
      { removed := lump.entities.countP f.removes +
          (lump.entities.filter (!f.removes ·)).countP g.removes })
  := by
  simp [applyInTurn, hf.apply_value, hg.apply_value, Report.merge, List.filter_filter,
    Bool.and_comm]

/-- A file of removals does nothing when it is applied again; two of them, applied in either
order, leave the same lump and remove as many entities in all; and in whatever order and however
often its rules are listed, a file leaves the same lump with the same report. -/
theorem removals_idempotent_comm_congr (hf : f.RemovesOnly) (hg : g.RemovesOnly)
    (options options' : Options) (lump : Lump) :
  let once := (f.apply options lump).value.1
  (f.apply options' once).value = (once, {}) ∧
    applyInTurn options [f, g] lump = applyInTurn options' [g, f] lump ∧
    ∀ f' : RuleFile, (∀ rule, rule ∈ f'.rules ↔ rule ∈ f.rules) →
      (f'.apply options' lump).value = (f.apply options lump).value
  := by
  intro once
  refine ⟨?_, ?_, ?_⟩
  · simp only [once, hf.apply_value, List.filter_filter, Bool.and_self]
    simp
  · rw [applyInTurn_of_removals hf hg, applyInTurn_of_removals hg hf,
      countP_add_countP_filter_comm]
    simp only [Bool.and_comm]
  · intro f' hrules
    have hf' : f'.RemovesOnly := by
      intro rule hrule
      apply hf rule ((hrules rule).mp hrule)
    rw [hf'.apply_value options', hf.apply_value options, RuleFile.removes_congr hrules]

/-- A file that removes the lights, by two rules. -/
def lightRemovals : RuleFile where
  rules := [.remove { attributes := [("classname", .literal "light*")] },
    .remove { attributes := [("ClassName", .literal "LIGHT")] }]

/-- A file that removes what is named. -/
def nameRemovals : RuleFile where
  rules := [.remove { attributes := [("targetname", .literal "*")] }]

/-- A light with a name, which both files remove, a light, and a door with a name. -/
def litRoom : Lump where
  name := "default_ents"
  entities := [{ attributes := [("classname", "light"), ("targetname", "lamp")] },
    { attributes := [("classname", "light_spot")] },
    { attributes := [("classname", "door"), ("targetname", "exit")] }]

/-- An entity that both files remove is counted for the one that is applied first. -/
theorem removals_idempotent_comm_congr_overlap :
  lightRemovals.RemovesOnly ∧ nameRemovals.RemovesOnly ∧
    (lightRemovals.apply {} litRoom).value.2 = { removed := 2 } ∧
    (nameRemovals.apply {} litRoom).value.2 = { removed := 2 } ∧
    (lightRemovals.apply {} (lightRemovals.apply {} litRoom).value.1).value =
      ((lightRemovals.apply {} litRoom).value.1, {}) ∧
    applyInTurn {} [lightRemovals, nameRemovals] litRoom =
      applyInTurn {} [nameRemovals, lightRemovals] litRoom ∧
    ∀ file : RuleFile, (∀ rule, rule ∈ file.rules ↔ rule ∈ lightRemovals.rules) →
      (file.apply {} litRoom).value = (lightRemovals.apply {} litRoom).value
  := by
  have hlights : lightRemovals.RemovesOnly := by
    simp [RuleFile.RemovesOnly, lightRemovals, Rule.kind]
  have hnames : nameRemovals.RemovesOnly := by
    simp [RuleFile.RemovesOnly, nameRemovals, Rule.kind]
  refine ⟨hlights, hnames, ?_, ?_, ?_⟩
  · rw [hlights.apply_value]
    rfl
  · rw [hnames.apply_value]
    rfl
  · apply removals_idempotent_comm_congr hlights hnames

end LumpRules
