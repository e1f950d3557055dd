import LumpRules.Entity.Basic
import LumpRules.Proofs.Application.Order
import LumpRules.Proofs.Rule.Faults

/-!
# Rules and the objects that describe them

The rules of a document are those of its objects, kind by kind and in order.  `RuleOf` says that a
rule is the one that an object describes, and `RulesOf` that some rules belong to the objects of a
section one by one, idle objects left out: those without any condition, or with nothing to add.
Every document that gives rules gives such rules (`ofDocument_rules`), and none of them removes or
changes an entity without attributes and connections.
-/

namespace LumpRules

open Document Compilation

variable {kind : RuleKind} {members : Members} {objects : List Members} {rules : List Rule}
  {rule : Rule} {sections : Sections}

/-! ### The rule of an object -/

/-- What a part of a rule object describes: nothing if the part is missing. -/
inductive PartOf {α : Type} (members : Members) (name : String) (BlockOf : Members → α → Prop) :
    Option α → Prop
  | missing : member? members name = none → PartOf members name BlockOf none
  | given {block : Members} {part : α} : member? members name = some (.object block) →
      BlockOf block part → PartOf members name BlockOf (some part)

/-- The rule that an object of a section describes. -/
inductive RuleOf [PatternReader] : RuleKind → Members → Rule → Prop
  | remove {members : Members} {conditions : Conditions} :
      ConditionsOf members conditions → RuleOf .remove members (.remove conditions)
  | add {members : Members} {insertions : Insertions} :
      InsertionsOf members insertions → RuleOf .add members (.add insertions)
  | modify {members matching : Members} {conditions : Conditions} {mutation : Mutation} :
      member? members "match" = some (.object matching) → ConditionsOf matching conditions →
      PartOf members "delete" ConditionsOf mutation.delete →
      PartOf members "replace" ReplacementsOf mutation.replace →
      PartOf members "insert" InsertionsOf mutation.insert →
      RuleOf .modify members (.modify conditions mutation)

/-- An object of a section whose rule would remove, add or modify for no reason. -/
def IsIdle : RuleKind → Members → Prop
  | .remove, members => IsVacuous members
  | .add, members => IsVacuous members
  | .modify, members =>
    ∃ matching, member? members "match" = some (.object matching) ∧ IsVacuous matching

/-- The rules of some objects of a section, in order; idle objects have none. -/
inductive RulesOf [PatternReader] (kind : RuleKind) : List Members → List Rule → Prop
  | nil : RulesOf kind [] []
  | idle {members : Members} {objects : List Members} {rules : List Rule} :
      IsIdle kind members → RulesOf kind objects rules → RulesOf kind (members :: objects) rules
  | kept {members : Members} {objects : List Members} {rule : Rule} {rules : List Rule} :
      ¬ IsIdle kind members → RuleOf kind members rule → RulesOf kind objects rules →
      RulesOf kind (members :: objects) (rule :: rules)

theorem membersOf_eq_ok {key : String} {value : Json} :
  (membersOf key value).run.value = .ok members ↔ value = .object members
  := by
  cases value <;> simp [membersOf, mismatch]

theorem partOf_block? {α : Type} {name : String} {compile : Members → Compilation α}
    {BlockOf : Members → α → Prop} {part : Option α}
    (hcompile : ∀ {block part}, (compile block).run.value = .ok part → BlockOf block part)
    (h : (block? members name compile).run.value = .ok part) :
  PartOf members name BlockOf part
  := by
  rw [block?] at h
  split at h
  · next hmissing =>
    obtain rfl := Except.ok.inj h
    apply PartOf.missing hmissing
  · next value hvalue =>
    simp only [run_value_bind, bind_eq_ok, membersOf_eq_ok] at h
    obtain ⟨block, rfl, part, hpart, h⟩ := h
    obtain rfl := Except.ok.inj h
    apply PartOf.given hvalue (hcompile hpart)

/-- The outcome of an object: a rule that it describes, or nothing if it is idle. -/
inductive OutcomeOf [PatternReader] (kind : RuleKind) (members : Members) : Option Rule → Prop
  | idle : IsIdle kind members → OutcomeOf kind members none
  | kept {rule : Rule} : ¬ IsIdle kind members → RuleOf kind members rule →
      OutcomeOf kind members (some rule)

theorem outcomeOf_removeRule? [PatternReader] {rule? : Option Rule}
    (h : (removeRule? members).run.value = .ok rule?) :
  OutcomeOf .remove members rule?
  := by
  rw [removeRule?, run_value_bind, bind_eq_ok] at h
  obtain ⟨conditions, hconditions, h⟩ := h
  have hof := conditionsOf_conditions hconditions
  split at h
  · next hempty =>
    obtain rfl := Except.ok.inj h
    apply OutcomeOf.idle
    apply hof.isEmpty_iff.mp hempty
  · next hempty =>
    obtain rfl := Except.ok.inj h
    apply OutcomeOf.kept _ (.remove hof)
    apply mt hof.isEmpty_iff.mpr hempty

theorem outcomeOf_addRule? [PatternReader] {rule? : Option Rule}
    (h : (addRule? members).run.value = .ok rule?) :
  OutcomeOf .add members rule?
  := by
  rw [addRule?, run_value_bind, bind_eq_ok] at h
  obtain ⟨insertions, hinsertions, h⟩ := h
  have hof := insertionsOf_insertions hinsertions
  split at h
  · next hempty =>
    obtain rfl := Except.ok.inj h
    apply OutcomeOf.idle
    apply hof.isEmpty_iff.mp hempty
  · next hempty =>
    obtain rfl := Except.ok.inj h
    apply OutcomeOf.kept _ (.add hof)
    apply mt hof.isEmpty_iff.mpr hempty

theorem outcomeOf_modifyRule? [PatternReader] {rule? : Option Rule}
    (h : (modifyRule? members).run.value = .ok rule?) :
  OutcomeOf .modify members rule?
  := by
  rw [modifyRule?] at h
  split at h
  · contradiction
  · next value hvalue =>
    simp only [run_value_bind, bind_eq_ok, membersOf_eq_ok] at h
    obtain ⟨matching, rfl, conditions, hconditions, h⟩ := h
    have hof := conditionsOf_conditions hconditions
    split at h
    · next hempty =>
      obtain rfl := Except.ok.inj h
      apply OutcomeOf.idle
      exact ⟨matching, hvalue, hof.isEmpty_iff.mp hempty⟩
    · next hempty =>
      -- Only now are the other blocks looked at, in the order in which they are applied.
      simp only [run_value_bind, bind_eq_ok] at h
      obtain ⟨delete, hdelete, replace, hreplace, insert, hinsert, h⟩ := h
      obtain rfl := Except.ok.inj h
      apply OutcomeOf.kept
      · rintro ⟨matching', hmatching', hvacuous⟩
        obtain rfl : matching = matching' := by simpa [hvalue] using hmatching'
        apply hempty (hof.isEmpty_iff.mpr hvacuous)
      · apply RuleOf.modify hvalue hof
        · apply partOf_block? conditionsOf_conditions hdelete
        · apply partOf_block? replacementsOf_replacements hreplace
        · apply partOf_block? insertionsOf_insertions hinsert

theorem outcomeOf_objectRule? [PatternReader] {rule? : Option Rule}
    (h : (objectRule? kind members).run.value = .ok rule?) :
  OutcomeOf kind members rule?
  := by
  cases kind with
  | remove => apply outcomeOf_removeRule? h
  | add => apply outcomeOf_addRule? h
  | modify => apply outcomeOf_modifyRule? h

/-! ### The rules of a section -/

/-- The rules of some objects belong to them one by one. -/
theorem rulesOf_objectRules [PatternReader] (h : (objectRules kind objects).run.value = .ok rules) :
  RulesOf kind objects rules
  := by
  rw [objectRules, run_value_bind, bind_eq_ok] at h
  obtain ⟨outcomes, houtcomes, h⟩ := h
  obtain rfl := Except.ok.inj h
  rw [run_value_mapM_eq_ok] at houtcomes
  clear h
  -- The objects and their outcomes are related one by one; only outcomes that are rules are kept.
  induction houtcomes with
  | nil => apply RulesOf.nil
  | cons houtcome _ ih =>
    cases outcomeOf_objectRule? houtcome with
    | idle hidle => apply RulesOf.idle hidle ih
    | kept hkept hrule => apply RulesOf.kept hkept hrule ih

/-- What a text of a section lists, if it can be compiled, is rule objects. -/
theorem listed_of_sectionObjects {fragment : String}
    (h : (sectionObjects kind fragment).run.value = .ok objects) :
  ∃ value, Json.read fragment = .ok value ∧ listed value = objects.map .object
  := by
  cases hread : Json.read fragment with
  | error reason =>
    rw [sectionObjects, hread] at h
    contradiction
  | ok value =>
    use value, rfl
    rw [sectionObjects_eq hread, run_value_mapM_eq_ok] at h
    rw [← List.forall₂_eq_eq_eq, List.forall₂_map_right_iff]
    apply h.imp
    intro item members hitem
    cases item <;> simp_all [sectionObject]

theorem sectionHolds_of_sectionRules [PatternReader]
    (h : (sectionRules sections kind (objectRule? kind)).run.value = .ok rules) :
  ∃ objects, SectionHolds sections kind objects
  := by
  rw [sectionRules, run_value_bind, bind_eq_ok] at h
  obtain ⟨lists, hlists, -⟩ := h
  rw [run_value_mapM_eq_ok] at hlists
  unfold SectionHolds
  generalize sections.fragments kind.name = fragments at hlists ⊢
  induction hlists with
  | nil => exact ⟨[], [], rfl, rfl⟩
  | cons hlist _ ih =>
    rw [fragmentRules, run_value_bind, bind_eq_ok] at hlist
    obtain ⟨objects, hobjects, -⟩ := hlist
    obtain ⟨value, hvalue, hlisted⟩ := listed_of_sectionObjects hobjects
    obtain ⟨others, values, hvalues, hothers⟩ := ih
    use objects ++ others, value :: values
    simp [hvalue, hvalues, hlisted, hothers]

/-! ### Entities without attributes and connections -/

/-- The conditions of a rule, if it has any. -/
def Rule.conditions? : Rule → Option Conditions
  | .remove conditions => some conditions
  | .add _ => none
  | .modify conditions _ => some conditions

/-- An entity that shows neither attributes nor connections. -/
structure IsBare {ε : Type} [EntityView ε] (entity : ε) : Prop where
  attribute?_eq_none : ∀ name, EntityView.attribute? entity name = none
  shownConnections_eq_nil : shownConnections entity = []

/-- A bare entity satisfies no conditions, if there are any. -/
theorem IsBare.holds_eq_false {ε : Type} [EntityView ε] {entity : ε} (h : IsBare entity)
    {conditions : Conditions} (hconditions : ¬ conditions.isEmpty = true) :
  conditions.holds entity = false
  := by
  obtain ⟨attributes, connections⟩ := conditions
  cases attributes with
  | cons entry attributes => simp [Conditions.holds, hasAttribute, h.attribute?_eq_none]
  | nil =>
    cases connections with
    | cons pattern connections => simp [Conditions.holds, h.shownConnections_eq_nil]
    | nil => contradiction

/-- The conditions of a rule are empty only if its object is idle. -/
theorem RuleOf.isIdle [PatternReader] {conditions : Conditions} (h : RuleOf kind members rule)
    (hconditions : rule.conditions? = some conditions) (hempty : conditions.isEmpty = true) :
  IsIdle kind members
  := by
  cases h with
  | remove hof =>
    obtain rfl := Option.some.inj hconditions
    apply hof.isEmpty_iff.mp hempty
  | add hof => contradiction
  | modify hmatch hof hdelete hreplace hinsert =>
    obtain rfl := Option.some.inj hconditions
    exact ⟨_, hmatch, hof.isEmpty_iff.mp hempty⟩

theorem RulesOf.conditions_not_isEmpty [PatternReader] (h : RulesOf kind objects rules) :
  ∀ rule ∈ rules, ∀ conditions, rule.conditions? = some conditions →
    ¬ conditions.isEmpty = true
  := by
  induction h with
  | nil => simp
  | idle hidle hrules ih => apply ih
  | kept hkept hrule hrules ih =>
    intro rule hmem conditions hconditions hempty
    rcases List.mem_cons.mp hmem with rfl | hmem
    · apply hkept (hrule.isIdle hconditions hempty)
    · apply ih rule hmem conditions hconditions hempty

/-! ### Documents -/

/-- Rules that belong to the objects of some sections: first the removals, then the additions, then
the modifications. -/
def RulesOfSections [PatternReader] (sections : Sections) (rules : List Rule) : Prop :=
  ∃ (objects : RuleKind → List Members) (removals additions modifications : List Rule),
    (∀ kind, SectionHolds sections kind (objects kind)) ∧
    RulesOf .remove (objects .remove) removals ∧ RulesOf .add (objects .add) additions ∧
    RulesOf .modify (objects .modify) modifications ∧
    rules = removals ++ additions ++ modifications

theorem rulesOf_sectionRules [PatternReader]
    (h : (sectionRules sections kind (objectRule? kind)).run.value = .ok rules) :
  ∃ objects, SectionHolds sections kind objects ∧ RulesOf kind objects rules
  := by
  obtain ⟨objects, hholds⟩ := sectionHolds_of_sectionRules h
  rw [sectionRules_eq hholds] at h
  exact ⟨objects, hholds, rulesOf_objectRules h⟩

/-- The rules of a document are those of its sections, kind by kind. -/
theorem compileSections_eq_ok_iff [PatternReader] :
  (compileSections sections).run.value = .ok rules ↔
    ∃ found : RuleKind → List Rule, rules = byKind found ∧
      ∀ kind, (sectionRules sections kind (objectRule? kind)).run.value = .ok (found kind)
  := by
  simp only [compileSections, run_value_bind, bind_eq_ok]
  constructor
  · rintro ⟨removals, hremovals, additions, hadditions, modifications, hmodifications, h⟩
    use fun kind => kind.casesOn removals additions modifications, (Except.ok.inj h).symm
    intro kind
    cases kind with
    | remove => apply hremovals
    | add => apply hadditions
    | modify => apply hmodifications
  · rintro ⟨found, rfl, hfound⟩
    exact ⟨_, hfound .remove, _, hfound .add, _, hfound .modify, rfl⟩

theorem rulesOfSections_compileSections [PatternReader]
    (h : (compileSections sections).run.value = .ok rules) :
  RulesOfSections sections rules
  := by
  obtain ⟨found, rfl, hfound⟩ := compileSections_eq_ok_iff.mp h
  choose objects hholds hrules using fun kind => rulesOf_sectionRules (hfound kind)
  exact ⟨objects, _, _, _, hholds, hrules .remove, hrules .add, hrules .modify, rfl⟩

/-- A bare entity satisfies the conditions of none of the rules. -/
theorem RulesOfSections.holds_eq_false [PatternReader] (h : RulesOfSections sections rules)
    {ε : Type} [EntityView ε] {entity : ε} (hbare : IsBare entity) :
  ∀ rule ∈ rules, ∀ conditions, rule.conditions? = some conditions →
    conditions.holds entity = false
  := by
  obtain ⟨objects, removals, additions, modifications, -, hremovals, hadditions, hmodifications,
    rfl⟩ := h
  intro rule hmem conditions hconditions
  apply hbare.holds_eq_false
  rcases List.mem_append.mp hmem with hmem | hmem
  · rcases List.mem_append.mp hmem with hmem | hmem
    · apply hremovals.conditions_not_isEmpty rule hmem conditions hconditions
    · apply hadditions.conditions_not_isEmpty rule hmem conditions hconditions
  · apply hmodifications.conditions_not_isEmpty rule hmem conditions hconditions

/-- A document that gives rules can be parsed, and its sections are compiled to them. -/
theorem sections_of_ofDocument [PatternReader] {text : String} {file : RuleFile}
    (h : (RuleFile.ofDocument text).run.value = .ok file) :
  ∃ sections, parse text = .ok sections ∧
    (compileSections sections).run.value = .ok file.rules
  := by
  unfold RuleFile.ofDocument at h
  split at h
  · simp at h
  · next sections hparse =>
    rw [run_value_bind, bind_eq_ok] at h
    obtain ⟨rules, hrules, h⟩ := h
    obtain rfl := Except.ok.inj h
    rw [run_value_adapt, mapError_eq_ok] at hrules
    exact ⟨sections, hparse, hrules⟩

theorem ofDocument_of_sections [PatternReader] {text : String} (hparse : parse text = .ok sections)
    (h : (compileSections sections).run.value = .ok rules) :
  (RuleFile.ofDocument text).run.value = .ok ⟨rules⟩
  := by
  rw [ofDocument_eq hparse, run_value_bind, run_value_adapt, h]
  rfl

/-- The rules of a document belong to the objects in its sections, and none of them removes or
modifies a bare entity. -/
theorem ofDocument_rules [PatternReader] {text : String} {file : RuleFile}
    (h : (RuleFile.ofDocument text).run.value = .ok file) :
  (∃ sections, parse text = .ok sections ∧ RulesOfSections sections file.rules) ∧
    ∀ {ε : Type} [EntityView ε] (entity : ε), IsBare entity →
      ∀ rule ∈ file.rules, ∀ conditions, rule.conditions? = some conditions →
        conditions.holds entity = false
  := by
  obtain ⟨sections, hparse, hcompile⟩ := sections_of_ofDocument h
  have hrules := rulesOfSections_compileSections hcompile
  refine ⟨⟨sections, hparse, hrules⟩, ?_⟩
  intro ε _ entity hbare
  apply hrules.holds_eq_false hbare

/-- The text of a document with an idle object of each kind, a removal and an addition. -/
def idleText : String :=
  "\x7b\"modify\":\x7b\"match\":\x7b\"io\":[]\x7d\x7d,\"add\":[\x7b\x7d,\x7b\"b\":\"c\"\x7d]," ++
    "\"filter\":[\x7b\"a\":true\x7d,\x7b\x7d]\x7d"

/-- The rules of that document. -/
def idleRules : List Rule :=
  [.remove { attributes := [("a", .boolean true)] }, .add { attributes := [("b", "c")] }]

open scoped PatternReader in
/-- A document with vacuous objects among others. -/
theorem ofDocument_rules_idle :
  (RuleFile.ofDocument idleText).run.value = .ok ⟨idleRules⟩ ∧
    (∃ sections, parse idleText = .ok sections ∧ RulesOfSections sections idleRules) ∧
    Conditions.holds { attributes := [("a", .boolean true)] } ({} : Entity) = false
  := by
  have hfile : (RuleFile.ofDocument idleText).run.value = .ok ⟨idleRules⟩ := rfl
  obtain ⟨hsections, hbare⟩ := ofDocument_rules hfile
  refine ⟨hfile, hsections, ?_⟩
  apply hbare ({} : Entity) ⟨fun _ => rfl, rfl⟩ _ List.mem_cons_self _ rfl

end LumpRules
