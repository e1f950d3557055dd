import LumpRules.Entity.Basic
import LumpRules.Rule.Application
import Mathlib.Algebra.GroupWithZero.Nat
import Mathlib.Data.List.Induction

/-!
# The passes of a run over a lump in memory

Each pass of `applyRules` goes through the indices of the entities and changes the lump in place.
Here each of them is brought into the form of one operation on the list of entities:
`removeStep_value` says that a removal is a filter, and `modifyStep_value` that a modification is
a map, both with what they add to the report.  `visit` is what a rule does to a single entity in
the pass of modifications.
-/

namespace LumpRules

open Text

variable {options : Options} {name : String} {conditions : Conditions} {mutation : Mutation}
  {run : Run Lump} {before after : List Entity} {entity : Entity}

/-! ### Removals -/

/-- Whether a rule removes an entity. -/
def Rule.removes (entity : Entity) : Rule → Bool
  | .remove conditions => conditions.holds entity
  | _ => false

/-- Removing at an index takes out the entity there if it satisfies the conditions. -/
theorem removeAt_value (h : run.lump.entities = before ++ entity :: after) :
  (removeAt options name conditions run before.length).value =
    if conditions.holds entity then
      ⟨{ run.lump with entities := before ++ after },
        { run.report with removed := run.report.removed + 1 }⟩
    else run
  := by
  have hshown : LumpView.entity? run.lump before.length = some entity := by
    simp [LumpView.entity?, h]
  have herase : LumpView.eraseEntity run.lump before.length =
      { run.lump with entities := before ++ after } := by
    simp [LumpView.eraseEntity, Lump.eraseEntity, h, List.eraseIdx_append_of_length_le]
  unfold removeAt
  rw [hshown]
  by_cases hholds : conditions.holds entity
  · simp only [hholds, if_true, Logged.value_bind, Logged.value_pure, herase]
  · simp [hholds]

/-- A removal below the length of a first part of the entities is a filter of that part. -/
theorem removeBelow_value (h : run.lump.entities = before ++ after) :
  (removeBelow options name conditions before.length run).value =
    ⟨{ run.lump with entities := before.filter (!conditions.holds ·) ++ after },
      { run.report with removed := run.report.removed + before.countP conditions.holds }⟩
  := by
  -- The loop runs from the last index down, so the part is taken apart from its end.
  induction before using List.reverseRecOn generalizing run after with
  | nil => simp [removeBelow, ← h]
  | append_singleton before entity ih =>
    have hsplit : run.lump.entities = before ++ entity :: after := by simp [h]
    rw [List.length_append, List.length_singleton, removeBelow, Logged.value_bind,
      removeAt_value hsplit]
    by_cases hholds : conditions.holds entity
    · rw [if_pos hholds, ih rfl]
      simp [hholds, Nat.add_assoc, Nat.add_comm]
    · rw [if_neg hholds, ih hsplit]
      simp [hholds]

/-- The part of a rule in the pass of removals is a filter of the entities. -/
theorem removeStep_value {rule : Rule} :
  (removeStep options name run rule).value =
    ⟨{ run.lump with entities := run.lump.entities.filter (!rule.removes ·) },
      { run.report with
        removed := run.report.removed + run.lump.entities.countP rule.removes }⟩
  := by
  cases rule with
  | remove conditions =>
    have hall : run.lump.entities = run.lump.entities ++ [] := (List.append_nil _).symm
    simp only [removeStep, LumpView.size]
    rw [removeBelow_value hall]
    simp [Rule.removes]
  | add insertions => simp [removeStep, Rule.removes, List.filter_eq_self.mpr]
  | modify conditions mutation => simp [removeStep, Rule.removes, List.filter_eq_self.mpr]

/-- Entities that satisfy one of two tests are those that satisfy the first, and those of the
others that satisfy the second. -/
theorem countP_or {α : Type} {p q : α → Bool} {items : List α} :
  (items.countP fun a => p a || q a) =
    items.countP p + (items.filter fun a => !p a).countP q
  := by
  induction items with
  | nil => rfl
  | cons a items ih =>
    cases hp : p a <;> cases hq : q a <;> simp [hp, hq, ih] <;> omega

/-- The pass of removals keeps the entities that no rule removes. -/
theorem foldl_removeStep_value {rules : List Rule} :
  rules.foldl (fun run rule => (removeStep options name run rule).value) run =
    ⟨{ run.lump with
        entities := run.lump.entities.filter fun entity => !rules.any (·.removes entity) },
      { run.report with
        removed := run.report.removed +
          run.lump.entities.countP fun entity => rules.any (·.removes entity) }⟩
  := by
  induction rules generalizing run with
  | nil => simp [List.filter_eq_self.mpr]
  | cons rule rules ih =>
    rw [List.foldl_cons, removeStep_value, ih]
    simp only [List.any_cons, countP_or, List.filter_filter, Bool.not_or, Bool.and_comm,
      Nat.add_assoc]

/-! ### Additions -/

/-- The entity that insertions describe: new, with their attributes set in order and exactly the
connections that they make. -/
def Insertions.create (insertions : Insertions) : Except ApplyError Entity := do
  let connections ← insertions.connections.mapM ConnectionTemplate.build
  let blank : Entity := {}
  let named := insertions.attributes.foldl (fun entity (key, value) => entity.set key value) blank
  return { named with connections, allocation := .external }

/-- The error of an outcome, if it is one. -/
def errorOf? {ε α : Type} : Except ε α → Option ε
  | .error error => some error
  | .ok _ => none

/-- What the additions among some rules come to, in order. -/
def additions (rules : List Rule) : List (Except ApplyError Entity) :=
  rules.filterMap fun
    | .add insertions => some insertions.create
    | _ => none

theorem foldl_set {attributes : Entries String} {entity : Entity} :
  attributes.foldl (fun entity (key, value) => entity.set key value) entity =
    { entity with
      attributes := attributes.foldl (fun held (key, value) => held.put lowerAscii key value)
        entity.attributes }
  := by
  induction attributes generalizing entity with
  | nil => rfl
  | cons entry entries ih =>
    rw [List.foldl_cons, ih]
    rfl

theorem foldl_addConnection {connections : List Connection} {entity : Entity} :
  connections.foldl Entity.addConnection entity =
    { entity with connections := entity.connections ++ connections }
  := by
  induction connections generalizing entity with
  | nil => simp
  | cons connection connections ih =>
    rw [List.foldl_cons, ih]
    simp [Entity.addConnection]

theorem setAll_eq {attributes : Entries String} {connections : List Connection} {entity : Entity} :
  setAll attributes connections entity =
    { entity with
      attributes := attributes.foldl (fun held (key, value) => held.put lowerAscii key value)
        entity.attributes
      connections := entity.connections ++ connections }
  := by
  have hadd : setAll attributes connections entity = _ := foldl_addConnection
  have hset : attributes.foldl (fun entity (key, value) => EntityView.setAttribute entity key value)
    entity = _ := foldl_set
  rw [hadd, hset]

/-- Setting attributes and adding connections on a new external entity makes the entity that
insertions describe. -/
theorem create_of_build {insertions : Insertions} {connections : List Connection}
    (h : insertions.connections.mapM ConnectionTemplate.build = .ok connections) :
  insertions.create =
    .ok (setAll insertions.attributes connections { allocation := Allocation.external })
  := by
  simp [Insertions.create, h, setAll_eq, foldl_set, bind, Except.bind, pure, Except.pure]

/-- An addition puts the new entity at the end, or keeps the error. -/
theorem addStep_value {rule : Rule} :
  (addStep options name run rule).value =
    ⟨{ run.lump with
        entities := run.lump.entities ++ (additions [rule]).filterMap Except.toOption },
      { run.report with
        added := run.report.added + (additions [rule]).countP Except.isOk
        errors := run.report.errors ++ (additions [rule]).filterMap errorOf? }⟩
  := by
  cases rule with
  | remove conditions => simp [addStep, additions]
  | modify conditions mutation => simp [addStep, additions]
  | add insertions =>
    cases hbuild : insertions.connections.mapM ConnectionTemplate.build with
    | error error =>
      have hcreate : insertions.create = .error error := by
        simp [Insertions.create, hbuild, bind, Except.bind]
      simp [addStep, addEntity, additions, hbuild, hcreate, errorOf?, Except.toOption, Except.isOk,
        Except.toBool, List.filterMap_cons]
    | ok connections =>
      simp [addStep, addEntity, additions, hbuild, create_of_build hbuild, errorOf?,
        Except.toOption, Except.isOk, Except.toBool, LumpView.createEntity, Lump.push]

/-- The pass of additions puts the new entities at the end and keeps the errors. -/
theorem foldl_addStep_value {rules : List Rule} :
  rules.foldl (fun run rule => (addStep options name run rule).value) run =
    ⟨{ run.lump with
        entities := run.lump.entities ++ (additions rules).filterMap Except.toOption },
      { run.report with
        added := run.report.added + (additions rules).countP Except.isOk
        errors := run.report.errors ++ (additions rules).filterMap errorOf? }⟩
  := by
  induction rules generalizing run with
  | nil => simp [additions]
  | cons rule rules ih =>
    have happend : additions ([rule] ++ rules) = additions [rule] ++ additions rules :=
      List.filterMap_append
    rw [List.singleton_append] at happend
    rw [List.foldl_cons, addStep_value, ih, happend]
    simp [Nat.add_assoc]

/-! ### Modifications -/

/-- What a rule does to an entity in the pass of modifications: the entity afterwards and, if it
satisfied the conditions of the rule, the errors met. -/
def Rule.visit (options : Options) (name : String) (entity : Entity) :
    Rule → Entity × Option (List ApplyError)
  | .modify conditions mutation =>
    if conditions.holds entity then
      let (changed, errors) := (applyMutation options name mutation entity).value
      (changed, some errors)
    else (entity, none)
  | _ => (entity, none)

/-- Modifying at an index puts the visited entity in its place. -/
theorem modifyAt_value (h : run.lump.entities = before ++ entity :: after) :
  (modifyAt options name conditions mutation run before.length).value =
    let visited := (Rule.modify conditions mutation).visit options name entity
    ⟨{ run.lump with entities := before ++ visited.1 :: after },
      { run.report with
        modified := run.report.modified + if visited.2.isSome then 1 else 0
        errors := run.report.errors ++ visited.2.getD [] }⟩
  := by
  have hshown : LumpView.entity? run.lump before.length = some entity := by
    simp [LumpView.entity?, h]
  have hset : ∀ changed, LumpView.setEntity run.lump before.length changed =
      { run.lump with entities := before ++ changed :: after } := by
    intro changed
    simp [LumpView.setEntity, Lump.setEntity, h]
  unfold modifyAt
  rw [hshown]
  by_cases hholds : conditions.holds entity
  · simp only [Rule.visit, hholds, if_true, hset]
    rfl
  · simp [Rule.visit, hholds, ← h]

/-- Modifying a first part of the entities visits each of them. -/
theorem foldl_modifyAt_value (h : run.lump.entities = before ++ after) :
  (List.range before.length).foldl
      (fun run index => (modifyAt options name conditions mutation run index).value) run =
    let visited := before.map fun entity =>
      (Rule.modify conditions mutation).visit options name entity
    ⟨{ run.lump with entities := visited.map Prod.fst ++ after },
      { run.report with
        modified := run.report.modified + visited.countP (·.2.isSome)
        errors := run.report.errors ++ visited.flatMap (·.2.getD []) }⟩
  := by
  induction before using List.reverseRecOn generalizing after with
  | nil => simp [← h]
  | append_singleton before entity ih =>
    have hsplit : run.lump.entities = before ++ entity :: after := by simp [h]
    rw [List.length_append, List.length_singleton, List.range_succ, List.foldl_append,
      ih hsplit, List.foldl_cons, List.foldl_nil]
    have hlength : before.length = ((before.map fun entity =>
        (Rule.modify conditions mutation).visit options name entity).map Prod.fst).length := by
      simp
    rw [hlength, modifyAt_value rfl]
    simp [List.countP_append, List.countP_cons, Nat.add_assoc]

/-- The part of a rule in the pass of modifications visits every entity. -/
theorem modifyStep_value {rule : Rule} :
  (modifyStep options name run rule).value =
    let visited := run.lump.entities.map fun entity => rule.visit options name entity
    ⟨{ run.lump with entities := visited.map Prod.fst },
      { run.report with
        modified := run.report.modified + visited.countP (·.2.isSome)
        errors := run.report.errors ++ visited.flatMap (·.2.getD []) }⟩
  := by
  cases rule with
  | remove conditions =>
    simp [modifyStep, Rule.visit, Function.comp_def, List.flatMap_eq_nil_iff.mpr]
  | add insertions =>
    simp [modifyStep, Rule.visit, Function.comp_def, List.flatMap_eq_nil_iff.mpr]
  | modify conditions mutation =>
    have hall : run.lump.entities = run.lump.entities ++ [] := (List.append_nil _).symm
    simp only [modifyStep, LumpView.size]
    rw [Logged.value_foldlM, foldl_modifyAt_value hall]
    simp

end LumpRules
