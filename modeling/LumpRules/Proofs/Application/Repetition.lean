import LumpRules.Proofs.Application.Patch
import LumpRules.Proofs.Application.Reference
import Mathlib.Data.List.Forall2

/-!
# Modifications made again

A mutation that makes no connection gives every name either a value of its own or the old value
unless it deletes it, and keeps the connections that it does not delete.  Both are the same when
they are done twice (`Mutation.Patches.settled`).  So a rule with such a mutation changes nothing
more when it is applied again (`modify_idempotent`), whether the entities it has modified still
satisfy its conditions or not.  Only the order of their attributes may change, since an attribute
that is deleted and set again goes to the end.
-/

namespace LumpRules

/-- Whether two entities have the same value for every name, in any case, and the same connections,
are queued alike and made alike. -/
structure Entity.Alike (a b : Entity) : Prop where
  value : ∀ name, a.get? name = b.get? name
  connections : a.connections = b.connections
  queuedForSpawn : a.queuedForSpawn = b.queuedForSpawn
  allocation : a.allocation = b.allocation

theorem Entity.Alike.refl (entity : Entity) :
  entity.Alike entity
  where
  value _ := rfl
  connections := rfl
  queuedForSpawn := rfl
  allocation := rfl

/-- A mutation that makes no connection. -/
structure Mutation.ConnectsNothing (mutation : Mutation) : Prop where
  replace : ∀ replacements ∈ mutation.replace, replacements.connection = none
  insert : ∀ insertions ∈ mutation.insert, insertions.connections = []

variable {options : Options} {name : String} {conditions : Conditions} {mutation : Mutation}
  {entity changed again : Entity} {errors errors' : List ApplyError}

namespace Mutation

theorem ConnectsNothing.filled_replaced (h : mutation.ConnectsNothing) :
  (mutation.replaced? options).elim [] Insertions.filled = []
  := by
  cases hreplaced : mutation.replaced? options with
  | none => rfl
  | some part =>
    have hpart : part ∈ mutation.replacing? options := (Option.mem_filter_iff.mp hreplaced).1
    rw [replacing?] at hpart
    split at hpart
    · obtain ⟨replacements, hreplacements, rfl⟩ := Option.map_eq_some_iff.mp hpart
      simp [Insertions.filled, Replacements.asInsertions, h.replace replacements hreplacements]
    · contradiction

theorem ConnectsNothing.filled_inserted (h : mutation.ConnectsNothing) :
  mutation.inserted?.elim [] Insertions.filled = []
  := by
  cases hinserted : mutation.inserted? with
  | none => rfl
  | some part =>
    have hpart : part ∈ mutation.insert := (Option.mem_filter_iff.mp hinserted).1
    simp [Insertions.filled, h.insert part hpart]

/-- What has been mutated once is not changed by the same mutation. -/
theorem Patches.settled (hmutation : mutation.ConnectsNothing)
    (h : mutation.Patches options entity changed errors)
    (h' : mutation.Patches options changed again errors') :
  changed.Alike again
  where
  value name := by
    rw [h'.value, h.value]
    cases mutation.inserted?.bind (·.lastValue? name) with
    | some inserted => rfl
    | none =>
      cases (mutation.replaced? options).bind (·.lastValue? name) with
      | some replaced => rfl
      | none =>
        rw [Option.none_or, Option.none_or, Option.none_or, Option.none_or, Option.filter_filter]
        simp only [Bool.and_self]
  connections := by
    rw [h'.connections, h.connections, h.queuedForSpawn, hmutation.filled_replaced,
      hmutation.filled_inserted, List.append_nil, List.append_nil, List.append_nil,
      List.append_nil, List.filter_filter]
    simp only [Bool.and_self]
  queuedForSpawn := h'.queuedForSpawn.symm
  allocation := h'.allocation.symm

end Mutation

/-- An entity that a rule has visited is not changed by the next visit, whether or not it satisfies
the conditions then. -/
theorem visit_idempotent (hmutation : mutation.ConnectsNothing) (entity : Entity) :
  let visit entity := ((Rule.modify conditions mutation).visit options name entity).1
  (visit entity).Alike (visit (visit entity))
  := by
  intro visit
  have hmatched : ∀ entity, conditions.holds entity = true →
      visit entity = (applyMutation options name mutation entity).value.1 := by
    intro entity h
    simp [visit, Rule.visit, h]
  have hpassed : ∀ entity, ¬ conditions.holds entity = true → visit entity = entity := by
    intro entity h
    simp [visit, Rule.visit, h]
  by_cases hagain : conditions.holds (visit entity) = true
  · by_cases hfirst : conditions.holds entity = true
    · rw [hmatched (visit entity) hagain, hmatched entity hfirst]
      apply Mutation.Patches.settled hmutation
      · exact (applyMutation_patches options name mutation entity).1
      · exact (applyMutation_patches options name mutation _).1
    · rw [hpassed entity hfirst] at hagain
      rw [hpassed entity hfirst, hpassed entity hfirst]
      apply Entity.Alike.refl
  · rw [hpassed (visit entity) hagain]
    apply Entity.Alike.refl

/-- A rule that modifies goes through the entities and does nothing else. -/
theorem value_applyRules_modify (conditions : Conditions) (mutation : Mutation)
    (options : Options) (lump : Lump) :
  (applyRules [.modify conditions mutation] options lump).value.1 =
    { lump with
      entities := lump.entities.map fun entity =>
        ((Rule.modify conditions mutation).visit options lump.name entity).1 }
  := by
  rw [applyRules_eq_applyEach]
  simp [applyEach, arrivals, additions, Rule.removes, Entity.patched, List.filter_eq_self.mpr]

/-- A rule whose mutation makes no connection changes no value, no connection and no number of
entities when it is applied again. -/
theorem modify_idempotent (hmutation : mutation.ConnectsNothing) (conditions : Conditions)
    (options : Options) (lump : Lump) :
  let apply (lump : Lump) := (applyRules [.modify conditions mutation] options lump).value.1
  List.Forall₂ Entity.Alike (apply lump).entities (apply (apply lump)).entities ∧
    (apply (apply lump)).entities.length = lump.entities.length
  := by
  intro apply
  simp only [apply, value_applyRules_modify, List.length_map, and_true]
  rw [List.forall₂_map_right_iff, List.forall₂_same]
  intro visited hvisited
  obtain ⟨entity, -, rfl⟩ := List.mem_map.mp hvisited
  apply visit_idempotent hmutation

/-- A mutation that deletes some of what it sets. -/
def repair : Mutation where
  delete := some {
    attributes := [("HEALTH", .literal "1*"), ("classname", .literal "door_old*")]
    connections := [{ output := some (.literal "OnBreak") }] }
  replace := some { attributes := [("health", "10")] }
  insert := some { attributes := [("speed", "5")] }

/-- A door that stays what it is, and one that ceases to be a door when it is repaired. -/
def brokenDoors : Lump where
  name := "default_ents"
  entities := [
    { attributes := [("Health", "0"), ("classname", "door")]
      connections := [{ output := "OnBreak", target := "alarm", input := "Trigger" }] },
    { attributes := [("classname", "door_old"), ("health", "1")] }]

/-- The second repair deletes the health of the first door and sets it again, so that it goes to
the end, and passes over what has been the second one. -/
theorem modify_idempotent_repair :
  let doors : Conditions := { attributes := [("classname", .literal "door*")] }
  let apply (lump : Lump) := (applyRules [.modify doors repair] {} lump).value.1
  repair.ConnectsNothing ∧
    (apply brokenDoors).entities.map Entity.attributes =
      [[("Health", "10"), ("classname", "door"), ("speed", "5")],
        [("health", "10"), ("speed", "5")]] ∧
    (apply (apply brokenDoors)).entities.map Entity.attributes =
      [[("classname", "door"), ("speed", "5"), ("health", "10")],
        [("health", "10"), ("speed", "5")]] ∧
    List.Forall₂ Entity.Alike (apply brokenDoors).entities
      (apply (apply brokenDoors)).entities ∧
    (apply (apply brokenDoors)).entities.length = 2
  := by
  intro doors apply
  have hrepair : repair.ConnectsNothing := by
    constructor
    · rintro replacements ⟨⟩
      rfl
    · rintro insertions ⟨⟩
      rfl
  refine ⟨hrepair, by decide, by decide, ?_⟩
  apply modify_idempotent hrepair doors {} brokenDoors

end LumpRules
