import LumpRules.Entity.Guarded
import LumpRules.Rule.Matching
import Mathlib.Data.List.Basic

/-!
# Hosts

A host keeps entities of its own kind, and behind each of them stands an entity in memory of which
it may hold something back.  `HostEntity` says what its `Guards` mean for what can be seen and done,
and `HostLump` that a lump is a list of such entities.  An entity satisfies the conditions that it
satisfies in memory if its connections are shown (`Conditions.holds_inner`), and none on
connections otherwise (`Conditions.holds_of_hides`).
-/

namespace LumpRules

/-- What a host holds back of an entity. -/
structure Guards where
  /-- The entity cannot be looked up. -/
  hidden : Bool := false
  /-- The connections of the entity cannot be looked up. -/
  hidesConnections : Bool := false
  /-- The entity keeps its connections. -/
  refusesRemoval : Bool := false
  deriving DecidableEq, Repr

/-- Entities of a host.  One that refuses removals may tell so by being queued for spawn, or not. -/
class HostEntity (ε : Type) [EntityView ε] where
  /-- The entity in memory that stands behind an entity of the host. -/
  inner : ε → Entity
  /-- What the host holds back. -/
  guards : ε → Guards
  attribute?_eq (entity : ε) (name : String) :
    EntityView.attribute? entity name = (inner entity).get? name
  inner_setAttribute (entity : ε) (name value : String) :
    inner (EntityView.setAttribute entity name value) = (inner entity).set name value
  guards_setAttribute (entity : ε) (name value : String) :
    guards (EntityView.setAttribute entity name value) = guards entity
  inner_eraseAttribute (entity : ε) (name : String) :
    inner (EntityView.eraseAttribute entity name) = (inner entity).erase name
  guards_eraseAttribute (entity : ε) (name : String) :
    guards (EntityView.eraseAttribute entity name) = guards entity
  connectionCount_eq {entity : ε} : (guards entity).hidesConnections = false →
    EntityView.connectionCount entity = (inner entity).connections.length
  connection?_hidden {entity : ε} (index : Nat) : (guards entity).hidesConnections = true →
    EntityView.connection? entity index = none
  connection?_shown {entity : ε} (index : Nat) : (guards entity).hidesConnections = false →
    EntityView.connection? entity index = (inner entity).connections[index]?
  inner_addConnection (entity : ε) (connection : Connection) :
    inner (EntityView.addConnection entity connection) = (inner entity).addConnection connection
  guards_addConnection (entity : ε) (connection : Connection) :
    guards (EntityView.addConnection entity connection) = guards entity
  eraseConnection?_refused {entity : ε} (index : Nat) : (guards entity).refusesRemoval = true →
    EntityView.eraseConnection? entity index = none
  eraseConnection?_granted {entity : ε} (index : Nat) : (guards entity).refusesRemoval = false →
    (EntityView.eraseConnection? entity index).map inner = (inner entity).eraseConnection? index
  guards_eraseConnection? {entity changed : ε} {index : Nat} :
    EntityView.eraseConnection? entity index = some changed → guards changed = guards entity
  queued_of_isQueued {entity : ε} : EntityView.isQueuedForSpawn entity = true →
    (guards entity).refusesRemoval = true ∨ (inner entity).queuedForSpawn = true

/-- Lumps of a host.  New entities are empty and nothing is held back of them. -/
class HostLump (σ : Type) (ε : outParam Type) [EntityView ε] [LumpView σ ε] [HostEntity ε] where
  /-- The entities of a lump, the hidden ones included. -/
  entities : σ → List ε
  size_eq (lump : σ) : LumpView.size lump = (entities lump).length
  entity?_eq (lump : σ) (index : Nat) :
    LumpView.entity? lump index =
      (entities lump)[index]?.filter fun entity => !(HostEntity.guards entity).hidden
  entities_setEntity (lump : σ) (index : Nat) (entity : ε) :
    entities (LumpView.setEntity lump index entity) = (entities lump).set index entity
  entities_eraseEntity (lump : σ) (index : Nat) :
    entities (LumpView.eraseEntity lump index) = (entities lump).eraseIdx index
  entities_createEntity (lump : σ) (allocation : Allocation) (change : ε → ε) :
    ∃ blank : ε, HostEntity.inner blank = { allocation } ∧ HostEntity.guards blank = {} ∧
      entities (LumpView.createEntity lump allocation change) = entities lump ++ [change blank]

namespace HostEntity

/-- Whether no connection can be taken away from an entity. -/
def keepsConnections {ε : Type} [EntityView ε] [HostEntity ε] (entity : ε) : Bool :=
  (guards entity).hidesConnections || (guards entity).refusesRemoval ||
    (inner entity).queuedForSpawn

end HostEntity

/-! ### Memory and guarded entities -/

instance : HostEntity Entity where
  inner entity := entity
  guards _ := {}
  attribute?_eq _ _ := rfl
  inner_setAttribute _ _ _ := rfl
  guards_setAttribute _ _ _ := rfl
  inner_eraseAttribute _ _ := rfl
  guards_eraseAttribute _ _ := rfl
  connectionCount_eq _ := rfl
  connection?_hidden _ h := by contradiction
  connection?_shown _ _ := rfl
  inner_addConnection _ _ := rfl
  guards_addConnection _ _ := rfl
  eraseConnection?_refused _ h := by contradiction
  eraseConnection?_granted _ _ := Option.map_id'
  guards_eraseConnection? _ := rfl
  queued_of_isQueued h := .inr h

instance : HostLump Lump Entity where
  entities lump := lump.entities
  size_eq _ := rfl
  entity?_eq lump index := by
    cases h : lump.entities[index]? with
    | none => exact h
    | some entity => exact h
  entities_setEntity _ _ _ := rfl
  entities_eraseEntity _ _ := rfl
  entities_createEntity _ allocation _ := ⟨{ allocation }, rfl, rfl, rfl⟩

instance : HostEntity GuardedEntity where
  inner entity := entity.toEntity
  guards entity := ⟨entity.hidden, entity.hidesConnections, entity.refusesRemoval⟩
  attribute?_eq _ _ := rfl
  inner_setAttribute _ _ _ := rfl
  guards_setAttribute _ _ _ := rfl
  inner_eraseAttribute _ _ := rfl
  guards_eraseAttribute _ _ := rfl
  connectionCount_eq _ := rfl
  connection?_hidden _ h := if_pos h
  connection?_shown _ h := if_neg (Bool.eq_false_iff.mp h)
  inner_addConnection _ _ := rfl
  guards_addConnection _ _ := rfl
  eraseConnection?_refused _ h := if_pos h
  eraseConnection?_granted {entity} index h := by
    have hgranted : entity.refusesRemoval = false := h
    simp [EntityView.eraseConnection?, hgranted, Function.comp_def]
  guards_eraseConnection? {entity changed index} h := by
    simp only [EntityView.eraseConnection?] at h
    split at h
    · contradiction
    · obtain ⟨inner, -, rfl⟩ := Option.map_eq_some_iff.mp h
      rfl
  queued_of_isQueued h := by contradiction

instance : HostLump GuardedLump GuardedEntity where
  entities lump := lump.entities
  size_eq _ := rfl
  entity?_eq _ _ := rfl
  entities_setEntity _ _ _ := rfl
  entities_eraseEntity _ _ := rfl
  entities_createEntity _ allocation _ := ⟨{ allocation }, rfl, rfl, rfl⟩

section Entities

open HostEntity

variable {ε : Type} [EntityView ε] [HostEntity ε] {entity : ε}

/-! ### Conditions -/

/-- Looking up every index of a list gives the list. -/
theorem filterMap_getElem?_range {α : Type} (items : List α) :
  (List.range items.length).filterMap (fun index => items[index]?) = items
  := by
  induction items with
  | nil => rfl
  | cons item items ih =>
    rw [List.length_cons, List.range_succ_eq_map, List.filterMap_cons, List.filterMap_map]
    simpa [Function.comp_def] using ih

theorem shownConnections_of_hides (h : (guards entity).hidesConnections = true) :
  shownConnections entity = []
  := by
  rw [shownConnections, List.filterMap_eq_nil_iff]
  intro index _
  apply connection?_hidden index h

theorem shownConnections_inner (h : (guards entity).hidesConnections = false) :
  shownConnections entity = (inner entity).connections
  := by
  have hshown : EntityView.connection? entity =
      fun index => (inner entity).connections[index]? := by
    funext index
    apply connection?_shown index h
  rw [shownConnections, connectionCount_eq h, hshown, filterMap_getElem?_range]

/-- An entity that hides its connections satisfies no conditions on them. -/
theorem Conditions.holds_of_hides {conditions : Conditions}
    (h : (guards entity).hidesConnections = true) (hconnections : conditions.connections ≠ []) :
  conditions.holds entity = false
  := by
  rw [holds, shownConnections_of_hides h, Bool.and_eq_false_iff]
  right
  cases hpatterns : conditions.connections with
  | nil => contradiction
  | cons pattern patterns => rfl

/-- An entity that shows its connections satisfies the conditions that it satisfies in memory. -/
theorem Conditions.holds_inner {conditions : Conditions}
    (h : (guards entity).hidesConnections = false) :
  conditions.holds entity = conditions.holds (inner entity)
  := by
  have hmemory : shownConnections (inner entity) = (inner entity).connections :=
    shownConnections_inner rfl
  simp only [holds, hasAttribute, attribute?_eq, shownConnections_inner h, hmemory]
  rfl

end Entities

end LumpRules
