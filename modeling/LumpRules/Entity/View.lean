import LumpRules.Rule.Connection

/-!
# What a host shows of its entities

Rules work on entities through `EntityView` and on lumps of entities through `LumpView`.  A host
may keep entities and connections to itself: then the look-up by index finds nothing, although
they still count.  It may also refuse to remove a connection, in which case nothing changes.
-/

namespace LumpRules

/-- Who made an entity. -/
inductive Allocation where
  | host
  | external
  deriving DecidableEq, Repr

/-- An entity with named attributes and numbered connections. -/
class EntityView (ε : Type) where
  /-- The value of an attribute. -/
  attribute? : ε → String → Option String
  /-- The entity with an attribute created or overwritten. -/
  setAttribute : ε → String → String → ε
  /-- The entity without an attribute. -/
  eraseAttribute : ε → String → ε
  /-- How many connections the entity has. -/
  connectionCount : ε → Nat
  /-- The connection of an index, if the host shows it. -/
  connection? : ε → Nat → Option Connection
  /-- The entity with a connection added at the end. -/
  addConnection : ε → Connection → ε
  /-- The entity without the connection of an index, unless the host refuses. -/
  eraseConnection? : ε → Nat → Option ε
  /-- Whether the entity is waiting to be spawned. -/
  isQueuedForSpawn : ε → Bool

/-- A named list of entities. -/
class LumpView (σ : Type) (ε : outParam Type) where
  /-- The name of the lump. -/
  name : σ → String
  /-- How many entities the lump has. -/
  size : σ → Nat
  /-- The entity of an index, if the host shows it. -/
  entity? : σ → Nat → Option ε
  /-- The lump with the entity of an index replaced by its new state. -/
  setEntity : σ → Nat → ε → σ
  /-- The lump without the entity of an index; later ones move down. -/
  eraseEntity : σ → Nat → σ
  /-- The lump with a new entity at the end, which is empty but for a first change. -/
  createEntity : σ → Allocation → (ε → ε) → σ

end LumpRules
