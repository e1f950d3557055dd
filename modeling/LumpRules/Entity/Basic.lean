import LumpRules.Entity.View
import LumpRules.Entries
import LumpRules.Text.Ascii

/-!
# Entities and lumps in memory

An `Entity` keeps its attributes in the order in which they were first set, each under the
spelling of that time; names are compared ignoring the case of ASCII letters.  While it is queued
for spawn it refuses to let connections go.  A `Lump` is a named list of entities.
-/

namespace LumpRules

open Text

/-- An entity. -/
structure Entity where
  attributes : Entries String := []
  connections : List Connection := []
  queuedForSpawn : Bool := false
  allocation : Allocation := .host

namespace Entity

/-- The value of an attribute. -/
def get? (entity : Entity) (name : String) : Option String :=
  entity.attributes.get? lowerAscii name

/-- The entity with an attribute set. -/
def set (entity : Entity) (name value : String) : Entity :=
  { entity with attributes := entity.attributes.put lowerAscii name value }

/-- The entity without an attribute. -/
def erase (entity : Entity) (name : String) : Entity :=
  { entity with attributes := entity.attributes.erase lowerAscii name }

/-- An attribute that was set has its new value under every spelling of its name. -/
@[simp]
theorem get?_set {entity : Entity} {name value other : String} :
  (entity.set name value).get? other =
    if sameName name other then some value else entity.get? other
  := by
  simp [get?, set]

/-- An attribute that was erased is gone under every spelling of its name. -/
@[simp]
theorem get?_erase {entity : Entity} {name other : String} :
  (entity.erase name).get? other = if sameName name other then none else entity.get? other
  := by
  simp [get?, erase]

/-- The entity with a connection added at the end. -/
def addConnection (entity : Entity) (connection : Connection) : Entity :=
  { entity with connections := entity.connections ++ [connection] }

/-- The entity without the connection of an index, unless it is queued or has none there. -/
def eraseConnection? (entity : Entity) (index : Nat) : Option Entity :=
  if entity.queuedForSpawn || entity.connections.length ≤ index then none
  else some { entity with connections := entity.connections.eraseIdx index }

/-- The entity, queued for spawn or not. -/
def setQueued (entity : Entity) (queued : Bool) : Entity :=
  { entity with queuedForSpawn := queued }

/-- Whether two entities are equal. -/
def same (a b : Entity) : Bool :=
  a.attributes == b.attributes && a.connections.length == b.connections.length &&
    (a.connections.zip b.connections).all (fun (x, y) => x.same y) &&
    a.queuedForSpawn == b.queuedForSpawn && a.allocation == b.allocation

instance : EntityView Entity where
  attribute? := get?
  setAttribute := set
  eraseAttribute := erase
  connectionCount entity := entity.connections.length
  connection? entity index := entity.connections[index]?
  addConnection := addConnection
  eraseConnection? := eraseConnection?
  isQueuedForSpawn := queuedForSpawn

end Entity

/-- The name of the lump that holds the default entities of a level. -/
def defaultLump : String := "default_ents"

/-- A lump of entities. -/
structure Lump where
  name : String
  entities : List Entity := []

namespace Lump

/-- The lump with an entity added at the end. -/
def push (lump : Lump) (entity : Entity) : Lump :=
  { lump with entities := lump.entities ++ [entity] }

/-- The lump without the entity of an index, if it has one there. -/
def eraseEntity (lump : Lump) (index : Nat) : Lump :=
  { lump with entities := lump.entities.eraseIdx index }

/-- The lump with the entity of an index replaced, if it has one there. -/
def setEntity (lump : Lump) (index : Nat) (entity : Entity) : Lump :=
  { lump with entities := lump.entities.set index entity }

/-- The first entity whose attribute has a value, ignoring the case of ASCII letters in both. -/
def find? (lump : Lump) (name value : String) : Option Entity :=
  lump.entities.find? fun entity => (entity.get? name).any (sameName · value)

/-- Whether two lumps are equal. -/
def same (a b : Lump) : Bool :=
  a.name == b.name && a.entities.length == b.entities.length &&
    (a.entities.zip b.entities).all fun (x, y) => x.same y

instance : LumpView Lump Entity where
  name lump := lump.name
  size lump := lump.entities.length
  entity? lump index := lump.entities[index]?
  setEntity := setEntity
  eraseEntity := eraseEntity
  createEntity lump allocation change := lump.push (change { allocation })

end Lump

end LumpRules
