import LumpRules.Entity.Basic

/-!
# Entities that a host guards

A guarded entity is an entity of which the host holds something back: it may be hidden
altogether, it may hide its connections, or refuse to let them go.  It never tells that it is
queued for spawn, but still refuses removals then.
-/

namespace LumpRules

/-- An entity and what its host holds back of it. -/
structure GuardedEntity extends Entity where
  /-- The entity cannot be looked up. -/
  hidden : Bool := false
  /-- The connections of the entity cannot be looked up. -/
  hidesConnections : Bool := false
  /-- The entity keeps its connections. -/
  refusesRemoval : Bool := false

instance : EntityView GuardedEntity where
  attribute? entity := entity.toEntity.get?
  setAttribute entity name value := { entity with toEntity := entity.toEntity.set name value }
  eraseAttribute entity name := { entity with toEntity := entity.toEntity.erase name }
  connectionCount entity := entity.connections.length
  connection? entity index :=
    if entity.hidesConnections then none else entity.connections[index]?
  addConnection entity connection :=
    { entity with toEntity := entity.toEntity.addConnection connection }
  eraseConnection? entity index :=
    if entity.refusesRemoval then none
    else (entity.toEntity.eraseConnection? index).map fun inner =>
      { entity with toEntity := inner }
  isQueuedForSpawn _ := false

/-- A lump of guarded entities. -/
structure GuardedLump where
  name : String
  entities : List GuardedEntity := []

instance : LumpView GuardedLump GuardedEntity where
  name lump := lump.name
  size lump := lump.entities.length
  entity? lump index := lump.entities[index]?.filter (!·.hidden)
  setEntity lump index entity := { lump with entities := lump.entities.set index entity }
  eraseEntity lump index := { lump with entities := lump.entities.eraseIdx index }
  createEntity lump allocation change :=
    { lump with
      entities := lump.entities ++ [change { toEntity := { allocation } }] }

end LumpRules
