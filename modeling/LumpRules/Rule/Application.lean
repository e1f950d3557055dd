import LumpRules.Rule.Matching
import LumpRules.Rule.Rendering
import LumpRules.Event
import LumpRules.Options

/-!
# Applying rules

`applyRules` applies a list of rules to a lump in three passes: first all removals, then all
additions, then all modifications.  A part of a rule that describes an incomplete connection
changes nothing and leaves an error in the report.
-/

namespace LumpRules

section Entities

variable {ε : Type} [EntityView ε]

/-- An entity in one line, as logs show it. -/
def describeEntity (entity : ε) : String :=
  (EntityView.attribute? entity "classname").getD "<no classname>" ++
    ((EntityView.attribute? entity "targetname").elim "" fun name => " '" ++ name ++ "'") ++
    " (" ++ toString (EntityView.connectionCount entity) ++ " connections)"

/-- The entity with attributes set and connections added, in order. -/
def setAll (attributes : Entries String) (connections : List Connection) (entity : ε) :
    ε :=
  connections.foldl EntityView.addConnection
    (attributes.foldl (fun entity (key, value) => EntityView.setAttribute entity key value) entity)

/-- The entity without an attribute, if its value is as expected. -/
def deleteAttribute (entity : ε) (key : String) (expected : RuleValue) : ε :=
  if hasAttribute entity key expected true then EntityView.eraseAttribute entity key else entity

/-- The entity without those of its first `count` connections that satisfy a pattern, latest
first. -/
def deleteConnections (patterns : List ConnectionPattern) : (count : Nat) → ε → Logged ε
  | 0, entity => pure entity
  | index + 1, entity => do
    let isMatch :=
      (EntityView.connection? entity index).any fun connection =>
        patterns.any (·.accepts connection)
    if isMatch then
      match EntityView.eraseConnection? entity index with
      | some entity => deleteConnections patterns index entity
      | none => do
        Logged.event (.removalRefused index)
        deleteConnections patterns index entity
    else
      deleteConnections patterns index entity

/-- The entity without the attributes and connections that conditions name.  While it is queued
for spawn it keeps its connections. -/
def applyDelete (deletions : Conditions) (entity : ε) : Logged ε := do
  let entity := deletions.attributes.foldl
    (fun entity (key, expected) => deleteAttribute entity key expected) entity
  if deletions.connections.isEmpty then
    return entity
  else if EntityView.isQueuedForSpawn entity then do
    Logged.event .connectionsKept
    return entity
  else
    deleteConnections deletions.connections (EntityView.connectionCount entity) entity

/-- The entity with attributes replaced and the replacement connection added. -/
def applyReplace (replacements : Replacements) (entity : ε) : Except ApplyError ε := do
  let connections ← replacements.connection.toList.mapM ConnectionTemplate.build
  return setAll replacements.attributes connections entity

/-- The entity with attributes and connections inserted. -/
def applyInsert (insertions : Insertions) (entity : ε) : Except ApplyError ε := do
  let connections ← insertions.connections.mapM ConnectionTemplate.build
  return setAll insertions.attributes connections entity

/-- The outcome of a part of a mutation: the entity as changed, or as it was together with an
error, which is also logged. -/
def attempt (skipped : ApplyError → Event) (entity : ε) (changed : Except ApplyError ε) :
    Logged (ε × List ApplyError) :=
  match changed with
  | .ok changed => return (changed, [])
  | .error error => do
    Logged.event (skipped error)
    return (entity, [error])

/-- The entity after a mutation, and the errors met. -/
def applyMutation (options : Options) (lump : String) (mutation : Mutation) (entity : ε) :
    Logged (ε × List ApplyError) := do
  let entity ←
    match mutation.delete with
    | some deletions => applyDelete deletions entity
    | none => pure entity
  let (entity, replaceErrors) ←
    match mutation.replace with
    | some replacements =>
      if options.replaceEnabled then
        attempt (.replacementSkipped lump) entity (applyReplace replacements entity)
      else
        pure (entity, [])
    | none => pure (entity, [])
  let (entity, insertErrors) ←
    match mutation.insert with
    | some insertions =>
      attempt (.insertionSkipped lump) entity (applyInsert insertions entity)
    | none => pure (entity, [])
  return (entity, replaceErrors ++ insertErrors)

end Entities

section Lumps

variable {ε σ : Type} [EntityView ε] [LumpView σ ε]

/-- A lump in the course of a run, with the report so far. -/
structure Run (σ : Type) where
  lump : σ
  report : Report := {}

/-- Removes the entity of an index if it is shown and satisfies the conditions. -/
def removeAt (options : Options) (lump : String) (conditions : Conditions) (run : Run σ)
    (index : Nat) : Logged (Run σ) :=
  match LumpView.entity? run.lump index with
  | none => pure run
  | some entity =>
    if conditions.holds entity then do
      Logged.eventIf options.verbose
        (.entityRemoved lump (describeEntity entity) conditions.toJson.render)
      return ⟨LumpView.eraseEntity run.lump index,
        { run.report with removed := run.report.removed + 1 }⟩
    else
      pure run

/-- Removes those of the first `count` entities that are shown and satisfy the conditions, latest
first. -/
def removeBelow (options : Options) (lump : String) (conditions : Conditions) :
    (count : Nat) → Run σ → Logged (Run σ)
  | 0, run => pure run
  | index + 1, run => do
    removeBelow options lump conditions index (← removeAt options lump conditions run index)

/-- Adds the entity that insertions describe, if all its connections can be built. -/
def addEntity (options : Options) (lump : String) (insertions : Insertions) (run : Run σ) :
    Logged (Run σ) :=
  match insertions.connections.mapM ConnectionTemplate.build with
  | .ok connections => do
    Logged.eventIf options.verbose (.entityAdded lump
      (Json.object [("insertions", insertions.toJson)]).render)
    return ⟨LumpView.createEntity run.lump .external (setAll insertions.attributes connections),
      { run.report with added := run.report.added + 1 }⟩
  | .error error => do
    Logged.event (.addSkipped lump error)
    return { run with report := { run.report with errors := run.report.errors ++ [error] } }

/-- Changes the entity of an index if it is shown and satisfies the conditions. -/
def modifyAt (options : Options) (lump : String) (conditions : Conditions) (mutation : Mutation)
    (run : Run σ) (index : Nat) : Logged (Run σ) :=
  match LumpView.entity? run.lump index with
  | none => pure run
  | some entity =>
    if conditions.holds entity then do
      let (changed, errors) ← applyMutation options lump mutation entity
      Logged.eventIf options.verbose
        (.entityModified lump (describeEntity entity) (describeEntity changed)
          mutation.toJson.render)
      return ⟨LumpView.setEntity run.lump index changed,
        { run.report with
          modified := run.report.modified + 1
          errors := run.report.errors ++ errors }⟩
    else
      pure run

/-- The part of a rule in the pass of removals. -/
def removeStep (options : Options) (lump : String) (run : Run σ) : Rule → Logged (Run σ)
  | .remove conditions =>
    removeBelow options lump conditions (LumpView.size run.lump) run
  | _ => pure run

/-- The part of a rule in the pass of additions. -/
def addStep (options : Options) (lump : String) (run : Run σ) : Rule → Logged (Run σ)
  | .add insertions => addEntity options lump insertions run
  | _ => pure run

/-- The part of a rule in the pass of modifications. -/
def modifyStep (options : Options) (lump : String) (run : Run σ) : Rule → Logged (Run σ)
  | .modify conditions mutation =>
    (List.range (LumpView.size run.lump)).foldlM
      (modifyAt options lump conditions mutation) run
  | _ => pure run

/-- The lump after all rules have been applied, and the report. -/
def applyRules (rules : List Rule) (options : Options) (lump : σ) : Logged (σ × Report) := do
  let name := LumpView.name lump
  let run ← rules.foldlM (removeStep options name) ⟨lump, {}⟩
  let run ← rules.foldlM (addStep options name) run
  let run ← rules.foldlM (modifyStep options name) run
  return (run.lump, run.report)

end Lumps

end LumpRules
