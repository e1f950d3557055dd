import LumpRules.Proofs.Application.Mirroring

/-!
# What a mutation makes of an entity

The three parts of a mutation may name the same attribute, in different cases and more than once,
and the last two are made only if none of their connections is incomplete.  `Mutation.Patches` tells
the outcome in memory name by name and connection by connection, without the order in which it
comes about, and `applyMutation_patches` says that `applyMutation` has this outcome.

Replacements set attributes and add connections as insertions do, so that both parts are taken as
insertions here.
-/

namespace LumpRules

open Text

/-! ### Connections to be made -/

namespace ConnectionTemplate

variable {field : RequiredField} {value : Option String}

/-- What a template gives for a required part. -/
def given (template : ConnectionTemplate) : RequiredField → Option String
  | .output => template.output
  | .input => template.input
  | .target => template.target

/-- Whether a required part is missing or blank. -/
def lacks (template : ConnectionTemplate) (field : RequiredField) : Bool :=
  (template.given field).all fun text => text.toList.all isBlank

/-- The first required part that is missing or blank. -/
def lack? (template : ConnectionTemplate) : Option RequiredField :=
  [.output, .input, .target].find? template.lacks

/-- The connection that a template describes if it lacks nothing. -/
def filled (template : ConnectionTemplate) : Connection where
  output := template.output.getD ""
  target := template.target.getD ""
  input := template.input.getD ""
  param := template.param.getD ""
  delay := template.delay.getD defaultDelay
  limit := template.limit.getD defaultLimit

theorem required_eq :
  required field value =
    if value.all fun text => text.toList.all isBlank then .error (.incompleteConnection field)
    else .ok (value.getD "")
  := by
  cases value with
  | none => rfl
  | some text => rfl

/-- A template is built unless it lacks a part, and the error names the first one. -/
theorem build_eq (template : ConnectionTemplate) :
  template.build =
    match template.lack? with
    | some field => .error (.incompleteConnection field)
    | none => .ok template.filled
  := by
  have hlacks (field : RequiredField) : ((template.given field).all fun text =>
    text.toList.all isBlank) = template.lacks field := rfl
  have houtput := hlacks .output
  have hinput := hlacks .input
  have htarget := hlacks .target
  simp only [given] at houtput hinput htarget
  simp only [build, required_eq, houtput, hinput, htarget, lack?, List.find?_cons, List.find?_nil]
  cases template.lacks .output with
  | true => rfl
  | false =>
    cases template.lacks .input with
    | true => rfl
    | false =>
      cases template.lacks .target with
      | true => rfl
      | false => rfl

/-- Of several templates the first one that lacks a part is to blame. -/
theorem mapM_build_eq (templates : List ConnectionTemplate) :
  templates.mapM build =
    match templates.findSome? lack? with
    | some field => .error (.incompleteConnection field)
    | none => .ok (templates.map filled)
  := by
  induction templates with
  | nil => rfl
  | cons template templates ih =>
    rw [List.mapM_cons, build_eq, ih, List.findSome?_cons]
    cases template.lack? with
    | some field => rfl
    | none =>
      cases templates.findSome? lack? with
      | some field => rfl
      | none => rfl

end ConnectionTemplate

/-! ### Parts of a mutation -/

/-- Replacements as insertions. -/
def Replacements.asInsertions (replacements : Replacements) : Insertions where
  attributes := replacements.attributes
  connections := replacements.connection.toList

/-- The first required part that is missing or blank in the first incomplete connection. -/
def Insertions.lack? (insertions : Insertions) : Option RequiredField :=
  insertions.connections.findSome? ConnectionTemplate.lack?

/-- Whether no connection is incomplete. -/
def Insertions.isComplete (insertions : Insertions) : Bool :=
  insertions.lack?.isNone

/-- The value of the last attribute of a name. -/
def Insertions.lastValue? (insertions : Insertions) (name : String) : Option String :=
  (insertions.attributes.filter fun entry => sameName entry.1 name).getLast?.map Prod.snd

/-- The connections that are described. -/
def Insertions.filled (insertions : Insertions) : List Connection :=
  insertions.connections.map ConnectionTemplate.filled

namespace Mutation

variable (options : Options) (mutation : Mutation)

/-- The replacements, unless there are none or they are disabled. -/
def replacing? : Option Insertions :=
  if options.replaceEnabled then mutation.replace.map Replacements.asInsertions else none

/-- The replacements that are made. -/
def replaced? : Option Insertions :=
  (mutation.replacing? options).filter Insertions.isComplete

/-- The insertions that are made. -/
def inserted? : Option Insertions :=
  mutation.insert.filter Insertions.isComplete

/-- Whether a value of a name is to be deleted. -/
def deletes (name value : String) : Bool :=
  mutation.delete.any fun deletions => deletions.attributes.any fun (key, expected) =>
    sameName key name && expected.accepts value true

/-- Whether a connection is to be deleted. -/
def disconnects (connection : Connection) : Bool :=
  mutation.delete.any fun deletions => deletions.connections.any (·.accepts connection)

/-- The mutation without the parts in which a connection is incomplete. -/
def complete : Mutation where
  delete := mutation.delete
  replace := mutation.replace.filter (·.asInsertions.isComplete)
  insert := mutation.insert.filter Insertions.isComplete

/-- What a mutation makes of an entity. -/
structure Patches (entity changed : Entity) (errors : List ApplyError) : Prop where
  /-- The value of a name, in any case, is the last one inserted, else the last one replaced, else
  the old one unless it is deleted. -/
  value : ∀ name, changed.get? name =
    (mutation.inserted?.bind (·.lastValue? name)).or
      (((mutation.replaced? options).bind (·.lastValue? name)).or
        ((entity.get? name).filter (!mutation.deletes name ·)))
  /-- Old connections that are deleted are gone, unless the entity is queued for spawn, and new ones
  follow the others. -/
  connections : changed.connections =
    entity.connections.filter (fun connection =>
        entity.queuedForSpawn || !mutation.disconnects connection) ++
      (mutation.replaced? options).elim [] Insertions.filled ++
      mutation.inserted?.elim [] Insertions.filled
  queuedForSpawn : changed.queuedForSpawn = entity.queuedForSpawn
  allocation : changed.allocation = entity.allocation
  /-- Replacements and insertions that are not made leave an error each. -/
  errors : errors =
    [mutation.replacing? options, mutation.insert].filterMap fun part? =>
      (part?.bind Insertions.lack?).map ApplyError.incompleteConnection

end Mutation

variable {options : Options} {lump : String} {mutation : Mutation} {entity : Entity}

/-! ### Deletions -/

theorem get?_deleteAttribute (key name : String) (expected : RuleValue) :
  (deleteAttribute entity key expected).get? name =
    (entity.get? name).filter fun value => !(sameName key name && expected.accepts value true)
  := by
  have hattribute : hasAttribute entity key expected true =
    (entity.get? key).any (expected.accepts · true) := rfl
  have herase : EntityView.eraseAttribute entity key = entity.erase key := rfl
  rw [deleteAttribute, hattribute, herase]
  cases hname : sameName key name with
  | false =>
    rw [apply_ite (Entity.get? · name), Entity.get?_erase, hname, if_neg Bool.false_ne_true,
      ite_self]
    cases entity.get? name <;> rfl
  | true =>
    have hfound : entity.get? key = entity.get? name :=
      Entries.get?_congr (sameName_iff.mp hname)
    rw [apply_ite (Entity.get? · name), Entity.get?_erase, hname, hfound]
    cases entity.get? name with
    | none => rfl
    | some value => cases haccepts : expected.accepts value true <;> simp [haccepts, Option.filter]

/-- An attribute is deleted if its value is as one of the deletions of its name expects. -/
theorem get?_foldl_deleteAttribute (entity : Entity) (attributes : Entries RuleValue)
    (name : String) :
  (attributes.foldl (fun entity (key, expected) => deleteAttribute entity key expected)
      entity).get? name =
    (entity.get? name).filter fun value =>
      !attributes.any fun (key, expected) => sameName key name && expected.accepts value true
  := by
  induction attributes generalizing entity with
  | nil =>
    show entity.get? name = (entity.get? name).filter fun _ => true
    cases entity.get? name <;> rfl
  | cons entry attributes ih =>
    obtain ⟨key, expected⟩ := entry
    rw [List.foldl_cons, ih, get?_deleteAttribute, Option.filter_filter]
    simp only [List.any_cons, Bool.not_or, Bool.and_comm]

/-- Deleting attributes changes nothing else. -/
theorem foldl_deleteAttribute (entity : Entity) (attributes : Entries RuleValue) :
  ∃ held, attributes.foldl (fun entity (key, expected) => deleteAttribute entity key expected)
    entity = { entity with attributes := held }
  := by
  induction attributes generalizing entity with
  | nil => exact ⟨entity.attributes, rfl⟩
  | cons entry attributes ih =>
    obtain ⟨held, hheld⟩ := ih (deleteAttribute entity entry.1 entry.2)
    use held
    rw [List.foldl_cons, hheld, deleteAttribute]
    split <;> rfl

/-- Deleting the connections below the length of a first part of them is a filter of that part. -/
theorem deleteConnections_value {patterns : List ConnectionPattern}
    {before after : List Connection} (hqueued : entity.queuedForSpawn = false)
    (h : entity.connections = before ++ after) :
  (deleteConnections patterns before.length entity).value =
    { entity with
      connections :=
        before.filter (fun connection => !patterns.any (·.accepts connection)) ++ after }
  := by
  -- The loop runs from the last index down, so the part is taken apart from its end.
  induction before using List.reverseRecOn generalizing entity after with
  | nil => simp [deleteConnections, ← h]
  | append_singleton before connection ih =>
    have hsplit : entity.connections = before ++ connection :: after := by simp [h]
    have hshown : EntityView.connection? entity before.length = some connection := by
      simp [EntityView.connection?, hsplit]
    have herase : EntityView.eraseConnection? entity before.length =
        some { entity with connections := before ++ after } := by
      simp [EntityView.eraseConnection?, Entity.eraseConnection?, hqueued, hsplit,
        List.eraseIdx_append_of_length_le]
    rw [List.length_append, List.length_singleton, deleteConnections_succ, strikeAt, hshown, herase]
    cases haccepts : patterns.any (·.accepts connection) with
    | true =>
      have hchanged := @ih { entity with connections := before ++ after } after hqueued rfl
      rw [Option.any_some, haccepts, if_pos rfl, Option.getD_some, hchanged]
      simp [haccepts]
    | false =>
      rw [Option.any_some, haccepts, if_neg Bool.false_ne_true, ih hqueued hsplit]
      simp [haccepts]

/-- An entity that is queued for spawn keeps its connections, and of any other those are deleted
that satisfy a pattern. -/
theorem releaseConnections_eq (patterns : List ConnectionPattern) :
  releaseConnections patterns entity =
    { entity with
      connections := entity.connections.filter fun connection =>
        entity.queuedForSpawn || !patterns.any (·.accepts connection) }
  := by
  have htold : EntityView.isQueuedForSpawn entity = entity.queuedForSpawn := rfl
  rw [releaseConnections, htold]
  cases hqueued : entity.queuedForSpawn with
  | true => simp [List.filter_eq_self.mpr, ← hqueued]
  | false =>
    have hall : entity.connections = entity.connections ++ [] := (List.append_nil _).symm
    have hcount : EntityView.connectionCount entity = entity.connections.length := rfl
    rw [if_neg Bool.false_ne_true, hcount, deleteConnections_value hqueued hall]
    simp [hqueued]

/-- Deletions filter the values of a name, and the connections unless the entity is queued. -/
theorem value_applyDelete (mutation : Mutation) (entity : Entity) :
  ∃ held,
    (mutation.applyDelete entity).value =
      { entity with
        attributes := held
        connections := entity.connections.filter fun connection =>
          entity.queuedForSpawn || !mutation.disconnects connection } ∧
      ∀ name, held.get? lowerAscii name =
        (entity.get? name).filter (!mutation.deletes name ·)
  := by
  rw [Mutation.applyDelete]
  unfold Mutation.disconnects Mutation.deletes
  cases mutation.delete with
  | none =>
    use entity.attributes
    constructor
    · simp [List.filter_eq_self.mpr]
    · intro name
      show entity.get? name = (entity.get? name).filter fun _ => true
      cases entity.get? name <;> rfl
  | some deletions =>
    obtain ⟨held, hheld⟩ := foldl_deleteAttribute entity deletions.attributes
    use held
    constructor
    · simp only [applyDelete_value, hheld, releaseConnections_eq, Option.any_some]
      cases hnone : deletions.connections with
      | nil => simp [List.filter_eq_self.mpr]
      | cons pattern patterns => rfl
    · intro name
      have hget := get?_foldl_deleteAttribute entity deletions.attributes name
      rw [hheld] at hget
      apply hget

/-! ### Replacements and insertions -/

/-- The last of the values set for a name is the one that is found. -/
theorem get?_foldl_set (attributes : Entries String) (name : String) :
  (attributes.foldl (fun entity (key, value) => entity.set key value) entity).get? name =
    ((attributes.filter fun entry => sameName entry.1 name).getLast?.map Prod.snd).or
      (entity.get? name)
  := by
  induction attributes using List.reverseRecOn with
  | nil => rfl
  | append_singleton attributes entry ih =>
    rw [List.foldl_append, List.foldl_cons, List.foldl_nil, Entity.get?_set, ih,
      List.filter_append, List.filter_singleton]
    cases sameName entry.1 name with
    | true => simp
    | false => simp

/-- The entity with the attributes and connections of a part of a mutation, if there is one. -/
def Entity.extend (entity : Entity) (part? : Option Insertions) : Entity :=
  part?.elim entity fun part => setAll part.attributes part.filled entity

namespace Entity

variable (entity : Entity) (part? : Option Insertions)

theorem get?_extend (name : String) :
  (entity.extend part?).get? name = (part?.bind (·.lastValue? name)).or (entity.get? name)
  := by
  cases part? with
  | none => rfl
  | some part =>
    rw [extend, Option.elim_some, Option.bind_some, Insertions.lastValue?, ← get?_foldl_set,
      setAll_eq, foldl_set]
    rfl

theorem connections_extend :
  (entity.extend part?).connections = entity.connections ++ part?.elim [] Insertions.filled
  := by
  cases part? with
  | none => exact (List.append_nil _).symm
  | some part =>
    rw [extend, Option.elim_some, setAll_eq]
    rfl

theorem queuedForSpawn_extend :
  (entity.extend part?).queuedForSpawn = entity.queuedForSpawn
  := by
  cases part? with
  | none => rfl
  | some part =>
    rw [extend, Option.elim_some, setAll_eq]

theorem allocation_extend :
  (entity.extend part?).allocation = entity.allocation
  := by
  cases part? with
  | none => rfl
  | some part =>
    rw [extend, Option.elim_some, setAll_eq]

end Entity

/-- A part of a mutation is made if it is complete, and leaves an error otherwise. -/
theorem value_attempt (skipped : ApplyError → Event) (part : Insertions) :
  (attempt skipped entity (applyInsert part entity)).value =
    (entity.extend ((some part).filter Insertions.isComplete),
      (part.lack?.map ApplyError.incompleteConnection).toList)
  := by
  rw [applyInsert, ConnectionTemplate.mapM_build_eq, Option.filter_some, Insertions.isComplete,
    Insertions.lack?]
  cases part.connections.findSome? ConnectionTemplate.lack? with
  | some field => rfl
  | none => rfl

theorem value_applyReplace (entity : Entity) :
  (mutation.applyReplace options.replaceEnabled lump entity).value =
    (entity.extend (mutation.replaced? options),
      (((mutation.replacing? options).bind Insertions.lack?).map
        ApplyError.incompleteConnection).toList)
  := by
  rw [Mutation.applyReplace, Mutation.replaced?, Mutation.replacing?]
  cases options.replaceEnabled with
  | false => cases mutation.replace <;> rfl
  | true =>
    cases mutation.replace with
    | none => rfl
    | some replacements =>
      apply value_attempt (.replacementSkipped lump) replacements.asInsertions

theorem value_applyInsert (entity : Entity) :
  (mutation.applyInsert lump entity).value =
    (entity.extend mutation.inserted?,
      ((mutation.insert.bind Insertions.lack?).map ApplyError.incompleteConnection).toList)
  := by
  rw [Mutation.applyInsert, Mutation.inserted?]
  cases mutation.insert with
  | none => rfl
  | some insertions => apply value_attempt (.insertionSkipped lump) insertions

/-! ### Mutations -/

theorem value_applyMutation :
  (applyMutation options lump mutation entity).value =
    (((mutation.applyDelete entity).value.extend (mutation.replaced? options)).extend
        mutation.inserted?,
      [mutation.replacing? options, mutation.insert].filterMap fun part? =>
        (part?.bind Insertions.lack?).map ApplyError.incompleteConnection)
  := by
  simp only [applyMutation_eq, Logged.value_bind, Logged.value_pure, value_applyReplace,
    value_applyInsert, List.filterMap_eq_flatMap_toList, List.flatMap_cons, List.flatMap_nil,
    List.append_nil]

/-- The parts that are made are all of those in the mutation without the others. -/
theorem replaced?_complete :
  mutation.complete.replaced? options = mutation.replaced? options
  := by
  rw [Mutation.replaced?, Mutation.replacing?, Mutation.complete, Mutation.replaced?,
    Mutation.replacing?]
  cases options.replaceEnabled with
  | false => rfl
  | true =>
    cases mutation.replace with
    | none => rfl
    | some replacements =>
      cases hcomplete : replacements.asInsertions.isComplete <;>
        simp [hcomplete, Option.filter_some]

theorem inserted?_complete :
  mutation.complete.inserted? = mutation.inserted?
  := by
  simp only [Mutation.inserted?, Mutation.complete, Option.filter_filter, Bool.and_self]

/-- A mutation makes of an entity in memory what it says, name by name and connection by
connection, and a part with an incomplete connection is as if it were missing but for its error. -/
theorem applyMutation_patches (options : Options) (lump : String) (mutation : Mutation)
    (entity : Entity) :
  let outcome := (applyMutation options lump mutation entity).value
  mutation.Patches options entity outcome.1 outcome.2 ∧
    outcome.1 = (applyMutation options lump mutation.complete entity).value.1
  := by
  intro outcome
  obtain ⟨held, hdeleted, hheld⟩ := value_applyDelete mutation entity
  have houtcome : outcome = _ := value_applyMutation
  rw [hdeleted] at houtcome
  constructor
  · rw [houtcome]
    constructor
    case value =>
      intro name
      rw [Entity.get?_extend, Entity.get?_extend, ← hheld]
      rfl
    case connections => rw [Entity.connections_extend, Entity.connections_extend]
    case queuedForSpawn => rw [Entity.queuedForSpawn_extend, Entity.queuedForSpawn_extend]
    case allocation => rw [Entity.allocation_extend, Entity.allocation_extend]
    case errors => rfl
  · rw [houtcome, value_applyMutation, replaced?_complete, inserted?_complete, ← hdeleted]
    rfl

/-- An attribute that is deleted and replaced under other spellings is back at the end, and an
insertion without a target is not made. -/
example :
    let mutation : Mutation := {
      delete := some { attributes := [("HEALTH", .literal "1*")] }
      replace := some { attributes := [("health", "20"), ("Health", "30")] }
      insert := some {
        attributes := [("Health", "40")]
        connections := [{ output := "OnUser1", input := "Kill" }] } }
    let entity : Entity := { attributes := [("health", "100"), ("model", "a.mdl")] }
    let outcome := (applyMutation {} "default_ents" mutation entity).value
    outcome.1.attributes = [("model", "a.mdl"), ("health", "30")] ∧
      outcome.2 = [.incompleteConnection .target] := by
  decide

end LumpRules
