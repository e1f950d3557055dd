import LumpRules.Proofs.Application.Passes
import LumpRules.Proofs.Application.Mutation
import LumpRules.Proofs.Entity.Host

/-!
# Changes that mirror those in memory

A change of the entities of a host `Mirrors` a change in memory if it leaves alone what the host
holds back, takes no connection from an entity that keeps them, and does to an unguarded entity what
is done in memory.  Such changes compose, and every part of a mutation is one of them, which gives
`mirrors_applyMutation`.
-/

namespace LumpRules

open HostEntity

variable {ε : Type} [EntityView ε]

/-! ### Deletions of connections -/

/-- The entity without the connection of an index, if that satisfies a pattern and the host lets it
go. -/
def strikeAt (patterns : List ConnectionPattern) (index : Nat) (entity : ε) : ε :=
  if (EntityView.connection? entity index).any fun connection =>
      patterns.any (·.accepts connection) then
    (EntityView.eraseConnection? entity index).getD entity
  else entity

theorem deleteConnections_succ (patterns : List ConnectionPattern) (index : Nat) (entity : ε) :
  (deleteConnections patterns (index + 1) entity).value =
    (deleteConnections patterns index (strikeAt patterns index entity)).value
  := by
  rw [deleteConnections, strikeAt]
  split
  · cases EntityView.eraseConnection? entity index with
    | none => rfl
    | some changed => rfl
  · rfl

/-- The entity without the connections that satisfy a pattern, unless it tells that it is queued for
spawn. -/
def releaseConnections (patterns : List ConnectionPattern) (entity : ε) : ε :=
  if EntityView.isQueuedForSpawn entity then entity
  else (deleteConnections patterns (EntityView.connectionCount entity) entity).value

theorem applyDelete_value (deletions : Conditions) (entity : ε) :
  (applyDelete deletions entity).value =
    let named := deletions.attributes.foldl
      (fun entity (key, expected) => deleteAttribute entity key expected) entity
    if deletions.connections.isEmpty then named
    else releaseConnections deletions.connections named
  := by
  rw [applyDelete]
  split
  · rfl
  · rw [releaseConnections]
    split <;> rfl

variable [HostEntity ε] {entity : ε} {options : Options} {name : String}

/-! ### Changes that mirror those in memory -/

/-- What a change of the entities of a host has to do with one in memory. -/
structure Mirrors (change : ε → ε) (plain : Entity → Entity) : Prop where
  guards_eq (entity : ε) : guards (change entity) = guards entity
  queued_eq (entity : ε) :
    (inner (change entity)).queuedForSpawn = (inner entity).queuedForSpawn
  kept {entity : ε} : keepsConnections entity = true →
    (inner entity).connections <+: (inner (change entity)).connections
  inner_eq {entity : ε} : guards entity = {} → inner (change entity) = plain (inner entity)

namespace Mirrors

variable {change change' : ε → ε} {plain plain' : Entity → Entity}

/-- An entity keeps its connections as long as the host holds the same back. -/
theorem keepsConnections_eq (h : Mirrors change plain) (entity : ε) :
  keepsConnections (change entity) = keepsConnections entity
  := by
  rw [keepsConnections, keepsConnections, h.guards_eq, h.queued_eq]

theorem id :
  Mirrors (fun entity : ε => entity) (fun entity => entity)
  where
  guards_eq _ := rfl
  queued_eq _ := rfl
  kept _ := List.prefix_rfl
  inner_eq _ := rfl

theorem comp (h' : Mirrors change' plain') (h : Mirrors change plain) :
  Mirrors (fun entity => change' (change entity)) (fun entity => plain' (plain entity))
  where
  guards_eq entity := by rw [h'.guards_eq, h.guards_eq]
  queued_eq entity := by rw [h'.queued_eq, h.queued_eq]
  kept {entity} hkeeps := by
    apply (h.kept hkeeps).trans
    apply h'.kept
    rw [h.keepsConnections_eq, hkeeps]
  inner_eq {entity} hguards := by
    rw [h'.inner_eq, h.inner_eq hguards]
    rw [h.guards_eq, hguards]

/-- A choice between two changes, made as in memory. -/
theorem ite (test : ε → Bool) (plainTest : Entity → Bool)
    (htest : ∀ entity, guards entity = {} → test entity = plainTest (inner entity))
    (h : Mirrors change plain) (h' : Mirrors change' plain') :
  Mirrors (fun entity => if test entity then change entity else change' entity)
    (fun entity => if plainTest entity then plain entity else plain' entity)
  where
  guards_eq entity := by
    split
    · apply h.guards_eq
    · apply h'.guards_eq
  queued_eq entity := by
    split
    · apply h.queued_eq
    · apply h'.queued_eq
  kept {entity} hkeeps := by
    split
    · apply h.kept hkeeps
    · apply h'.kept hkeeps
  inner_eq {entity} hguards := by
    rw [htest entity hguards]
    split
    · apply h.inner_eq hguards
    · apply h'.inner_eq hguards

/-- Changes made one after the other. -/
theorem foldl {ι : Type} {change : ι → ε → ε} {plain : ι → Entity → Entity}
    (h : ∀ item, Mirrors (change item) (plain item)) (items : List ι) :
  Mirrors (fun entity => items.foldl (fun entity item => change item entity) entity)
    (fun entity => items.foldl (fun entity item => plain item entity) entity)
  := by
  induction items with
  | nil => exact Mirrors.id
  | cons item items ih => exact ih.comp (h item)

end Mirrors

/-! ### Mutations -/

theorem mirrors_setAttribute (name value : String) :
  Mirrors (fun entity : ε => EntityView.setAttribute entity name value)
    (fun entity => EntityView.setAttribute entity name value)
  where
  guards_eq entity := guards_setAttribute entity name value
  queued_eq entity := by
    rw [inner_setAttribute]
    rfl
  kept _ := by
    rw [inner_setAttribute]
    exact List.prefix_rfl
  inner_eq _ := inner_setAttribute _ name value

theorem mirrors_eraseAttribute (name : String) :
  Mirrors (fun entity : ε => EntityView.eraseAttribute entity name)
    (fun entity => EntityView.eraseAttribute entity name)
  where
  guards_eq entity := guards_eraseAttribute entity name
  queued_eq entity := by
    rw [inner_eraseAttribute]
    rfl
  kept _ := by
    rw [inner_eraseAttribute]
    exact List.prefix_rfl
  inner_eq _ := inner_eraseAttribute _ name

theorem mirrors_addConnection (connection : Connection) :
  Mirrors (fun entity : ε => EntityView.addConnection entity connection)
    (fun entity => EntityView.addConnection entity connection)
  where
  guards_eq entity := guards_addConnection entity connection
  queued_eq entity := by
    rw [inner_addConnection]
    rfl
  kept {entity} _ := by
    rw [inner_addConnection]
    exact List.prefix_append (inner entity).connections [connection]
  inner_eq _ := inner_addConnection _ connection

theorem mirrors_setAll (attributes : Entries String) (connections : List Connection) :
  Mirrors (setAll attributes connections : ε → ε) (setAll attributes connections)
  :=
  (Mirrors.foldl mirrors_addConnection connections).comp
    (Mirrors.foldl (fun entry => mirrors_setAttribute entry.1 entry.2) attributes)

theorem mirrors_deleteAttribute (key : String) (expected : RuleValue) :
  Mirrors (fun entity : ε => deleteAttribute entity key expected)
    (fun entity => deleteAttribute entity key expected)
  := by
  apply Mirrors.ite
  · intro entity _
    rw [hasAttribute, attribute?_eq]
    rfl
  · apply mirrors_eraseAttribute
  · exact Mirrors.id

/-- From an entity that keeps its connections none is taken. -/
theorem strikeAt_of_keeps {patterns : List ConnectionPattern} {index : Nat}
    (h : keepsConnections entity = true) :
  strikeAt patterns index entity = entity
  := by
  rw [strikeAt]
  cases hhides : (guards entity).hidesConnections with
  | true => rw [connection?_hidden index hhides, Option.any_none, if_neg Bool.false_ne_true]
  | false =>
    have hrefused : EntityView.eraseConnection? entity index = none := by
      cases hrefuses : (guards entity).refusesRemoval with
      | true => apply eraseConnection?_refused index hrefuses
      | false =>
        have hqueued : (inner entity).queuedForSpawn = true := by
          simpa [keepsConnections, hhides, hrefuses] using h
        have hgranted := eraseConnection?_granted index hrefuses
        rw [Entity.eraseConnection?, hqueued, Bool.true_or, if_pos rfl] at hgranted
        apply Option.map_eq_none_iff.mp hgranted
    rw [hrefused, Option.getD_none, ite_self]

theorem mirrors_strikeAt (patterns : List ConnectionPattern) (index : Nat) :
  Mirrors (strikeAt patterns index : ε → ε) (strikeAt patterns index)
  where
  guards_eq entity := by
    rw [strikeAt]
    split
    · cases herase : EntityView.eraseConnection? entity index with
      | none => rfl
      | some changed => apply guards_eraseConnection? herase
    · rfl
  queued_eq entity := by
    cases hkeeps : keepsConnections entity with
    | true => rw [strikeAt_of_keeps hkeeps]
    | false =>
      have hrefuses : (guards entity).refusesRemoval = false := by
        simp only [keepsConnections, Bool.or_eq_false_iff] at hkeeps
        exact hkeeps.1.2
      have hgranted := eraseConnection?_granted index hrefuses
      rw [strikeAt]
      split
      · cases herase : EntityView.eraseConnection? entity index with
        | none => rfl
        | some changed =>
          rw [herase, Option.map_some, Entity.eraseConnection?] at hgranted
          split at hgranted
          · contradiction
          · rw [Option.getD_some, Option.some.inj hgranted]
      · rfl
  kept {entity} hkeeps := by
    simp only [strikeAt_of_keeps hkeeps, List.prefix_rfl]
  inner_eq {entity} hguards := by
    have hhides : (guards entity).hidesConnections = false := by rw [hguards]
    have hrefuses : (guards entity).refusesRemoval = false := by rw [hguards]
    have hgranted := eraseConnection?_granted index hrefuses
    rw [strikeAt, connection?_shown index hhides, strikeAt]
    show _ = if ((inner entity).connections[index]?).any _ then
      ((inner entity).eraseConnection? index).getD (inner entity) else _
    rw [← hgranted, Option.getD_map, apply_ite inner]

theorem mirrors_deleteConnections (patterns : List ConnectionPattern) (count : Nat) :
  Mirrors (fun entity : ε => (deleteConnections patterns count entity).value)
    (fun entity => (deleteConnections patterns count entity).value)
  := by
  induction count with
  | zero => apply Mirrors.id
  | succ index ih =>
    simp only [deleteConnections_succ]
    apply ih.comp (mirrors_strikeAt patterns index)

theorem deleteConnections_of_keeps {patterns : List ConnectionPattern} {count : Nat}
    (h : keepsConnections entity = true) :
  (deleteConnections patterns count entity).value = entity
  := by
  induction count with
  | zero => rfl
  | succ index ih => rw [deleteConnections_succ, strikeAt_of_keeps h, ih]

theorem mirrors_releaseConnections (patterns : List ConnectionPattern) :
  Mirrors (releaseConnections patterns : ε → ε) (releaseConnections patterns)
  where
  guards_eq entity := by
    rw [releaseConnections]
    split
    · rfl
    · apply (mirrors_deleteConnections _ _).guards_eq
  queued_eq entity := by
    rw [releaseConnections]
    split
    · rfl
    · apply (mirrors_deleteConnections _ _).queued_eq
  kept {entity} hkeeps := by
    simp only [releaseConnections, deleteConnections_of_keeps hkeeps, ite_self, List.prefix_rfl]
  inner_eq {entity} hguards := by
    have hhides : (guards entity).hidesConnections = false := by rw [hguards]
    -- A host need not tell that an entity is queued, but then it refuses every removal.
    cases hqueued : (inner entity).queuedForSpawn with
    | true =>
      have hkeeps : keepsConnections entity = true := Bool.or_eq_true_iff.mpr (.inr hqueued)
      have hkeeps' : keepsConnections (inner entity) = true :=
        Bool.or_eq_true_iff.mpr (.inr hqueued)
      rw [releaseConnections, releaseConnections, deleteConnections_of_keeps hkeeps, ite_self,
        deleteConnections_of_keeps hkeeps', ite_self]
    | false =>
      have hsilent : EntityView.isQueuedForSpawn entity = false := by
        rw [← Bool.not_eq_true]
        intro htold
        cases queued_of_isQueued htold with
        | inl hrefuses => rw [hguards] at hrefuses; contradiction
        | inr htrue => rw [hqueued] at htrue; contradiction
      have hsilent' : EntityView.isQueuedForSpawn (inner entity) = false := hqueued
      rw [releaseConnections, releaseConnections, hsilent, hsilent', connectionCount_eq hhides,
        if_neg Bool.false_ne_true, if_neg Bool.false_ne_true]
      apply (mirrors_deleteConnections _ _).inner_eq hguards

theorem mirrors_applyDelete (deletions : Conditions) :
  Mirrors (fun entity : ε => (applyDelete deletions entity).value)
    (fun entity => (applyDelete deletions entity).value)
  := by
  have hattributes : Mirrors
      (fun entity : ε => deletions.attributes.foldl
        (fun entity (key, expected) => deleteAttribute entity key expected) entity)
      (fun entity => deletions.attributes.foldl
        (fun entity (key, expected) => deleteAttribute entity key expected) entity) :=
    Mirrors.foldl (fun entry => mirrors_deleteAttribute entry.1 entry.2) deletions.attributes
  simp only [applyDelete_value]
  split
  · apply hattributes
  · apply (mirrors_releaseConnections deletions.connections).comp hattributes

/-- Replacements and insertions, which set attributes and add connections unless one of these is
incomplete. -/
theorem mirrors_attempt (skipped : ApplyError → Event) (attributes : Entries String)
    (connections : Except ApplyError (List Connection)) :
  Mirrors
    (fun entity : ε => (attempt skipped entity
      (connections.map fun connections => setAll attributes connections entity)).value.1)
    (fun entity => (attempt skipped entity
      (connections.map fun connections => setAll attributes connections entity)).value.1)
  := by
  cases connections with
  | error error => apply Mirrors.id
  | ok connections => apply mirrors_setAll

theorem mirrors_applyMutation (mutation : Mutation) :
  Mirrors (fun entity : ε => (applyMutation options name mutation entity).value.1)
    (fun entity => (applyMutation options name mutation entity).value.1)
  := by
  have hdelete : Mirrors (fun entity : ε => (mutation.applyDelete entity).value)
      (fun entity => (mutation.applyDelete entity).value) := by
    unfold Mutation.applyDelete
    cases mutation.delete with
    | none => apply Mirrors.id
    | some deletions => apply mirrors_applyDelete
  have hreplace : Mirrors
      (fun entity : ε => (mutation.applyReplace options.replaceEnabled name entity).value.1)
      (fun entity => (mutation.applyReplace options.replaceEnabled name entity).value.1) := by
    unfold Mutation.applyReplace
    cases mutation.replace with
    | none => apply Mirrors.id
    | some replacements =>
      cases options.replaceEnabled with
      | false => apply Mirrors.id
      | true => apply mirrors_attempt
  have hinsert : Mirrors (fun entity : ε => (mutation.applyInsert name entity).value.1)
      (fun entity => (mutation.applyInsert name entity).value.1) := by
    unfold Mutation.applyInsert
    cases mutation.insert with
    | none => apply Mirrors.id
    | some insertions => apply mirrors_attempt
  simp only [applyMutation_eq]
  apply hinsert.comp (hreplace.comp hdelete)

end LumpRules
