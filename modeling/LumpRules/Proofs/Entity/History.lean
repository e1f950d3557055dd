import LumpRules.Entity.Basic
import Mathlib.Data.List.Induction
import Mathlib.Data.List.Nodup
import Mathlib.Tactic.Common

/-!
# Entities and their histories

An entity that came from a new one by some operations is told by the history of these operations.
`Entity.Reflects` says how: its attributes are a map whose names ignore case, in the order in which
the names that are live were first set (`liveNames`), each with the value that was set last
(`lastValue?`); its connections are those that were added, less those that were taken out
(`ledger`); and neither depends on the operations on the other.  Every history is reflected by the
entity that comes from it (`after_reflects`).
-/

namespace LumpRules.Entity

open Text

/-- What is done to an entity.  Attributes and connections may also be given when the entity is
made, which is no other operation. -/
inductive Operation where
  | set (name value : String)
  | erase (name : String)
  | addConnection (connection : Connection)
  | eraseConnection (index : Nat)
  | setQueued (queued : Bool)

/-- The entity after an operation.  A removal that is refused changes nothing. -/
def perform (entity : Entity) : Operation → Entity
  | .set name value => entity.set name value
  | .erase name => entity.erase name
  | .addConnection connection => entity.addConnection connection
  | .eraseConnection index => (entity.eraseConnection? index).getD entity
  | .setQueued queued => entity.setQueued queued

/-- The entity that comes from a new one by the operations of a history. -/
def after (history : List Operation) : Entity :=
  history.foldl perform {}

variable {history : List Operation} {op : Operation} {name : String} {index : Nat}

@[simp]
theorem after_concat :
  after (history ++ [op]) = (after history).perform op
  := by
  simp [after]

/-- Whether an operation is one on the attributes. -/
def Operation.isOnAttributes : Operation → Bool
  | .set .. | .erase _ => true
  | _ => false

theorem attributes_perform (entity : Entity) (h : op.isOnAttributes = false) :
  (entity.perform op).attributes = entity.attributes
  := by
  cases op with
  | set name value => contradiction
  | erase name => contradiction
  | addConnection connection => rfl
  | eraseConnection index =>
    rw [perform, eraseConnection?]
    split <;> rfl
  | setQueued queued => rfl

/-! ### Attributes -/

/-- What an operation says of an attribute, if anything: its new value, or that it has none. -/
def Operation.verdict? (name : String) : Operation → Option (Option String)
  | .set other value => if sameName other name then some (some value) else none
  | .erase other => if sameName other name then some none else none
  | _ => none

/-- Whether an operation erases an attribute. -/
def Operation.erases (name : String) : Operation → Bool
  | .erase other => sameName name other
  | _ => false

/-- The value that was set last under a name, in any case, since its last removal. -/
def lastValue? (history : List Operation) (name : String) : Option String :=
  (history.reverse.findSome? (Operation.verdict? name)).join

/-- The name that an operation sets, if it sets one. -/
def Operation.sets? : Operation → Option String
  | .set name _ => some name
  | _ => none

/-- The name under which the operation of an index brings an attribute to life that lives to the
end: it sets the name while there is no value, and the name is not erased any more. -/
def founded? (history : List Operation) (index : Nat) : Option String :=
  (history[index]?.bind Operation.sets?).filter fun name =>
    (lastValue? (history.take index) name).isNone &&
      (history.drop (index + 1)).all (!·.erases name)

/-- The names that live at the end, in the order in which they came to life, each as it was spelled
then. -/
def liveNames (history : List Operation) : List String :=
  (List.range history.length).filterMap (founded? history)

theorem lastValue?_concat :
  lastValue? (history ++ [op]) name = (op.verdict? name).getD (lastValue? history name)
  := by
  rw [lastValue?, List.reverse_append, List.reverse_singleton, List.singleton_append,
    List.findSome?_cons]
  cases op.verdict? name <;> rfl

theorem get?_perform (entity : Entity) :
  (entity.perform op).get? name = (op.verdict? name).getD (entity.get? name)
  := by
  cases op with
  | set other value =>
    rw [perform, get?_set, Operation.verdict?]
    split <;> rfl
  | erase other =>
    rw [perform, get?_erase, Operation.verdict?]
    split <;> rfl
  | _ => rw [get?, attributes_perform entity rfl]; rfl

/-- An attribute has the value that was set last. -/
theorem get?_after (history : List Operation) (name : String) :
  (after history).get? name = lastValue? history name
  := by
  induction history using List.reverseRecOn with
  | nil => rfl
  | append_singleton history op ih => rw [after_concat, get?_perform, lastValue?_concat, ih]

/-- What came to life before lives on unless it is erased. -/
theorem founded?_concat (h : index < history.length) :
  founded? (history ++ [op]) index = (founded? history index).filter (!op.erases ·)
  := by
  have htake : (history ++ [op]).take index = history.take index :=
    List.take_append_of_le_length (Nat.le_of_lt h)
  have hdrop : (history ++ [op]).drop (index + 1) = history.drop (index + 1) ++ [op] :=
    List.drop_append_of_le_length h
  rw [founded?, founded?, List.getElem?_append_left h, htake, hdrop, Option.filter_filter]
  simp only [List.all_append, List.all_cons, List.all_nil, Bool.and_true, Bool.and_assoc]

/-- The last operation brings to life what it sets, if there was no value. -/
theorem founded?_length :
  founded? (history ++ [op]) history.length =
    op.sets?.filter fun name => (lastValue? history name).isNone
  := by
  rw [founded?, List.getElem?_concat_length, List.take_left, List.drop_eq_nil_of_le (by simp)]
  simp

theorem liveNames_concat :
  liveNames (history ++ [op]) =
    (liveNames history).filter (!op.erases ·) ++
      (founded? (history ++ [op]) history.length).toList
  := by
  have hbefore : (List.range history.length).filterMap (founded? (history ++ [op])) =
      (liveNames history).filter (!op.erases ·) := by
    rw [liveNames, List.filter_filterMap]
    apply List.filterMap_congr
    intro index hindex
    apply founded?_concat (List.mem_range.mp hindex)
  rw [liveNames, List.length_append, List.length_singleton, List.range_succ,
    List.filterMap_append, hbefore]
  rfl

/-- What an operation erases is gone, and what it sets for the first time goes to the end. -/
theorem names_perform (entity : Entity) :
  (entity.perform op).attributes.map Prod.fst =
    (entity.attributes.map Prod.fst).filter (!op.erases ·) ++
      (op.sets?.filter fun name => (entity.get? name).isNone).toList
  := by
  have hkeep : ∀ names : List String, names.filter (fun _ => !false) = names := by simp
  cases op with
  | set name value =>
    simp only [perform, set, Entries.put, Entries.map_fst_alter, Operation.erases, hkeep,
      Operation.sets?, Option.filter_some, get?]
    split <;> rfl
  | erase name =>
    have herases : ∀ other, (!Operation.erases other (.erase name)) =
        decide (lowerAscii other ≠ lowerAscii name) := by
      intro other
      simp [Operation.erases, sameName, beq_eq_decide]
    simp only [herases]
    apply Entries.map_fst_erase.trans
    simp [Operation.sets?]
  | _ =>
    rw [attributes_perform entity rfl]
    simp [Operation.erases, Operation.sets?]

/-- The attributes stand in the order in which their names came to life. -/
theorem names_after (history : List Operation) :
  (after history).attributes.map Prod.fst = liveNames history
  := by
  induction history using List.reverseRecOn with
  | nil => rfl
  | append_singleton history op ih =>
    rw [after_concat, names_perform, liveNames_concat, founded?_length, ih]
    simp only [get?_after]

/-- No operation brings in a name that is there already in another case. -/
theorem nodup_perform {entity : Entity}
    (h : (entity.attributes.map (lowerAscii ·.1)).Nodup) :
  ((entity.perform op).attributes.map (lowerAscii ·.1)).Nodup
  := by
  cases op with
  | set name value => apply Entries.nodup_alter h
  | erase name => apply h.sublist (List.filter_sublist.map _)
  | _ =>
    rw [attributes_perform entity rfl]
    apply h

theorem nodup_after (history : List Operation) :
  ((after history).attributes.map (lowerAscii ·.1)).Nodup
  := by
  induction history using List.reverseRecOn with
  | nil => apply List.nodup_nil
  | append_singleton history op ih =>
    rw [after_concat]
    apply nodup_perform ih

/-- Operations on connections leave the attributes alone. -/
theorem attributes_after_filter (history : List Operation) :
  (after (history.filter (·.isOnAttributes))).attributes = (after history).attributes
  := by
  induction history using List.reverseRecOn with
  | nil => rfl
  | append_singleton history op ih =>
    rw [List.filter_append, List.filter_singleton]
    cases hop : op.isOnAttributes with
    | false => rw [after_concat, attributes_perform _ hop, ← ih]; simp
    | true =>
      rw [cond_true, after_concat, after_concat]
      cases op with
      | set name value => simp only [perform, set, ih]
      | erase name => simp only [perform, erase, ih]
      | _ => contradiction

/-! ### Connections -/

/-- The connection that an operation adds, if it adds one. -/
def Operation.adds? : Operation → Option Connection
  | .addConnection connection => some connection
  | _ => none

/-- Whether an operation queues the entity for spawn or takes it off the queue, if it does. -/
def Operation.queues? : Operation → Option Bool
  | .setQueued queued => some queued
  | _ => none

/-- Whether the entity is queued for spawn after a history. -/
def isQueuedAfter (history : List Operation) : Bool :=
  (history.reverse.findSome? Operation.queues?).getD false

/-- Connections, each with a mark that says whether it still stands. -/
abbrev Ledger := List (Connection × Bool)

/-- The connections of a ledger that still stand, in order. -/
def Ledger.standing (ledger : Ledger) : List Connection :=
  (ledger.filter Prod.snd).map Prod.fst

/-- The ledger with the connection struck out that has an index among those that stand. -/
def Ledger.strike : Ledger → Nat → Ledger
  | [], _ => []
  | (connection, false) :: rest, index => (connection, false) :: strike rest index
  | (connection, true) :: rest, 0 => (connection, false) :: rest
  | (connection, true) :: rest, index + 1 => (connection, true) :: strike rest index

/-- The ledger after an operation on an entity: a new connection is entered, and one is struck out
if the entity lets it go. -/
def record (entity : Entity) (ledger : Ledger) : Operation → Ledger
  | .addConnection connection => ledger ++ [(connection, true)]
  | .eraseConnection index =>
    if (entity.eraseConnection? index).isSome then ledger.strike index else ledger
  | _ => ledger

/-- The ledger of a history. -/
def ledger (history : List Operation) : Ledger :=
  (history.foldl (fun done op => (done.1.perform op, done.1.record done.2 op))
    (({}, []) : Entity × Ledger)).2

theorem ledger_concat :
  ledger (history ++ [op]) = (after history).record (ledger history) op
  := by
  have hfirst : ∀ (ops : List Operation) (start : Entity × Ledger),
      (ops.foldl (fun done op => (done.1.perform op, done.1.record done.2 op)) start).1 =
        ops.foldl perform start.1 := by
    intro ops
    induction ops with
    | nil => intro start; rfl
    | cons op ops ih => intro start; apply ih
  rw [ledger, List.foldl_append, List.foldl_cons, List.foldl_nil, hfirst]
  rfl

theorem Ledger.standing_cons (connection : Connection) (stands : Bool) (ledger : Ledger) :
  standing ((connection, stands) :: ledger) =
    if stands then connection :: standing ledger else standing ledger
  := by
  cases stands <;> rfl

theorem Ledger.standing_strike (ledger : Ledger) (index : Nat) :
  (ledger.strike index).standing = ledger.standing.eraseIdx index
  := by
  fun_induction strike ledger index with
  | case1 index => rfl
  | case2 connection rest index ih => rw [standing_cons, standing_cons, ih]; rfl
  | case3 connection rest => rfl
  | case4 connection rest index ih => rw [standing_cons, standing_cons, ih]; rfl

theorem Ledger.map_fst_strike (ledger : Ledger) (index : Nat) :
  (ledger.strike index).map Prod.fst = ledger.map Prod.fst
  := by
  fun_induction strike ledger index <;> simp_all

/-- A removal is granted unless the entity is queued or has no connection of that index. -/
theorem isSome_eraseConnection? {entity : Entity} :
  (entity.eraseConnection? index).isSome = true ↔
    entity.queuedForSpawn = false ∧ index < entity.connections.length
  := by
  rw [eraseConnection?]
  cases entity.queuedForSpawn <;> simp

/-- The connections are those that stand in the ledger. -/
theorem connections_after (history : List Operation) :
  (after history).connections = (ledger history).standing
  := by
  induction history using List.reverseRecOn with
  | nil => rfl
  | append_singleton history op ih =>
    rw [after_concat, ledger_concat]
    cases op with
    | addConnection connection =>
      simp [perform, Entity.addConnection, record, Ledger.standing, ih]
    | eraseConnection index =>
      rw [record, apply_ite Ledger.standing, Ledger.standing_strike, ← ih, perform,
        eraseConnection?]
      split <;> simp
    | set name value => apply ih
    | erase name => apply ih
    | setQueued queued => apply ih

/-- Every connection that was added is entered in the ledger, in order. -/
theorem map_fst_ledger (history : List Operation) :
  (ledger history).map Prod.fst = history.filterMap Operation.adds?
  := by
  induction history using List.reverseRecOn with
  | nil => rfl
  | append_singleton history op ih =>
    rw [ledger_concat, List.filterMap_append, ← ih]
    cases op with
    | addConnection connection => simp [record, Operation.adds?]
    | eraseConnection index =>
      rw [record, apply_ite (List.map Prod.fst), Ledger.map_fst_strike]
      simp [Operation.adds?]
    | _ => simp [record, Operation.adds?]

theorem queuedForSpawn_after (history : List Operation) :
  (after history).queuedForSpawn = isQueuedAfter history
  := by
  induction history using List.reverseRecOn with
  | nil => rfl
  | append_singleton history op ih =>
    rw [after_concat, isQueuedAfter, List.reverse_append, List.reverse_singleton,
      List.singleton_append, List.findSome?_cons]
    cases op with
    | setQueued queued => rfl
    | eraseConnection index =>
      rw [perform, eraseConnection?]
      split <;> apply ih
    | _ => apply ih

/-- Whether two entities have the same connections and are queued alike. -/
def WiredAlike (a b : Entity) : Prop :=
  a.connections = b.connections ∧ a.queuedForSpawn = b.queuedForSpawn

theorem wiredAlike_perform (entity : Entity) (h : op.isOnAttributes = true) :
  WiredAlike (entity.perform op) entity
  := by
  cases op with
  | set name value => exact ⟨rfl, rfl⟩
  | erase name => exact ⟨rfl, rfl⟩
  | _ => contradiction

theorem WiredAlike.perform {a b : Entity} (h : WiredAlike a b) :
  WiredAlike (a.perform op) (b.perform op)
  := by
  obtain ⟨hconnections, hqueued⟩ := h
  cases op with
  | addConnection connection =>
    simp [WiredAlike, Entity.perform, Entity.addConnection, hconnections, hqueued]
  | eraseConnection index =>
    simp only [WiredAlike, Entity.perform, eraseConnection?, hconnections, hqueued]
    split <;> simp [hconnections, hqueued]
  | setQueued queued => exact ⟨hconnections, rfl⟩
  | _ => exact ⟨hconnections, hqueued⟩

/-- Operations on attributes leave the connections alone. -/
theorem wiredAlike_after_filter (history : List Operation) :
  WiredAlike (after (history.filter (!·.isOnAttributes))) (after history)
  := by
  induction history using List.reverseRecOn with
  | nil => exact ⟨rfl, rfl⟩
  | append_singleton history op ih =>
    rw [List.filter_append, List.filter_singleton, after_concat]
    cases hop : op.isOnAttributes with
    | false =>
      rw [Bool.not_false, cond_true, after_concat]
      apply ih.perform
    | true =>
      obtain ⟨hconnections, hqueued⟩ := wiredAlike_perform (after history) hop
      rw [Bool.not_true, cond_false, List.append_nil]
      exact ⟨ih.1.trans hconnections.symm, ih.2.trans hqueued.symm⟩

/-! ### The entity of a history -/

/-- What a history makes of an entity. -/
structure Reflects (entity : Entity) (history : List Operation) : Prop where
  /-- No two attributes have names that are the same but for case. -/
  distinct : entity.attributes.Pairwise fun first second => sameName first.1 second.1 = false
  /-- The value of a name, in any case, is the one that was set last since it was erased. -/
  value : ∀ name, entity.get? name = lastValue? history name
  /-- The names are those that live, in the order and in the spelling of their first setting since
  they were erased. -/
  names : entity.attributes.map Prod.fst = liveNames history
  /-- Each name stands beside its value. -/
  entries : ∀ entry ∈ entity.attributes, entity.get? entry.1 = some entry.2
  /-- The connections are those that were added, less those that were let go. -/
  connections : entity.connections = (ledger history).standing
  added : (ledger history).map Prod.fst = history.filterMap Operation.adds?
  /-- Connections are let go unless the entity is queued or has none of that index. -/
  granted : ∀ index, (entity.eraseConnection? index).isSome = true ↔
    isQueuedAfter history = false ∧ index < entity.connections.length
  /-- The attributes are those of the operations on attributes alone. -/
  attributes_alone :
    entity.attributes = (after (history.filter (·.isOnAttributes))).attributes
  /-- The connections are those of the other operations alone. -/
  connections_alone :
    entity.connections = (after (history.filter (!·.isOnAttributes))).connections

/-- Every history is reflected by the entity that comes from it. -/
theorem after_reflects (history : List Operation) :
  (after history).Reflects history
  where
  distinct := by
    have hnodup := nodup_after history
    rw [List.Nodup, List.pairwise_map] at hnodup
    apply hnodup.imp
    intro first second hne
    rw [← Bool.not_eq_true, sameName_iff]
    exact hne
  value := get?_after history
  names := names_after history
  entries := by
    rintro ⟨name, value⟩ hentry
    apply Entries.get?_of_mem (nodup_after history) hentry
  connections := connections_after history
  added := map_fst_ledger history
  granted := by
    intro index
    rw [isSome_eraseConnection?, queuedForSpawn_after]
  attributes_alone := (attributes_after_filter history).symm
  connections_alone := (wiredAlike_after_filter history).1.symm

/-- A name that was erased comes back at the end, under its new spelling. -/
example : (after [.set "Name" "a", .set "Model" "b", .erase "NAME", .set "name" "c",
    .set "MODEL" "d"]).attributes = [("Model", "d"), ("name", "c")] := rfl

end LumpRules.Entity
