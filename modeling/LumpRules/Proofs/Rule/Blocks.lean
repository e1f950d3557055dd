import LumpRules.Proofs.Rule.Objects

/-!
# What blocks describe

The members of a block are attributes and members that hold connections.  `BlockOf` says that the
entries of a list are the attributes of a block, one by one and under their names, and that those
of another list are its connections.  `ConditionsOf`, `InsertionsOf` and `ReplacementsOf` say it of
what a block is compiled to; each compiled block is one of its members (`conditionsOf_conditions`
and its like), and is empty exactly if the members are (`BlockOf.eq_nil_iff`).
-/

namespace LumpRules

open Compilation

/-! ### Members -/

/-- The attributes among the members of a block. -/
def attributeMembers (members : Members) : Members :=
  members.filter fun member => !isConnectionsKey member.1

/-- The members of a block that hold connections. -/
def connectionMembers (members : Members) : Members :=
  members.filter fun member => isConnectionsKey member.1

/-- The single connections that the members of a block list, each under the name of its list. -/
def connectionItems (members : Members) : Members :=
  (connectionMembers members).flatMap fun member => (listed member.2).map (member.1, ·)

section Members

variable {members : Members} {member : String × Json}

theorem attributeMembers_append_attribute (h : isConnectionsKey member.1 = false) :
  attributeMembers (members ++ [member]) = attributeMembers members ++ [member]
  := by
  simp [attributeMembers, h]

theorem attributeMembers_append_connections (h : isConnectionsKey member.1 = true) :
  attributeMembers (members ++ [member]) = attributeMembers members
  := by
  simp [attributeMembers, h]

theorem connectionMembers_append_attribute (h : isConnectionsKey member.1 = false) :
  connectionMembers (members ++ [member]) = connectionMembers members
  := by
  simp [connectionMembers, h]

theorem connectionMembers_append_connections (h : isConnectionsKey member.1 = true) :
  connectionMembers (members ++ [member]) = connectionMembers members ++ [member]
  := by
  simp [connectionMembers, h]

end Members

/-! ### Blocks -/

variable {α γ : Type}

/-- A member that is compiled to a result. -/
def Yields (compile : String → Json → Compilation α) (member : String × Json) (result : α) : Prop :=
  (compile member.1 member.2).run.value = .ok result

/-- What stands in one of two lists that are related one by one has a partner in the other. -/
theorem exists_of_mem {R : α → γ → Prop} {items : List α} {results : List γ}
    (h : List.Forall₂ R items results) {item : α} (hitem : item ∈ items) :
  ∃ result ∈ results, R item result
  := by
  induction h with
  | nil => contradiction
  | @cons first result _ results hfirst _ ih =>
    rcases List.mem_cons.mp hitem with rfl | hrest
    · exact ⟨result, List.mem_cons_self, hfirst⟩
    · obtain ⟨partner, hpartner, hrelated⟩ := ih hrest
      exact ⟨partner, List.mem_cons_of_mem _ hpartner, hrelated⟩

/-- Entries that are compiled from attributes under the same names, and connections that are
compiled from single connections. -/
structure BlockOf (valueOf : String → Json → Compilation α)
    (connectionOf : String → Json → Compilation γ) (named items : Members)
    (attributes : Entries α) (connections : List γ) : Prop where
  attributes : List.Forall₂ (fun member entry => entry.1 = member.1 ∧
    Yields valueOf member entry.2) named attributes
  connections : List.Forall₂ (Yields connectionOf) items connections

namespace BlockOf

variable {valueOf : String → Json → Compilation α}
  {connectionOf : String → Json → Compilation γ} {named items : Members} {attributes : Entries α}
  {connections : List γ}

theorem nil :
  BlockOf valueOf connectionOf [] [] [] []
  := ⟨.nil, .nil⟩

theorem addAttribute (h : BlockOf valueOf connectionOf named items attributes connections)
    {member : String × Json} {value : α} (hvalue : Yields valueOf member value) :
  BlockOf valueOf connectionOf (named ++ [member]) items (attributes ++ [(member.1, value)])
    connections
  := ⟨List.rel_append h.attributes (.cons ⟨rfl, hvalue⟩ .nil), h.connections⟩

theorem addConnections (h : BlockOf valueOf connectionOf named items attributes connections)
    {more : Members} {others : List γ} (hothers : List.Forall₂ (Yields connectionOf) more others) :
  BlockOf valueOf connectionOf named (items ++ more) attributes (connections ++ others)
  := ⟨h.attributes, List.rel_append h.connections hothers⟩

/-- Entries keep the names of their members. -/
theorem map_name {δ : Type} (f : String → δ)
    (h : BlockOf valueOf connectionOf named items attributes connections) :
  (attributes.map fun entry => f entry.1) = named.map fun member => f member.1
  := by
  rw [← List.forall₂_eq_eq_eq, List.forall₂_map_left_iff, List.forall₂_map_right_iff]
  apply h.attributes.flip.imp
  rintro entry member ⟨hname, -⟩
  rw [hname]

theorem exists_entry (h : BlockOf valueOf connectionOf named items attributes connections)
    {key : String} {source : Json} (hmember : (key, source) ∈ named) :
  ∃ value, (key, value) ∈ attributes ∧ Yields valueOf (key, source) value
  := by
  obtain ⟨⟨name, value⟩, hentry, rfl, hvalue⟩ := exists_of_mem h.attributes hmember
  exact ⟨value, hentry, hvalue⟩

theorem exists_member (h : BlockOf valueOf connectionOf named items attributes connections)
    {key : String} {value : α} (hentry : (key, value) ∈ attributes) :
  ∃ source, (key, source) ∈ named ∧ Yields valueOf (key, source) value
  := by
  obtain ⟨⟨name, source⟩, hmember, rfl, hvalue⟩ := exists_of_mem h.attributes.flip hentry
  exact ⟨source, hmember, hvalue⟩

/-- A block is empty if there is nothing to be compiled. -/
theorem eq_nil_iff (h : BlockOf valueOf connectionOf named items attributes connections) :
  attributes = [] ∧ connections = [] ↔ named = [] ∧ items = []
  := by
  rw [← List.length_eq_zero_iff, ← List.length_eq_zero_iff, ← h.attributes.length_eq,
    ← h.connections.length_eq, List.length_eq_zero_iff, List.length_eq_zero_iff]

end BlockOf

/-- The connections of a list are compiled one by one. -/
theorem forall₂_of_connectionList {each : String → Json → Compilation α} {member : String × Json}
    {connections : List α}
    (h : (connectionList each member.1 member.2).run.value = .ok connections) :
  List.Forall₂ (Yields each) ((listed member.2).map (member.1, ·)) connections
  := by
  obtain ⟨key, value⟩ := member
  cases value with
  | array items => exact List.forall₂_map_left_iff.mpr (run_value_mapM_eq_ok.mp h)
  | _ => contradiction

/-- The attributes and the connections of a block with those of one more member. -/
def addMember (valueOf : String → Json → Compilation α)
    (connectionOf : String → Json → Compilation γ) (block : Entries α × List γ)
    (member : String × Json) : Compilation (Entries α × List γ) :=
  if isConnectionsKey member.1 then do
    return (block.1, block.2 ++ (← connectionList connectionOf member.1 member.2))
  else do
    return (block.1 ++ [(member.1, ← valueOf member.1 member.2)], block.2)

section Members

variable {valueOf : String → Json → Compilation α}
  {connectionOf : String → Json → Compilation γ}

theorem blockOf_addMember (done : Members) (block : Entries α × List γ) (member : String × Json)
    (next : Entries α × List γ)
    (hdone : BlockOf valueOf connectionOf (attributeMembers done) (connectionItems done) block.1
      block.2)
    (h : (addMember valueOf connectionOf block member).run.value = .ok next) :
  BlockOf valueOf connectionOf (attributeMembers (done ++ [member]))
    (connectionItems (done ++ [member])) next.1 next.2
  := by
  rw [addMember] at h
  split at h
  · next hkey =>
    rw [run_value_bind, bind_eq_ok] at h
    obtain ⟨connections, hconnections, h⟩ := h
    obtain rfl := Except.ok.inj h
    rw [connectionItems, connectionMembers_append_connections hkey,
      attributeMembers_append_connections hkey, List.flatMap_append, List.flatMap_singleton]
    exact hdone.addConnections (forall₂_of_connectionList hconnections)
  · next hkey =>
    rw [Bool.not_eq_true] at hkey
    rw [run_value_bind, bind_eq_ok] at h
    obtain ⟨value, hvalue, h⟩ := h
    obtain rfl := Except.ok.inj h
    rw [connectionItems, connectionMembers_append_attribute hkey,
      attributeMembers_append_attribute hkey]
    exact hdone.addAttribute hvalue

theorem blockOf_foldlM {members : Members} {block : Entries α × List γ}
    (h : (members.foldlM (addMember valueOf connectionOf) ([], [])).run.value = .ok block) :
  BlockOf valueOf connectionOf (attributeMembers members) (connectionItems members) block.1
    block.2
  := foldlM_induction
    (P := fun done block => BlockOf valueOf connectionOf (attributeMembers done)
      (connectionItems done) block.1 block.2)
    blockOf_addMember .nil h

end Members

/-! ### Conditions and insertions -/

/-- Conditions that the members of a block describe. -/
def ConditionsOf [PatternReader] (members : Members) (block : Conditions) : Prop :=
  BlockOf expectedValue connectionPattern (attributeMembers members) (connectionItems members)
    block.attributes block.connections

/-- Insertions that the members of a block describe. -/
def InsertionsOf [PatternReader] (members : Members) (block : Insertions) : Prop :=
  BlockOf (fun _ => assignedText) connectionTemplate (attributeMembers members)
    (connectionItems members) block.attributes block.connections

/-- A loop on another form of the state. -/
theorem foldlM_map_state {m : Type → Type} [Monad m] [LawfulMonad m] {ι β β' : Type}
    (form : β → β') {step : β → ι → m β} {step' : β' → ι → m β'} {items : List ι}
    (h : ∀ state, ∀ item ∈ items, step' (form state) item = form <$> step state item)
    (start : β) :
  items.foldlM step' (form start) = form <$> items.foldlM step start
  := by
  induction items generalizing start with
  | nil => simp
  | cons item items ih =>
    rw [List.foldlM_cons, List.foldlM_cons, h start item List.mem_cons_self, map_bind,
      bind_map_left]
    simp only [ih fun state item hitem => h state item (List.mem_cons_of_mem _ hitem)]

theorem conditions_eq [PatternReader] (members : Members) :
  conditions members = (fun block => ⟨block.1, block.2⟩) <$>
    members.foldlM (addMember expectedValue connectionPattern) ([], [])
  := by
  rw [← foldlM_map_state fun block : Entries RuleValue × List ConnectionPattern =>
    Conditions.mk block.1 block.2]
  · rfl
  · rintro block ⟨key, value⟩ -
    by_cases hkey : isConnectionsKey key <;> simp [addMember, hkey]

theorem insertions_eq [PatternReader] (members : Members) :
  insertions members = (fun block => ⟨block.1, block.2⟩) <$>
    members.foldlM (addMember (fun _ => assignedText) connectionTemplate) ([], [])
  := by
  rw [← foldlM_map_state fun block : Entries String × List ConnectionTemplate =>
    Insertions.mk block.1 block.2]
  · rfl
  · rintro block ⟨key, value⟩ -
    by_cases hkey : isConnectionsKey key <;> simp [addMember, hkey]

theorem conditionsOf_conditions [PatternReader] {members : Members} {block : Conditions}
    (h : (conditions members).run.value = .ok block) :
  ConditionsOf members block
  := by
  rw [conditions_eq, map_eq_pure_bind, run_value_bind, bind_eq_ok] at h
  obtain ⟨lists, hlists, h⟩ := h
  obtain rfl := Except.ok.inj h
  apply blockOf_foldlM hlists

theorem insertionsOf_insertions [PatternReader] {members : Members} {block : Insertions}
    (h : (insertions members).run.value = .ok block) :
  InsertionsOf members block
  := by
  rw [insertions_eq, map_eq_pure_bind, run_value_bind, bind_eq_ok] at h
  obtain ⟨lists, hlists, h⟩ := h
  obtain rfl := Except.ok.inj h
  apply blockOf_foldlM hlists

/-! ### Replacements -/

/-- Replacements that the members of a block describe: there is at most one connection. -/
def ReplacementsOf [PatternReader] (members : Members) (block : Replacements) : Prop :=
  BlockOf (fun _ => assignedText) connectionTemplate (attributeMembers members)
    (connectionMembers members) block.attributes block.connection.toList

/-- The replacements with one more member of their block. -/
def addReplacement [PatternReader] (block : Replacements) (member : String × Json) :
    Compilation Replacements :=
  if isConnectionsKey member.1 then
    if block.connection.isSome then
      throw (.duplicateReplacement member.1)
    else do
      return { block with connection := some (← connectionTemplate member.1 member.2) }
  else do
    return { block with
      attributes := block.attributes ++ [(member.1, ← assignedText member.2)] }

theorem replacements_eq [PatternReader] (members : Members) :
  replacements members = members.foldlM addReplacement {}
  := rfl

theorem replacementsOf_addReplacement [PatternReader] (done : Members) (block : Replacements)
    (member : String × Json) (next : Replacements) (hdone : ReplacementsOf done block)
    (h : (addReplacement block member).run.value = .ok next) :
  ReplacementsOf (done ++ [member]) next
  := by
  rw [addReplacement] at h
  split at h
  · next hkey =>
    split at h
    · contradiction
    · next hconnection =>
      rw [run_value_bind, bind_eq_ok] at h
      obtain ⟨template, htemplate, h⟩ := h
      obtain rfl := Except.ok.inj h
      rw [Option.not_isSome_iff_eq_none] at hconnection
      rw [ReplacementsOf, hconnection] at hdone
      rw [ReplacementsOf, connectionMembers_append_connections hkey,
        attributeMembers_append_connections hkey]
      exact hdone.addConnections (.cons htemplate .nil)
  · next hkey =>
    rw [Bool.not_eq_true] at hkey
    rw [run_value_bind, bind_eq_ok] at h
    obtain ⟨text, htext, h⟩ := h
    obtain rfl := Except.ok.inj h
    rw [ReplacementsOf, connectionMembers_append_attribute hkey,
      attributeMembers_append_attribute hkey]
    exact hdone.addAttribute htext

theorem replacementsOf_replacements [PatternReader] {members : Members} {block : Replacements}
    (h : (replacements members).run.value = .ok block) :
  ReplacementsOf members block
  := by
  have hstart : ReplacementsOf [] {} := BlockOf.nil
  apply foldlM_induction replacementsOf_addReplacement hstart h

end LumpRules
