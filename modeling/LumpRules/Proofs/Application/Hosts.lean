import LumpRules.Proofs.Application.Reference
import LumpRules.Proofs.Application.Mirroring

/-!
# Runs over the entities of a host

A run over the lump of a host is a filter of its entities followed by a map, with new entities at
the end (`entities_applyRules`), although hidden entities take up indices and refusals happen on the
way.  What this comes to for each entity is told by `Respected`, and `applyRules_respects_guards`
says that every run respects every entity of a host.
-/

namespace LumpRules

open HostEntity HostLump

section Entities

variable {ε : Type} [EntityView ε] [HostEntity ε] {entity : ε} {options : Options}
  {name : String}

/-! ### Rules -/

/-- Whether a rule removes an entity of a host. -/
def Rule.dismisses (entity : ε) : Rule → Bool
  | .remove conditions => !(guards entity).hidden && conditions.holds entity
  | _ => false

/-- What a rule makes of an entity of a host in the pass of modifications. -/
def Rule.revise (options : Options) (name : String) (entity : ε) : Rule → ε
  | .modify conditions mutation =>
    if !(guards entity).hidden && conditions.holds entity then
      (applyMutation options name mutation entity).value.1
    else entity
  | _ => entity

/-- Whether the conditions of a rule have patterns for connections. -/
def Rule.hasPatterns : Rule → Bool
  | .remove conditions => !conditions.connections.isEmpty
  | .add _ => false
  | .modify conditions _ => !conditions.connections.isEmpty

namespace HostEntity

/-- Whether no rule removes an entity of a host. -/
def stays (rules : List Rule) (entity : ε) : Bool :=
  !rules.any (·.dismisses entity)

/-- What some rules, in order, make of an entity of a host. -/
def revised (options : Options) (name : String) (rules : List Rule) (entity : ε) : ε :=
  rules.foldl (fun entity rule => rule.revise options name entity) entity

end HostEntity

theorem Rule.dismisses_inner (h : guards entity = {}) (rule : Rule) :
  rule.dismisses entity = rule.removes (inner entity)
  := by
  have hshows : (guards entity).hidesConnections = false := by rw [h]
  cases rule with
  | remove conditions => simp [dismisses, removes, h, Conditions.holds_inner hshows]
  | add insertions => rfl
  | modify conditions mutation => rfl

theorem mirrors_revise (options : Options) (name : String) (rule : Rule) :
  Mirrors (fun entity : ε => rule.revise options name entity)
    (fun entity => (rule.visit options name entity).1)
  := by
  cases rule with
  | remove conditions => apply Mirrors.id
  | add insertions => apply Mirrors.id
  | modify conditions mutation =>
    have hvisit (entity : Entity) :
        ((Rule.modify conditions mutation).visit options name entity).1 =
          if conditions.holds entity then (applyMutation options name mutation entity).value.1
          else entity := by
      rw [Rule.visit]
      split <;> rfl
    simp only [hvisit]
    apply Mirrors.ite
    · intro entity h
      have hshows : (guards entity).hidesConnections = false := by rw [h]
      rw [h, Conditions.holds_inner hshows, Bool.not_false, Bool.true_and]
    · apply mirrors_applyMutation
    · apply Mirrors.id

/-- All that a run makes of an entity mirrors what a run makes of it in memory. -/
theorem mirrors_revised (options : Options) (name : String) (rules : List Rule) :
  Mirrors (revised options name rules : ε → ε) (Entity.patched options name rules)
  := by
  apply Mirrors.foldl
  apply mirrors_revise

/-! ### Entities that are passed over -/

theorem Rule.dismisses_of_hidden (h : (guards entity).hidden = true) (rule : Rule) :
  rule.dismisses entity = false
  := by
  cases rule with
  | remove conditions => rw [dismisses, h, Bool.not_true, Bool.false_and]
  | add insertions => rfl
  | modify conditions mutation => rfl

theorem Rule.revise_of_hidden (h : (guards entity).hidden = true) (rule : Rule) :
  rule.revise options name entity = entity
  := by
  cases rule with
  | remove conditions => rfl
  | add insertions => rfl
  | modify conditions mutation => simp [revise, h]

theorem Rule.dismisses_of_hides {rule : Rule} (h : (guards entity).hidesConnections = true)
    (hpatterns : rule.hasPatterns = true) :
  rule.dismisses entity = false
  := by
  cases rule with
  | remove conditions =>
    have hconnections : conditions.connections ≠ [] := by simpa [hasPatterns] using hpatterns
    rw [dismisses, Conditions.holds_of_hides h hconnections, Bool.and_false]
  | add insertions => rfl
  | modify conditions mutation => rfl

theorem Rule.revise_of_hides {rule : Rule} (h : (guards entity).hidesConnections = true)
    (hpatterns : rule.hasPatterns = true) :
  rule.revise options name entity = entity
  := by
  cases rule with
  | remove conditions => rfl
  | add insertions => rfl
  | modify conditions mutation =>
    have hconnections : conditions.connections ≠ [] := by simpa [hasPatterns] using hpatterns
    rw [revise, Conditions.holds_of_hides h hconnections, Bool.and_false,
      if_neg Bool.false_ne_true]

namespace HostEntity

variable {rules : List Rule}

/-- A hidden entity is not removed. -/
theorem stays_of_hidden (h : (guards entity).hidden = true) :
  stays rules entity = true
  := by
  rw [stays, Bool.not_eq_true', List.any_eq_false]
  intro rule _
  rw [Rule.dismisses_of_hidden h]
  apply Bool.false_ne_true

/-- A hidden entity is not changed. -/
theorem revised_of_hidden (h : (guards entity).hidden = true) :
  revised options name rules entity = entity
  := by
  induction rules with
  | nil => rfl
  | cons rule rules ih =>
    rw [revised, List.foldl_cons, Rule.revise_of_hidden h]
    apply ih

/-- No rule with patterns for connections removes an entity that hides its connections. -/
theorem stays_filter_of_hides (h : (guards entity).hidesConnections = true) :
  stays (rules.filter (!·.hasPatterns)) entity = stays rules entity
  := by
  have hsame (rule : Rule) :
      (!rule.hasPatterns && rule.dismisses entity) = rule.dismisses entity := by
    cases hpatterns : rule.hasPatterns with
    | true => rw [Rule.dismisses_of_hides h hpatterns, Bool.and_false]
    | false => rfl
  rw [stays, stays, List.any_filter]
  simp only [hsame]

/-- No rule with patterns for connections changes an entity that hides its connections. -/
theorem revised_filter_of_hides (h : (guards entity).hidesConnections = true) :
  revised options name (rules.filter (!·.hasPatterns)) entity = revised options name rules entity
  := by
  induction rules generalizing entity with
  | nil => rfl
  | cons rule rules ih =>
    have hstep : (guards (rule.revise options name entity)).hidesConnections = true := by
      rw [(mirrors_revise options name rule).guards_eq, h]
    cases hpatterns : rule.hasPatterns with
    | true =>
      rw [List.filter_cons_of_neg (by simp [hpatterns]), ih h, revised, revised, List.foldl_cons,
        Rule.revise_of_hides h hpatterns]
    | false =>
      rw [List.filter_cons_of_pos (by simp [hpatterns]), revised, revised, List.foldl_cons,
        List.foldl_cons]
      apply ih hstep

/-- An entity of a host that some rules respect: what is held back of it limits what they do to it,
and if nothing is held back they do what they do to the entity in memory. -/
structure Respected (options : Options) (name : String) (rules : List Rule) (entity : ε) :
    Prop where
  /-- The host goes on to hold back the same. -/
  guards_eq : guards (revised options name rules entity) = guards entity
  /-- A hidden entity stays and is unchanged. -/
  hidden : (guards entity).hidden = true →
    stays rules entity = true ∧ revised options name rules entity = entity
  /-- Connections that cannot be taken away are still there, with new ones after them. -/
  kept : keepsConnections entity = true →
    (inner entity).connections <+: (inner (revised options name rules entity)).connections
  /-- Rules with patterns for connections that are not shown neither remove nor change the entity:
  without them everything is the same. -/
  passedOver : (guards entity).hidesConnections = true →
    stays (rules.filter (!·.hasPatterns)) entity = stays rules entity ∧
      revised options name (rules.filter (!·.hasPatterns)) entity =
        revised options name rules entity
  /-- An unguarded entity is removed or changed as in memory. -/
  asInMemory : guards entity = {} →
    stays rules entity = !rules.any (·.removes (inner entity)) ∧
      inner (revised options name rules entity) =
        Entity.patched options name rules (inner entity)

theorem stays_inner (h : guards entity = {}) :
  stays rules entity = !rules.any (·.removes (inner entity))
  := by
  rw [stays]
  congr
  funext rule
  rw [Rule.dismisses_inner h]

theorem respected (options : Options) (name : String) (rules : List Rule) (entity : ε) :
  Respected options name rules entity
  where
  guards_eq := (mirrors_revised options name rules).guards_eq entity
  hidden h := ⟨stays_of_hidden h, revised_of_hidden h⟩
  kept h := (mirrors_revised options name rules).kept h
  passedOver h := ⟨stays_filter_of_hides h, revised_filter_of_hides h⟩
  asInMemory h := ⟨stays_inner h, (mirrors_revised options name rules).inner_eq h⟩

/-- Whether nothing is held back of an entity. -/
def isUnguarded (entity : ε) : Bool :=
  guards entity = {}

end HostEntity

end Entities

/-! ### Runs -/

section Lumps

variable {ε σ : Type} [EntityView ε] [HostEntity ε] [LumpView σ ε] [HostLump σ ε]
  (options : Options) (name : String) (conditions : Conditions) (mutation : Mutation)
  {run : Run σ} {before after : List ε} {entity : ε}

theorem entity?_length (h : entities run.lump = before ++ entity :: after) :
  LumpView.entity? run.lump before.length =
    if (guards entity).hidden then none else some entity
  := by
  rw [entity?_eq, h, List.getElem?_append_right (Nat.le_refl _), Nat.sub_self,
    List.getElem?_cons_zero, Option.filter_some]
  cases (guards entity).hidden with
  | true => rfl
  | false => rfl

/-- Removing at an index takes out the entity there if the rule removes it. -/
theorem entities_removeAt (h : entities run.lump = before ++ entity :: after) :
  entities (removeAt options name conditions run before.length).value.lump =
    if (Rule.remove conditions).dismisses entity then before ++ after else before ++ entity :: after
  := by
  have herase : entities (LumpView.eraseEntity run.lump before.length) = before ++ after := by
    simp [entities_eraseEntity, h, List.eraseIdx_append_of_length_le]
  rw [removeAt, entity?_length h, Rule.dismisses]
  cases (guards entity).hidden with
  | true => exact h
  | false =>
    cases hholds : conditions.holds entity with
    | true => simpa [hholds] using herase
    | false => simpa [hholds] using h

theorem entities_removeBelow (h : entities run.lump = before ++ after) :
  entities (removeBelow options name conditions before.length run).value.lump =
    before.filter (!(Rule.remove conditions).dismisses ·) ++ after
  := by
  -- A removal moves only entities down that the loop has passed, so the rest keeps its indices.
  induction before using List.reverseRecOn generalizing run after with
  | nil => exact h
  | append_singleton before entity ih =>
    have hsplit : entities run.lump = before ++ entity :: after := by simp [h]
    have hstep := entities_removeAt options name conditions hsplit
    rw [List.length_append, List.length_singleton, removeBelow, Logged.value_bind]
    cases hdismisses : (Rule.remove conditions).dismisses entity with
    | true =>
      rw [hdismisses, if_pos rfl] at hstep
      rw [ih hstep]
      simp [hdismisses]
    | false =>
      rw [hdismisses, if_neg Bool.false_ne_true] at hstep
      rw [ih hstep]
      simp [hdismisses]

theorem entities_removeStep (rule : Rule) :
  entities (removeStep options name run rule).value.lump =
    (entities run.lump).filter (!rule.dismisses ·)
  := by
  cases rule with
  | remove conditions =>
    rw [removeStep, size_eq, entities_removeBelow options name conditions (List.append_nil _).symm,
      List.append_nil]
  | add insertions => simp [removeStep, Rule.dismisses]
  | modify conditions mutation => simp [removeStep, Rule.dismisses]

/-- The pass of removals keeps the entities that no rule removes. -/
theorem entities_foldl_removeStep (rules : List Rule) :
  entities (rules.foldl (fun run rule => (removeStep options name run rule).value) run).lump =
    (entities run.lump).filter (stays rules)
  := by
  induction rules generalizing run with
  | nil =>
    symm
    rw [List.foldl_nil, List.filter_eq_self]
    intro entity _
    rfl
  | cons rule rules ih =>
    rw [List.foldl_cons, ih, entities_removeStep, List.filter_filter]
    congr
    funext entity
    rw [stays, stays, List.any_cons, Bool.not_or, Bool.and_comm]

/-- The entities that the additions among some rules describe, with nothing held back of them. -/
def AreAdditions (rules : List Rule) (created : List ε) : Prop :=
  created.map inner = (additions rules).filterMap Except.toOption ∧
    ∀ entity ∈ created, guards entity = {}

theorem AreAdditions.cons {rule : Rule} {rules : List Rule} {first rest : List ε}
    (hfirst : AreAdditions [rule] first) (hrest : AreAdditions rules rest) :
  AreAdditions (rule :: rules) (first ++ rest)
  := by
  constructor
  · have happend : additions (rule :: rules) = additions [rule] ++ additions rules :=
      List.filterMap_append (l := [rule])
    rw [List.map_append, hfirst.1, hrest.1, happend, List.filterMap_append]
  · intro entity hentity
    cases List.mem_append.mp hentity with
    | inl hmem => apply hfirst.2 entity hmem
    | inr hmem => apply hrest.2 entity hmem

theorem entities_addStep (run : Run σ) (rule : Rule) :
  ∃ created : List ε, AreAdditions [rule] created ∧
    entities (addStep options name run rule).value.lump = entities run.lump ++ created
  := by
  have hnothing : entities run.lump = entities run.lump ++ [] := (List.append_nil _).symm
  cases rule with
  | remove conditions => exact ⟨[], ⟨rfl, by simp⟩, hnothing⟩
  | modify conditions mutation => exact ⟨[], ⟨rfl, by simp⟩, hnothing⟩
  | add insertions =>
    cases hbuild : insertions.connections.mapM ConnectionTemplate.build with
    | error error =>
      have hcreate : insertions.create = .error error := by
        simp [Insertions.create, hbuild, bind, Except.bind]
      refine ⟨[], ⟨?_, by simp⟩, ?_⟩
      · simp [additions, hcreate, Except.toOption]
      · simp [addStep, addEntity, hbuild]
    | ok connections =>
      obtain ⟨blank, hinner, hguards, hcreated⟩ := entities_createEntity run.lump .external
        (setAll insertions.attributes connections)
      refine ⟨[setAll insertions.attributes connections blank], ⟨?_, ?_⟩, ?_⟩
      · rw [List.map_singleton, (mirrors_setAll _ _).inner_eq hguards, hinner]
        simp [additions, create_of_build hbuild, Except.toOption]
      · intro entity hentity
        rw [List.mem_singleton.mp hentity, (mirrors_setAll _ _).guards_eq, hguards]
      · rw [addStep, addEntity, hbuild]
        exact hcreated

/-- The pass of additions puts the new entities at the end. -/
theorem entities_foldl_addStep (run : Run σ) (rules : List Rule) :
  ∃ created : List ε, AreAdditions rules created ∧
    entities (rules.foldl (fun run rule => (addStep options name run rule).value) run).lump =
      entities run.lump ++ created
  := by
  induction rules generalizing run with
  | nil => exact ⟨[], ⟨rfl, by simp⟩, (List.append_nil _).symm⟩
  | cons rule rules ih =>
    obtain ⟨first, hfirst, hstep⟩ := entities_addStep options name run rule
    obtain ⟨rest, hrest, hsteps⟩ := ih (addStep options name run rule).value
    refine ⟨first ++ rest, hfirst.cons hrest, ?_⟩
    rw [List.foldl_cons, hsteps, hstep, List.append_assoc]

/-- Modifying at an index puts what the rule makes of the entity in its place. -/
theorem entities_modifyAt (h : entities run.lump = before ++ entity :: after) :
  entities (modifyAt options name conditions mutation run before.length).value.lump =
    before ++ (Rule.modify conditions mutation).revise options name entity :: after
  := by
  have hset (changed : ε) : entities (LumpView.setEntity run.lump before.length changed) =
      before ++ changed :: after := by
    simp [entities_setEntity, h]
  rw [modifyAt, entity?_length h, Rule.revise]
  cases (guards entity).hidden with
  | true => exact h
  | false =>
    cases hholds : conditions.holds entity with
    | true => simpa [hholds] using hset _
    | false => simpa [hholds] using h

theorem entities_foldl_modifyAt (h : entities run.lump = before ++ after) :
  entities ((List.range before.length).foldl
      (fun run index => (modifyAt options name conditions mutation run index).value) run).lump =
    before.map (fun entity => (Rule.modify conditions mutation).revise options name entity) ++ after
  := by
  induction before using List.reverseRecOn generalizing after with
  | nil => exact h
  | append_singleton before entity ih =>
    have hsplit : entities run.lump = before ++ entity :: after := by simp [h]
    have hstep := entities_modifyAt options name conditions mutation (ih hsplit)
    rw [List.length_map] at hstep
    rw [List.length_append, List.length_singleton, List.range_succ, List.foldl_append,
      List.foldl_cons, List.foldl_nil, hstep]
    simp

theorem entities_modifyStep (rule : Rule) :
  entities (modifyStep options name run rule).value.lump =
    (entities run.lump).map fun entity => rule.revise options name entity
  := by
  cases rule with
  | remove conditions => simp [modifyStep, Rule.revise]
  | add insertions => simp [modifyStep, Rule.revise]
  | modify conditions mutation =>
    rw [modifyStep, Logged.value_foldlM, size_eq,
      entities_foldl_modifyAt options name conditions mutation (List.append_nil _).symm,
      List.append_nil]

theorem entities_foldl_modifyStep (rules : List Rule) :
  entities (rules.foldl (fun run rule => (modifyStep options name run rule).value) run).lump =
    (entities run.lump).map (revised options name rules)
  := by
  induction rules generalizing run with
  | nil => apply (List.map_id _).symm
  | cons rule rules ih =>
    rw [List.foldl_cons, ih, entities_modifyStep, List.map_map]
    rfl

/-- The unguarded entities of a lump, in memory. -/
def HostLump.unguarded (lump : σ) : Lump where
  name := LumpView.name lump
  entities := ((entities lump).filter isUnguarded).map inner

/-- A run is a filter of the entities, followed by the additions and then by a map. -/
theorem entities_applyRules (rules : List Rule) (options : Options) (lump : σ) :
  ∃ created : List ε, AreAdditions rules created ∧
    entities (applyRules rules options lump).value.1 =
      ((entities lump).filter (stays rules) ++ created).map
        (revised options (LumpView.name lump) rules)
  := by
  let name := LumpView.name lump
  let removed : Run σ :=
    rules.foldl (fun run rule => (removeStep options name run rule).value) ⟨lump, {}⟩
  have hremoved : entities removed.lump = (entities lump).filter (stays rules) :=
    entities_foldl_removeStep options name rules
  obtain ⟨created, hcreated, hadded⟩ :=
    entities_foldl_addStep options name removed rules
  refine ⟨created, hcreated, ?_⟩
  rw [← hremoved, ← hadded, ← entities_foldl_modifyStep]
  simp [applyRules, removed, name]

/-- The unguarded entities that stay, and those that are added, are the ones that a run in memory
goes on with. -/
theorem arrivals_unguarded {rules : List Rule} {created : List ε} (lump : σ)
    (h : AreAdditions rules created) :
  (((entities lump).filter (stays rules) ++ created).filter isUnguarded).map inner =
    arrivals rules (unguarded lump).entities
  := by
  have hcreated : created.filter isUnguarded = created := by
    rw [List.filter_eq_self]
    intro entity hentity
    simp [isUnguarded, h.2 entity hentity]
  have hstays : ((entities lump).filter isUnguarded).filter (stays rules) =
      ((entities lump).filter isUnguarded).filter
        ((fun entity => !rules.any (·.removes entity)) ∘ inner) := by
    apply List.filter_congr
    intro entity hentity
    apply stays_inner
    simpa [isUnguarded] using List.of_mem_filter hentity
  rw [List.filter_append, hcreated, List.map_append, h.1, arrivals, unguarded, List.filter_map,
    ← hstays, List.filter_filter, List.filter_filter]
  simp only [Bool.and_comm]

/-- What a run leaves of the unguarded entities is what it leaves of them in memory. -/
theorem unguarded_applyRules (rules : List Rule) (options : Options) (lump : σ) :
  (unguarded (applyRules rules options lump).value.1).entities =
    (applyRules rules options (unguarded lump)).value.1.entities
  := by
  obtain ⟨created, hcreated, hentities⟩ := entities_applyRules rules options lump
  let name := LumpView.name lump
  have hsame : isUnguarded ∘ (revised options name rules : ε → ε) = isUnguarded := by
    funext entity
    simp only [Function.comp, isUnguarded, (mirrors_revised options name rules).guards_eq]
  calc (unguarded (applyRules rules options lump).value.1).entities
    _ = (((entities lump).filter (stays rules) ++ created).filter isUnguarded).map
          (inner ∘ revised options name rules) := by
      rw [unguarded, hentities, List.filter_map, hsame, List.map_map]
    _ = (((entities lump).filter (stays rules) ++ created).filter isUnguarded).map
          (Entity.patched options name rules ∘ inner) := by
      apply List.map_congr_left
      intro entity hentity
      apply (mirrors_revised options name rules).inner_eq
      simpa [isUnguarded] using List.of_mem_filter hentity
    _ = (arrivals rules (unguarded lump).entities).map (Entity.patched options name rules) := by
      rw [← List.map_map, arrivals_unguarded lump hcreated]
    _ = (applyRules rules options (unguarded lump)).value.1.entities := by
      rw [applyRules_value, foldl_modifyStep_value]
      rfl

/-- A run respects every entity of a host.  Those that stay, hidden ones among them, are in the same
order, with only new entities, of which nothing is held back, after them; and what becomes of the
unguarded ones is what becomes of them in memory. -/
theorem applyRules_respects_guards (rules : List Rule) (options : Options) (lump : σ) :
  let name := LumpView.name lump
  let final := (applyRules rules options lump).value.1
  (∀ entity ∈ entities lump, Respected options name rules entity) ∧
    (∃ created : List ε, (∀ entity ∈ created, guards entity = {}) ∧
      entities final =
        ((entities lump).filter (stays rules)).map (revised options name rules) ++ created) ∧
    (unguarded final).entities = (applyRules rules options (unguarded lump)).value.1.entities
  := by
  refine ⟨?_, ?_, ?_⟩
  · intro entity _
    apply respected
  · obtain ⟨created, hcreated, hentities⟩ := entities_applyRules rules options lump
    refine ⟨created.map (revised options (LumpView.name lump) rules), ?_, ?_⟩
    · intro entity hentity
      obtain ⟨blank, hblank, rfl⟩ := List.mem_map.mp hentity
      rw [(mirrors_revised _ _ _).guards_eq, hcreated.2 blank hblank]
    · rw [hentities, List.map_append]
  · apply unguarded_applyRules

end Lumps

/-- A light with a connection. -/
def wiredLight : Entity where
  attributes := [("classname", "light")]
  connections := [{ output := "OnUser1", target := "lamp", input := "Toggle" }]

/-- Three wired lights of a host: one is hidden, one is unguarded, and one hides its connections. -/
def hostedLights : GuardedLump where
  name := defaultLump
  entities := [{ wiredLight with hidden := true }, { wiredLight with },
    { wiredLight with hidesConnections := true }]

/-- The removal of lights that have a connection from a user output. -/
def wiredLightRemoval : Rule :=
  .remove {
    attributes := [("classname", .literal "light")]
    connections := [{ output := some (.literal "OnUser*") }] }

/-- The removal passes over the light that is hidden and over the one that hides its connections. -/
theorem applyRules_respects_guards_lights :
  (applyRules [wiredLightRemoval] {} hostedLights).value.1.entities =
      [{ wiredLight with hidden := true }, { wiredLight with hidesConnections := true }] ∧
    ∀ entity ∈ entities hostedLights, Respected {} defaultLump [wiredLightRemoval] entity
  := by
  constructor
  · rfl
  · apply (applyRules_respects_guards [wiredLightRemoval] {} hostedLights).1

end LumpRules
