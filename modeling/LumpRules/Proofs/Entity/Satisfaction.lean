import LumpRules.Proofs.Entity.Host

/-!
# Entities that satisfy conditions

Conditions are a conjunction: an entity in memory satisfies them if it has every attribute that they
name with a value as expected, and for every pattern a connection that fits it (`Conditions.MetBy`).
Different patterns may be met by different connections, so that conditions are met one by one
(`holds_conjunction`): they can be put together, repeated and reordered, and more connections do no
harm.
-/

namespace LumpRules

open Text

/-- A connection that has every part of a pattern.  An expected output or parameter may end in a
wildcard, an expected target or input may not. -/
structure ConnectionPattern.FitBy (pattern : ConnectionPattern) (connection : Connection) :
    Prop where
  output : ∀ expected ∈ pattern.output, expected.accepts connection.output true = true
  target : ∀ expected ∈ pattern.target, expected.accepts connection.target false = true
  input : ∀ expected ∈ pattern.input, expected.accepts connection.input false = true
  param : ∀ expected ∈ pattern.param, expected.accepts connection.param true = true
  delay : ∀ delay ∈ pattern.delay,
    isNear (Precision.widen delay) (Precision.widen connection.delay) = true
  limit : ∀ limit ∈ pattern.limit, limit = connection.limit

/-- An attribute that names its entity or the class of it. -/
def IsNaming (key : String) : Prop :=
  lowerAscii key = "targetname" ∨ lowerAscii key = "classname"

instance (key : String) : Decidable (IsNaming key) := by
  unfold IsNaming
  infer_instance

/-- An entity that has everything that conditions ask for.  Expected names may end in a wildcard. -/
structure Conditions.MetBy (conditions : Conditions) (entity : Entity) : Prop where
  attributes : ∀ key expected, (key, expected) ∈ conditions.attributes →
    ∃ value, entity.get? key = some value ∧ expected.accepts value (IsNaming key) = true
  connections : ∀ pattern ∈ conditions.connections,
    ∃ connection ∈ entity.connections, pattern.FitBy connection

/-- Conditions followed by others. -/
def Conditions.followedBy (conditions others : Conditions) : Conditions where
  attributes := conditions.attributes ++ others.attributes
  connections := conditions.connections ++ others.connections

variable {conditions others : Conditions} {entity : Entity}

theorem ConnectionPattern.accepts_iff {pattern : ConnectionPattern} {connection : Connection} :
  pattern.accepts connection = true ↔ pattern.FitBy connection
  := by
  simp only [accepts, Bool.and_eq_true, Option.all_eq_true, beq_iff_eq]
  constructor
  · rintro ⟨⟨⟨⟨⟨houtput, htarget⟩, hinput⟩, hparam⟩, hdelay⟩, hlimit⟩
    exact ⟨houtput, htarget, hinput, hparam, hdelay, hlimit⟩
  · rintro ⟨houtput, htarget, hinput, hparam, hdelay, hlimit⟩
    exact ⟨⟨⟨⟨⟨houtput, htarget⟩, hinput⟩, hparam⟩, hdelay⟩, hlimit⟩

theorem isWildcardKey_eq (key : String) :
  isWildcardKey key = decide (IsNaming key)
  := by
  have htargetname : lowerAscii "targetname" = "targetname" := by decide
  have hclassname : lowerAscii "classname" = "classname" := by decide
  rw [Bool.eq_iff_iff, decide_eq_true_iff, isWildcardKey, IsNaming]
  simp [wildcardKeys, htargetname, hclassname]

/-- The connections of an entity in memory are all shown. -/
theorem shownConnections_eq (entity : Entity) :
  shownConnections entity = entity.connections
  := filterMap_getElem?_range entity.connections

theorem hasAttribute_iff {key : String} {expected : RuleValue} {allowWildcard : Bool} :
  hasAttribute entity key expected allowWildcard = true ↔
    ∃ value, entity.get? key = some value ∧ expected.accepts value allowWildcard = true
  := by
  have hattribute : EntityView.attribute? entity key = entity.get? key := rfl
  rw [hasAttribute, hattribute, Option.any_eq_true]

theorem Conditions.holds_iff :
  conditions.holds entity = true ↔ conditions.MetBy entity
  := by
  simp only [holds, Bool.and_eq_true, List.all_eq_true, List.any_eq_true, shownConnections_eq,
    hasAttribute_iff, ConnectionPattern.accepts_iff, isWildcardKey_eq]
  constructor
  · rintro ⟨hattributes, hconnections⟩
    constructor
    · intro key expected hentry
      apply hattributes (key, expected) hentry
    · apply hconnections
  · rintro ⟨hattributes, hconnections⟩
    constructor
    · rintro ⟨key, expected⟩ hentry
      apply hattributes key expected hentry
    · apply hconnections

/-- What is met stays met if some of the conditions are left out. -/
theorem Conditions.MetBy.mono (h : others.MetBy entity)
    (hattributes : conditions.attributes ⊆ others.attributes)
    (hconnections : conditions.connections ⊆ others.connections) :
  conditions.MetBy entity
  := by
  constructor
  · intro key expected hentry
    apply h.attributes key expected (hattributes hentry)
  · intro pattern hpattern
    apply h.connections pattern (hconnections hpattern)

theorem Conditions.metBy_followedBy :
  (conditions.followedBy others).MetBy entity ↔ conditions.MetBy entity ∧ others.MetBy entity
  := by
  constructor
  · intro h
    constructor
    · apply h.mono (List.subset_append_left ..) (List.subset_append_left ..)
    · apply h.mono (List.subset_append_right ..) (List.subset_append_right ..)
  · rintro ⟨h, hothers⟩
    constructor
    · intro key expected hentry
      rcases List.mem_append.mp hentry with hentry | hentry
      · apply h.attributes key expected hentry
      · apply hothers.attributes key expected hentry
    · intro pattern hpattern
      rcases List.mem_append.mp hpattern with hpattern | hpattern
      · apply h.connections pattern hpattern
      · apply hothers.connections pattern hpattern

/-- One more connection does no harm. -/
theorem Conditions.MetBy.addConnection (h : conditions.MetBy entity) (connection : Connection) :
  conditions.MetBy (entity.addConnection connection)
  := by
  constructor
  · apply h.attributes
  · intro pattern hpattern
    obtain ⟨old, hold, hfit⟩ := h.connections pattern hpattern
    exact ⟨old, List.mem_append_left _ hold, hfit⟩

/-- An entity satisfies conditions exactly if it meets each of them.  It satisfies two lists of
conditions in a row exactly if it satisfies both; in which order and how often conditions are listed
does not matter; and an entity that satisfies them still does so with one more connection. -/
theorem holds_conjunction (conditions : Conditions) (entity : Entity) :
  (conditions.holds entity = true ↔ conditions.MetBy entity) ∧
  (∀ others : Conditions, (conditions.followedBy others).holds entity =
    (conditions.holds entity && others.holds entity)) ∧
  (∀ others : Conditions,
    (∀ entry, entry ∈ others.attributes ↔ entry ∈ conditions.attributes) →
    (∀ pattern, pattern ∈ others.connections ↔ pattern ∈ conditions.connections) →
    others.holds entity = conditions.holds entity) ∧
  ∀ connection, conditions.holds entity = true →
    conditions.holds (entity.addConnection connection) = true
  := by
  refine ⟨Conditions.holds_iff, ?_, ?_, ?_⟩
  · intro others
    rw [Bool.eq_iff_iff, Bool.and_eq_true]
    simp only [Conditions.holds_iff]
    apply Conditions.metBy_followedBy
  · intro others hattributes hconnections
    rw [Bool.eq_iff_iff, Conditions.holds_iff, Conditions.holds_iff]
    constructor
    · intro h
      apply h.mono
      · intro entry
        apply (hattributes entry).mpr
      · intro pattern
        apply (hconnections pattern).mpr
    · intro h
      apply h.mono
      · intro entry
        apply (hattributes entry).mp
      · intro pattern
        apply (hconnections pattern).mp
  · intro connection h
    rw [Conditions.holds_iff] at h ⊢
    apply h.addConnection

/-- Two patterns are met by two connections, neither of which fits both. -/
example :
    let entity : Entity := { connections := [
      { output := "OnOpen", target := "lamp", input := "TurnOn" },
      { output := "OnClose", target := "lamp", input := "TurnOff" }] }
    let conditions : Conditions := { connections := [
      { output := some (.literal "onopen") }, { input := some (.literal "turnoff") }] }
    conditions.holds entity = true := by
  decide

end LumpRules
