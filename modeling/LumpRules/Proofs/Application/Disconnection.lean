import LumpRules.Proofs.Application.Patch
import LumpRules.Proofs.Rule.Description
import LumpRules.Proofs.Rule.Spelling

/-!
# Deleting what was inserted

A connection that is inserted by a description is deleted by the same description, unless the
description has a delay that is too large for single precision (`accepts_described_iff`).  Such a
delay is kept as infinity, which is not near itself.
-/

namespace LumpRules

open Compilation

variable {template : ConnectionTemplate} {connection : Connection}

/-! ### Insertions and deletions -/

theorem ConnectionTemplate.eq_filled (h : template.build = .ok connection) :
  connection = template.filled
  := by
  rw [build_eq] at h
  cases hlack : template.lack? with
  | some field =>
    rw [hlack] at h
    contradiction
  | none =>
    rw [hlack] at h
    exact (Except.ok.inj h).symm

theorem eq_extend_of_applyInsert {insertions : Insertions} {entity inserted : Entity}
    (h : applyInsert insertions entity = .ok inserted) :
  inserted = entity.extend (some insertions)
  := by
  rw [applyInsert, ConnectionTemplate.mapM_build_eq] at h
  cases hlack : insertions.connections.findSome? ConnectionTemplate.lack? with
  | some field =>
    rw [hlack] at h
    contradiction
  | none =>
    rw [hlack] at h
    exact (Except.ok.inj h).symm

/-- A deletion leaves the connections that satisfy none of its patterns. -/
theorem mem_applyDelete_iff {deletions : Conditions} {entity : Entity}
    (hqueued : entity.queuedForSpawn = false) :
  connection ∈ (applyDelete deletions entity).value.connections ↔
    connection ∈ entity.connections ∧
      ∀ pattern ∈ deletions.connections, ¬ pattern.accepts connection = true
  := by
  obtain ⟨held, hheld, -⟩ := value_applyDelete { delete := some deletions } entity
  have hdeleted : (applyDelete deletions entity).value = _ := hheld
  rw [hdeleted, hqueued]
  simp [Mutation.disconnects]

/-! ### Descriptions -/

/-- The pattern and the template that are read from one description, whose texts are verbatim,
agree: the pattern accepts the connection that the template builds exactly if the delay of the
description is finite in single precision.  Then a deletion that lists the description takes out
what was inserted by it; otherwise a deletion that lists nothing else leaves it. -/
theorem accepts_described_iff [PatternReader] {key key' : String} {value : Json}
    {pattern : ConnectionPattern} (hverbatim : VerbatimConnection value)
    (htemplate : (connectionTemplate key value).run.value = .ok template)
    (hpattern : (connectionPattern key' value).run.value = .ok pattern)
    (hbuild : template.build = .ok connection) :
  (pattern.accepts connection = true ↔ ∀ delay ∈ template.delay, delay.isFinite = true) ∧
  ∀ (insertions : Insertions) (deletions : Conditions) (entity inserted : Entity),
    entity.queuedForSpawn = false → template ∈ insertions.connections →
    applyInsert insertions entity = .ok inserted → pattern ∈ deletions.connections →
    connection ∈ inserted.connections ∧
    ((∀ delay ∈ template.delay, delay.isFinite = true) →
      connection ∉ (applyDelete deletions inserted).value.connections) ∧
    (deletions.connections = [pattern] →
      connection ∉ (applyDelete deletions inserted).value.connections →
      ∀ delay ∈ template.delay, delay.isFinite = true)
  := by
  have hsame : pattern = template.asPattern := by
    have hread : (connectionPattern key value).run.value = .ok template.asPattern := by
      rw [value_connectionPattern hverbatim, htemplate]
      rfl
    have hread' := respects_connectionPattern key key' value value (.same value) _ hread
    rw [hpattern] at hread'
    exact Except.ok.inj hread'
  have haccepts : pattern.accepts connection = true ↔
      ∀ delay ∈ template.delay, delay.isFinite = true := by
    rw [hsame, template.eq_filled hbuild]
    apply template.accepts_filled_iff
  refine ⟨haccepts, ?_⟩
  intro insertions deletions entity inserted hqueued hinsertion hinserted hdeletion
  have hkept : inserted.queuedForSpawn = false := by
    rw [eq_extend_of_applyInsert hinserted, Entity.queuedForSpawn_extend, hqueued]
  have hmade : connection ∈ inserted.connections := by
    rw [eq_extend_of_applyInsert hinserted, Entity.connections_extend, template.eq_filled hbuild]
    apply List.mem_append_right
    apply List.mem_map_of_mem hinsertion
  refine ⟨hmade, ?_, ?_⟩
  · intro hfinite hleft
    exact ((mem_applyDelete_iff hkept).mp hleft).2 pattern hdeletion (haccepts.mpr hfinite)
  · intro honly hgone
    apply haccepts.mp
    by_contra hrejects
    apply hgone
    apply (mem_applyDelete_iff hkept).mpr ⟨hmade, ?_⟩
    intro other hother
    rw [honly, List.mem_singleton] at hother
    rwa [hother]

/-- A description with all of its parts, among them a text that ends in a star. -/
def lampSwitch (delay : Float) : Json :=
  .object [("output", .string "OnTrigger"), ("TargetName", .string "Lamp*"),
    ("input", .string "Toggle"), ("delay", .number (.double delay)),
    ("limit", .number (.integer 1))]

/-- The template that is read from `lampSwitch`. -/
def lampSwitchTemplate (delay : Float) : ConnectionTemplate where
  output := some "OnTrigger"
  target := some "Lamp*"
  input := some "Toggle"
  delay := some (Precision.narrow delay)
  limit := some 1

open scoped PatternReader in
/-- What is switched after half a second is found again and deleted. -/
theorem accepts_described_lampSwitch :
  let template := lampSwitchTemplate 0.5
  let pattern := template.asPattern
  let connection := template.filled
  (connectionTemplate "connections" (lampSwitch 0.5)).run.value = .ok template ∧
  (connectionPattern "io" (lampSwitch 0.5)).run.value = .ok pattern ∧
  template.build = .ok connection ∧ pattern.accepts connection = true ∧
  ∃ inserted : Entity, applyInsert { connections := [template] } {} = .ok inserted ∧
    connection ∈ inserted.connections ∧
    connection ∉ (applyDelete { connections := [pattern] } inserted).value.connections
  := by
  intro template pattern connection
  have hverbatim : VerbatimConnection (lampSwitch 0.5) := by decide +kernel
  have htemplate : (connectionTemplate "connections" (lampSwitch 0.5)).run.value = .ok template :=
    rfl
  have hpattern : (connectionPattern "io" (lampSwitch 0.5)).run.value = .ok pattern := rfl
  have hbuild : template.build = .ok connection := rfl
  have hfinite : ∀ delay ∈ template.delay, delay.isFinite = true := by decide +kernel
  obtain ⟨haccepts, hdeletes⟩ := accepts_described_iff hverbatim htemplate hpattern hbuild
  obtain ⟨hmade, hgone, -⟩ := hdeletes { connections := [template] } { connections := [pattern] }
    {} _ rfl List.mem_cons_self rfl List.mem_cons_self
  exact ⟨htemplate, hpattern, hbuild, haccepts.mpr hfinite, _, rfl, hmade, hgone hfinite⟩

open scoped PatternReader in
/-- A delay that is too large for single precision is compiled both ways, but the connection is not
found again, and is left by the deletion. -/
theorem rejects_described_overflow :
  let template := lampSwitchTemplate 1e39
  let pattern := template.asPattern
  let connection := template.filled
  VerbatimConnection (lampSwitch 1e39) ∧
  (connectionTemplate "connections" (lampSwitch 1e39)).run.value = .ok template ∧
  (connectionPattern "connections" (lampSwitch 1e39)).run.value = .ok pattern ∧
  template.build = .ok connection ∧ pattern.accepts connection = false ∧
  ∃ inserted : Entity, applyInsert { connections := [template] } {} = .ok inserted ∧
    connection ∈ (applyDelete { connections := [pattern] } inserted).value.connections
  := by
  intro template pattern connection
  have hverbatim : VerbatimConnection (lampSwitch 1e39) := by decide +kernel
  have hrejects : pattern.accepts connection = false := by decide +kernel
  refine ⟨hverbatim, rfl, rfl, rfl, hrejects, _, rfl, ?_⟩
  apply (mem_applyDelete_iff rfl).mpr ⟨List.mem_cons_self, ?_⟩
  intro other hother
  obtain rfl := List.mem_singleton.mp hother
  rw [hrejects]
  apply Bool.false_ne_true

end LumpRules
