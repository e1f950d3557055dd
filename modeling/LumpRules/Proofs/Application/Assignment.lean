import LumpRules.Proofs.Application.Patch
import LumpRules.Proofs.Entity.Satisfaction
import LumpRules.Proofs.Rule.Description
import Mathlib.Data.List.Nodup

/-!
# Matching what was assigned

A block of verbatim scalars is read as insertions where it is assigned, and as conditions where it
is matched.  The text that a scalar assigns is as the same scalar expects, so an entity that has
been modified by the insertions satisfies the conditions (`holds_assigned`).  The names of the block
must differ in more than case: of two values for one name only the last one stays.
-/

namespace LumpRules

open Text Compilation

variable {members : Members} {insertions : Insertions} {name text : String}

/-! ### Conditions -/

theorem not_faultyCondition [PatternReader] {value : Json} (h : VerbatimScalar value) :
  ¬ FaultyCondition value
  := by
  cases value with
  | string text =>
    rintro ⟨source, hsource, htext, -⟩
    exact h ⟨source, hsource, htext⟩
  | bool b => exact not_false
  | number n => exact not_false
  | _ => contradiction

/-- Attributes with verbatim scalars are conditions. -/
theorem exists_conditions [PatternReader]
    (hnames : ∀ member ∈ members, isConnectionsKey member.1 = false)
    (hvalues : ∀ member ∈ members, VerbatimScalar member.2) :
  ∃ expected, (conditions members).run.value = .ok expected
  := by
  cases houtcome : (conditions members).run.value with
  | ok expected => exact ⟨expected, rfl⟩
  | error error =>
    obtain ⟨member, hmember, hfaulty⟩ := fails_conditions.mp ⟨error, houtcome⟩
    rw [hnames member hmember, if_neg Bool.false_ne_true] at hfaulty
    exact absurd hfaulty (not_faultyCondition (hvalues member hmember))

theorem connectionItems_eq_nil (h : ∀ member ∈ members, isConnectionsKey member.1 = false) :
  connectionItems members = []
  := by
  have hnone : connectionMembers members = [] := by
    rw [connectionMembers, List.filter_eq_nil_iff]
    intro member hmember
    rw [h member hmember]
    apply Bool.false_ne_true
  rw [connectionItems, hnone]
  rfl

/-! ### Insertions -/

/-- If the names differ in more than case, every value is the last one of its name. -/
theorem Insertions.lastValue?_of_mem
    (hnames : (insertions.attributes.map fun entry => lowerAscii entry.1).Nodup)
    (h : (name, text) ∈ insertions.attributes) :
  insertions.lastValue? name = some text
  := by
  have hsame : ∀ entry ∈ insertions.attributes.filter (fun entry => sameName entry.1 name),
      entry = (name, text) := by
    intro entry hentry
    obtain ⟨hmem, hname⟩ := List.mem_filter.mp hentry
    exact List.inj_on_of_nodup_map hnames hmem h (sameName_iff.mp hname)
  have hmem : (name, text) ∈ insertions.attributes.filter fun entry => sameName entry.1 name :=
    List.mem_filter.mpr ⟨h, sameName_refl name⟩
  rw [lastValue?]
  cases hlast : (insertions.attributes.filter fun entry => sameName entry.1 name).getLast? with
  | none =>
    rw [List.getLast?_eq_none_iff.mp hlast] at hmem
    contradiction
  | some entry =>
    rw [hsame entry (List.mem_of_getLast? hlast)]
    rfl

/-- What a mutation inserts is there in the end. -/
theorem get?_applyMutation {options : Options} {lump : String} {mutation : Mutation}
    {entity : Entity} (hinsert : mutation.insert = some insertions)
    (hcomplete : insertions.isComplete = true) (hvalue : insertions.lastValue? name = some text) :
  (applyMutation options lump mutation entity).value.1.get? name = some text
  := by
  rw [value_applyMutation, Entity.get?_extend, Mutation.inserted?, hinsert, Option.filter_some,
    hcomplete, if_pos rfl, Option.bind_some, hvalue]
  rfl

/-- A modification puts the mutated entity into the place of one that it matches. -/
theorem getElem?_modifyStep {options : Options} {lump : String} {mutation : Mutation}
    {matching : Conditions} {run : Run Lump} {index : Nat} {entity : Entity}
    (hentity : run.lump.entities[index]? = some entity) (hmatch : matching.holds entity = true) :
  (modifyStep options lump run (.modify matching mutation)).value.lump.entities[index]? =
    some (applyMutation options lump mutation entity).value.1
  := by
  rw [modifyStep_value]
  simp [hentity, Rule.visit, hmatch]

/-- A truth value, an integer of 64 bits or a verbatim text assigns a text that is as the same
scalar expects, with wildcards or without.  So after a modification whose insertions are complete
and name every attribute once, each entity that it matched satisfies the conditions that are read
from any of the inserted attributes with such values. -/
theorem holds_assigned [PatternReader] :
  (∀ value, VerbatimScalar value → ∃ text expected, (assignedText value).run.value = .ok text ∧
    (∀ key, (expectedValue key value).run.value = .ok expected) ∧
    ∀ allowWildcard, expected.accepts text allowWildcard = true) ∧
  ∀ (block : Members) (insertions : Insertions) (assigned : Members),
    (Compilation.insertions block).run.value = .ok insertions → insertions.isComplete = true →
    ((attributeMembers block).map fun member => lowerAscii member.1).Nodup →
    assigned ⊆ attributeMembers block → (∀ member ∈ assigned, VerbatimScalar member.2) →
    ∃ expected, (conditions assigned).run.value = .ok expected ∧
      ∀ (options : Options) (lump : String) (matching : Conditions) (mutation : Mutation)
        (run : Run Lump) (index : Nat) (entity : Entity),
        mutation.insert = some insertions → run.lump.entities[index]? = some entity →
        matching.holds entity = true →
        ∃ changed, (modifyStep options lump run
            (.modify matching mutation)).value.lump.entities[index]? = some changed ∧
          expected.holds changed = true
  := by
  refine ⟨fun value => accepts_assignedText, ?_⟩
  intro block insertions assigned hinsertions hcomplete hdistinct hassigned hscalar
  have hblock : InsertionsOf block insertions := insertionsOf_insertions hinsertions
  have hattribute : ∀ member ∈ assigned, isConnectionsKey member.1 = false := by
    intro member hmember
    simpa using (List.mem_filter.mp (hassigned hmember)).2
  have hnames : (insertions.attributes.map fun entry => lowerAscii entry.1).Nodup := by
    rw [hblock.map_name]
    exact hdistinct
  obtain ⟨expected, hexpected⟩ := exists_conditions hattribute hscalar
  refine ⟨expected, hexpected, ?_⟩
  intro options lump matching mutation run index entity hinsert hentity hmatch
  refine ⟨_, getElem?_modifyStep hentity hmatch, ?_⟩
  have hread : ConditionsOf assigned expected := conditionsOf_conditions hexpected
  apply Conditions.holds_iff.mpr
  constructor
  · intro key wanted hwanted
    obtain ⟨source, hsource, hvalue⟩ := hread.exists_member hwanted
    have hmember : (key, source) ∈ assigned := (List.mem_filter.mp hsource).1
    obtain ⟨text, htext, hwritten⟩ := hblock.exists_entry (hassigned hmember)
    obtain ⟨text', wanted', htext', hwanted', haccepts⟩ :=
      accepts_assignedText (hscalar _ hmember)
    obtain rfl := Except.ok.inj (hwritten.symm.trans htext')
    obtain rfl := Except.ok.inj (hvalue.symm.trans (hwanted' key))
    refine ⟨text, ?_, haccepts _⟩
    apply get?_applyMutation hinsert hcomplete
    apply Insertions.lastValue?_of_mem hnames htext
  · intro pattern hpattern
    obtain ⟨item, hitem, -⟩ := exists_of_mem hread.connections.flip hpattern
    rw [connectionItems_eq_nil hattribute] at hitem
    contradiction

/-- One attribute of each kind, among them the least integer and a text that ends in a star. -/
def crateAttributes : Members :=
  [("targetname", .string "Crate*"), ("Health", .number (.integer Decimal.minInteger)),
    ("solid", .bool true)]

open scoped PatternReader in
/-- An entity takes these attributes over, also in place of the one by which it was matched. -/
theorem holds_assigned_crateAttributes :
  let run : Run Lump :=
    { lump := { name := "default_ents", entities := [{ attributes := [("HEALTH", "5")] }] } }
  let matching : Conditions := { attributes := [("health", .integer 5)] }
  ∃ insertions expected changed,
    (Compilation.insertions crateAttributes).run.value = .ok insertions ∧
    (conditions crateAttributes).run.value = .ok expected ∧
    (modifyStep {} "default_ents" run (.modify matching
      { insert := some insertions })).value.lump.entities[0]? = some changed ∧
    expected.holds changed = true
  := by
  intro run matching
  have hscalar : ∀ member ∈ crateAttributes, VerbatimScalar member.2 := by
    rw [← List.forall_iff_forall_mem]
    decide
  obtain ⟨expected, hexpected, hholds⟩ := holds_assigned.2 crateAttributes _ crateAttributes rfl rfl
    (by decide) (List.Subset.refl _) hscalar
  obtain ⟨changed, hchanged, hmet⟩ := hholds {} "default_ents" matching { insert := some _ } run 0 _
    rfl rfl (by decide)
  exact ⟨_, expected, changed, rfl, hexpected, hchanged, hmet⟩

end LumpRules
