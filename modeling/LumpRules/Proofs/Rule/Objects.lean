import LumpRules.Proofs.Rule.Fragments

/-!
# Compilation reads the objects of each kind

The texts of a section list rule objects, an object by itself and an array by its items.
`SectionHolds` says which objects those are, however they are spread over the texts, and
`compileSections_eq` that the rules are those of the objects of each kind, one object after the
other.  Two documents with the same objects of each kind describe the same rules
(`ofDocument_eq_of_objects`).
-/

namespace LumpRules

open Document Compilation

variable {kind : RuleKind} {sections sections' : Sections} {fragment : String} {value : Json}
  {objects : List Members}

/-! ### The objects of a text -/

/-- What a value of a section lists: the items of an array, or the value itself. -/
def listed : Json → List Json
  | .array items => items
  | value => [value]

/-- The texts of a section are JSON, and what they list are these objects. -/
def SectionHolds (sections : Sections) (kind : RuleKind) (objects : List Members) : Prop :=
  ∃ values : List Json, (sections.fragments kind.name).map Json.read = values.map .ok ∧
    values.flatMap listed = objects.map .object

theorem sectionObjects_eq (h : Json.read fragment = .ok value) :
  sectionObjects kind fragment = (listed value).mapM (sectionObject kind)
  := by
  rw [sectionObjects, h]
  cases value with
  | array items => rfl
  | null => rfl
  | bool b => rfl
  | number n => rfl
  | string s => rfl
  | object members => rfl

theorem mapM_sectionObject :
  (objects.map Json.object).mapM (sectionObject kind) = pure objects
  := by
  induction objects with
  | nil => rfl
  | cons members objects ih =>
    rw [List.map_cons, List.mapM_cons, ih, sectionObject]
    simp only [pure_bind]

/-! ### The rules of the objects -/

/-- The rule that an object of a section describes, if it is kept. -/
def objectRule? [PatternReader] : RuleKind → Members → Compilation (Option Rule)
  | .remove => removeRule?
  | .add => addRule?
  | .modify => modifyRule?

/-- The rules of some objects of a section, one after the other. -/
def objectRules [PatternReader] (kind : RuleKind) (objects : List Members) :
    Compilation (List Rule) := do
  return (← objects.mapM (objectRule? kind)).filterMap id

theorem objectRules_append [PatternReader] (kind : RuleKind) (objects others : List Members) :
  objectRules kind (objects ++ others) = do
    let rules ← objectRules kind objects
    let more ← objectRules kind others
    return rules ++ more
  := by
  simp [objectRules, List.mapM_append]

theorem fragmentRules_eq [PatternReader] (h : Json.read fragment = .ok value)
    (hvalue : listed value = objects.map .object) :
  fragmentRules kind (objectRule? kind) fragment = objectRules kind objects
  := by
  rw [fragmentRules, sectionObjects_eq h, hvalue, mapM_sectionObject, pure_bind]
  rfl

/-- It is of no matter how the objects are spread over the texts. -/
theorem mapM_fragmentRules [PatternReader] {fragments : List String} {values : List Json}
    (h : fragments.map Json.read = values.map .ok)
    (hvalues : values.flatMap listed = objects.map .object) :
  (do return (← fragments.mapM (fragmentRules kind (objectRule? kind))).flatten) =
    objectRules kind objects
  := by
  induction fragments generalizing values objects with
  | nil =>
    obtain rfl := List.map_eq_nil_iff.mp h.symm
    obtain rfl := List.map_eq_nil_iff.mp hvalues.symm
    simp [objectRules]
  | cons fragment fragments ih =>
    cases values with
    | nil => simp at h
    | cons value values =>
      rw [List.map_cons, List.map_cons, List.cons.injEq] at h
      rw [List.flatMap_cons] at hvalues
      obtain ⟨first, rest, rfl, hfirst, hrest⟩ := List.map_eq_append_iff.mp hvalues.symm
      rw [List.mapM_cons, objectRules_append, ← ih h.2 hrest.symm,
        fragmentRules_eq h.1 hfirst.symm]
      simp

/-- The rules of a section are those of its objects. -/
theorem sectionRules_eq [PatternReader] (h : SectionHolds sections kind objects) :
  sectionRules sections kind (objectRule? kind) = objectRules kind objects
  := by
  obtain ⟨values, hfragments, hvalues⟩ := h
  apply mapM_fragmentRules hfragments hvalues

/-- The rules of a document are those of its objects, kind by kind. -/
theorem compileSections_eq [PatternReader] {objects : RuleKind → List Members}
    (h : ∀ kind, SectionHolds sections kind (objects kind)) :
  compileSections sections = do
    let removals ← objectRules .remove (objects .remove)
    let additions ← objectRules .add (objects .add)
    let modifications ← objectRules .modify (objects .modify)
    return removals ++ additions ++ modifications
  := by
  rw [← sectionRules_eq (h .remove), ← sectionRules_eq (h .add), ← sectionRules_eq (h .modify)]
  rfl

/-! ### Documents -/

/-- Documents with the same objects of each kind describe the same rules, or fail with the same
error.  How the objects are spread over sections and arrays, under which names and in which order
the sections stand, and what else there is, is of no matter. -/
theorem ofDocument_eq_of_objects [PatternReader] {text text' : String}
    (h : parse text = .ok sections) (h' : parse text' = .ok sections')
    (hobjects : ∀ kind, ∃ objects, SectionHolds sections kind objects ∧
      SectionHolds sections' kind objects) :
  RuleFile.ofDocument text = RuleFile.ofDocument text'
  := by
  choose objects hsections hsections' using hobjects
  rw [ofDocument_eq h, ofDocument_eq h', compileSections_eq hsections,
    compileSections_eq hsections']

theorem sectionHolds_split (kind : RuleKind) :
  ∃ objects,
    SectionHolds ⟨[("remove", ["\x7b\"a\":1\x7d", "[\x7b\"b\":2\x7d]"]), ("x", ["[3]"])]⟩ kind
      objects ∧
    SectionHolds ⟨[("remove", ["[\x7b\"a\":1\x7d,\x7b\"b\":2\x7d]"])]⟩ kind objects
  := by
  have ha : Json.read "\x7b\"a\":1\x7d" = .ok (.object [("a", .number (.integer 1))]) := rfl
  have hb : Json.read "[\x7b\"b\":2\x7d]" =
      .ok (.array [.object [("b", .number (.integer 2))]]) := rfl
  have hab : Json.read "[\x7b\"a\":1\x7d,\x7b\"b\":2\x7d]" = .ok (.array
      [.object [("a", .number (.integer 1))], .object [("b", .number (.integer 2))]]) := rfl
  cases kind with
  | remove =>
    use [[("a", .number (.integer 1))], [("b", .number (.integer 2))]]
    constructor
    · use [.object [("a", .number (.integer 1))],
        .array [.object [("b", .number (.integer 2))]]]
      exact ⟨congrArg₂ (fun a b => [a, b]) ha hb, rfl⟩
    · use [.array [.object [("a", .number (.integer 1))], .object [("b", .number (.integer 2))]]]
      exact ⟨congrArg (fun ab => [ab]) hab, rfl⟩
  | add =>
    use []
    exact ⟨⟨[], rfl, rfl⟩, ⟨[], rfl, rfl⟩⟩
  | modify =>
    use []
    exact ⟨⟨[], rfl, rfl⟩, ⟨[], rfl, rfl⟩⟩

open scoped PatternReader in
/-- Two removals, once under both names of their section with an unknown section between them,
and once in one array. -/
theorem ofDocument_eq_of_objects_split :
  parse "\x7b\"remove\":\x7b\"a\":1\x7d,\"x\":[3],\"Filter\":[\x7b\"b\":2\x7d]\x7d" =
      .ok ⟨[("remove", ["\x7b\"a\":1\x7d", "[\x7b\"b\":2\x7d]"]), ("x", ["[3]"])]⟩ ∧
    parse "\x7b\"filter\":[\x7b\"a\":1\x7d,\x7b\"b\":2\x7d]\x7d" =
      .ok ⟨[("remove", ["[\x7b\"a\":1\x7d,\x7b\"b\":2\x7d]"])]⟩ ∧
    RuleFile.ofDocument
        "\x7b\"remove\":\x7b\"a\":1\x7d,\"x\":[3],\"Filter\":[\x7b\"b\":2\x7d]\x7d" =
      RuleFile.ofDocument "\x7b\"filter\":[\x7b\"a\":1\x7d,\x7b\"b\":2\x7d]\x7d"
  := by
  have hsplit : parse
      "\x7b\"remove\":\x7b\"a\":1\x7d,\"x\":[3],\"Filter\":[\x7b\"b\":2\x7d]\x7d" =
      .ok ⟨[("remove", ["\x7b\"a\":1\x7d", "[\x7b\"b\":2\x7d]"]), ("x", ["[3]"])]⟩ := rfl
  have hjoined : parse "\x7b\"filter\":[\x7b\"a\":1\x7d,\x7b\"b\":2\x7d]\x7d" =
      .ok ⟨[("remove", ["[\x7b\"a\":1\x7d,\x7b\"b\":2\x7d]"])]⟩ := rfl
  refine ⟨hsplit, hjoined, ?_⟩
  apply ofDocument_eq_of_objects hsplit hjoined sectionHolds_split

end LumpRules
