import LumpRules.Proofs.Rule.Faults
import LumpRules.Proofs.Rule.Objects
import Mathlib.Data.Set.List

/-!
# Documents without rules

A document that can be parsed is rejected exactly if a text of one of its sections is faulty: it
is no JSON, or something that it lists is no rule object or has a fault
(`ofDocument_isError_iff`).  This holds of every `PatternReader`, whatever sources it accepts.
Whether the rule of a faulty object would be kept makes no difference, with one exception: behind
a vacuous match block nothing is looked at (`ofDocument_vacuous_match`).
-/

namespace LumpRules

open Document Compilation

variable {kind : RuleKind} {sections : Sections} {fragment : String} {objects : List Members}

/-- A value in a section that is no rule object of a kind, or a faulty one. -/
def FaultyItem [PatternReader] (kind : RuleKind) : Json → Prop
  | .object members => FaultyRule kind members
  | _ => True

/-- A text of a section that is no JSON or lists something faulty. -/
def FaultyFragment [PatternReader] (kind : RuleKind) (fragment : String) : Prop :=
  match Json.read fragment with
  | .error _ => True
  | .ok value => ∃ item ∈ listed value, FaultyItem kind item

theorem fails_objectRule? [PatternReader] {members : Members} :
  Fails (objectRule? kind members) ↔ FaultyRule kind members
  := by
  cases kind with
  | remove => apply fails_removeRule?
  | add => apply fails_addRule?
  | modify => apply fails_modifyRule?

theorem fails_objectRules [PatternReader] :
  Fails (objectRules kind objects) ↔ ∃ members ∈ objects, FaultyRule kind members
  := by
  rw [objectRules, fails_bind_pure, fails_mapM]
  simp only [fails_objectRule?]

theorem fails_sectionObject {item : Json} :
  Fails (sectionObject kind item) ↔ item ∉ Set.range Json.object
  := by
  cases item <;> simp [sectionObject]

theorem fails_fragmentRules [PatternReader] :
  Fails (fragmentRules kind (objectRule? kind) fragment) ↔ FaultyFragment kind fragment
  := by
  rw [FaultyFragment]
  cases hread : Json.read fragment with
  | error reason => simp [fragmentRules, sectionObjects, hread]
  | ok value =>
    by_cases hobjects : listed value ∈ Set.range (List.map Json.object)
    · obtain ⟨objects, hobjects⟩ := hobjects
      rw [fragmentRules_eq hread hobjects.symm, fails_objectRules]
      simp [← hobjects, FaultyItem]
    · simp only [Set.range_list_map, Set.mem_ofPred_eq, not_forall] at hobjects
      obtain ⟨item, hitem, hobject⟩ := hobjects
      apply iff_of_true
      · rw [fragmentRules, sectionObjects_eq hread, fails_bind, fails_mapM]
        left
        use item, hitem
        apply fails_sectionObject.mpr hobject
      · use item, hitem
        cases item with
        | object members => simp at hobject
        | _ => trivial

theorem fails_compileSections [PatternReader] :
  Fails (compileSections sections) ↔
    ∃ kind : RuleKind, ∃ fragment ∈ sections.fragments kind.name, FaultyFragment kind fragment
  := by
  have hsection : ∀ kind, Fails (sectionRules sections kind (objectRule? kind)) ↔
      ∃ fragment ∈ sections.fragments kind.name, FaultyFragment kind fragment := by
    intro kind
    rw [sectionRules, fails_bind_pure, fails_mapM]
    simp only [fails_fragmentRules]
  rw [compileSections, fails_bind_iff fun _ => fails_bind_iff fun _ => fails_bind_pure]
  constructor
  · rintro (hfails | hfails | hfails)
    · use .remove
      apply (hsection .remove).mp hfails
    · use .add
      apply (hsection .add).mp hfails
    · use .modify
      apply (hsection .modify).mp hfails
  · rintro ⟨kind, hkind⟩
    have hfails := (hsection kind).mpr hkind
    cases kind with
    | remove => apply Or.inl hfails
    | add => apply Or.inr (.inl hfails)
    | modify => apply Or.inr (.inr hfails)

/-- A document that can be parsed is rejected exactly if a text of its sections is faulty. -/
theorem ofDocument_isError_iff [PatternReader] {text : String} (h : parse text = .ok sections) :
  (∃ error, (RuleFile.ofDocument text).run.value = .error (.compile error)) ↔
    ∃ kind : RuleKind, ∃ fragment ∈ sections.fragments kind.name, FaultyFragment kind fragment
  := by
  rw [ofDocument_eq h, run_value_bind, run_value_adapt, ← fails_compileSections, Fails]
  cases (compileSections sections).run.value with
  | error error => simp [bind, Except.bind, Except.mapError]
  | ok rules => simp [bind, Except.bind, Except.mapError]

open scoped PatternReader in
theorem isBrokenPattern_group :
  IsBrokenPattern "/(x/"
  := ⟨"(x", by decide, rfl, rfl⟩

/-- The members of a modification that deletes connections by a broken pattern. -/
def brokenDeletion : Members :=
  [("match", .object [("a", .bool true)]),
    ("Delete", .object [("io", .array [.object [("Output", .string "/(x/")]])])]

/-- A text of a section with that modification. -/
def brokenDeletionText : String :=
  "[\x7b\"match\":\x7b\"a\":true\x7d,\"Delete\":\x7b\"io\":[\x7b\"Output\":\"/(x/\"\x7d]\x7d\x7d]"

open scoped PatternReader in
theorem faultyModification_brokenDeletion :
  FaultyModification brokenDeletion
  := by
  right
  constructor
  · intro hvacuous
    have hkey := (hvacuous ("a", .bool true) (List.mem_singleton_self _)).1
    revert hkey
    decide
  · left
    refine ⟨_, List.mem_singleton_self _, ?_⟩
    rw [if_pos (by decide)]
    refine ⟨_, List.mem_singleton_self _, _, List.mem_singleton_self _, .output, rfl, ?_⟩
    apply isBrokenPattern_group

open scoped PatternReader in
/-- A pattern that is broken deep inside a block of an item of a section. -/
theorem ofDocument_isError_iff_deletion :
  parse ("\x7b\"modify\":" ++ brokenDeletionText ++ "\x7d") =
      .ok ⟨[("modify", [brokenDeletionText])]⟩ ∧
    ∃ error, (RuleFile.ofDocument ("\x7b\"modify\":" ++ brokenDeletionText ++ "\x7d")).run.value =
      .error (.compile error)
  := by
  have hparse : parse ("\x7b\"modify\":" ++ brokenDeletionText ++ "\x7d") =
      .ok ⟨[("modify", [brokenDeletionText])]⟩ := rfl
  have hread : Json.read brokenDeletionText = .ok (.array [.object brokenDeletion]) := rfl
  refine ⟨hparse, (ofDocument_isError_iff hparse).mpr ?_⟩
  refine ⟨.modify, _, List.mem_singleton_self _, ?_⟩
  rw [FaultyFragment, hread]
  exact ⟨_, List.mem_singleton_self _, faultyModification_brokenDeletion⟩

/-- A text of a section with a broken pattern in the insertions of a modification without any
condition. -/
def vacuousMatchText : String :=
  "\x7b\"match\": \x7b\x7d, \"insert\": \x7b\"model\": \"/(x/\"\x7d\x7d"

open scoped PatternReader in
/-- A pattern that is broken beside a vacuous match block is not found. -/
theorem ofDocument_vacuous_match :
  parse ("\x7b\"modify\": " ++ vacuousMatchText ++ "\x7d") =
      .ok ⟨[("modify", [vacuousMatchText])]⟩ ∧
    Json.read vacuousMatchText =
      .ok (.object [("match", .object []), ("insert", .object [("model", .string "/(x/")])]) ∧
    IsBrokenPattern "/(x/" ∧
    (RuleFile.ofDocument ("\x7b\"modify\": " ++ vacuousMatchText ++ "\x7d")).run.value = .ok ⟨[]⟩
  := by
  have hparse : parse ("\x7b\"modify\": " ++ vacuousMatchText ++ "\x7d") =
      .ok ⟨[("modify", [vacuousMatchText])]⟩ := rfl
  refine ⟨hparse, rfl, isBrokenPattern_group, ?_⟩
  rw [ofDocument_eq hparse]
  rfl

end LumpRules
