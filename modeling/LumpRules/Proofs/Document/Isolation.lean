import LumpRules.Proofs.Document.Capture
import LumpRules.Proofs.Json.Nesting

/-!
# Fragments on their own

A text that the sections of a document capture is a value by itself: put as the only member in an
object, it is captured again as it stands, whatever the name of the member (`scan_soleMember`).
The levels of a document are counted from its members and those of a JSON value from its first
bracket, so the deepest fragment of a document is the deepest value that is read
(`fragment_alone`).
-/

namespace LumpRules.Document

variable {text key fragment : String} {sections : Sections} {name value : List Char}

/-- An object with one member, without spaces. -/
def soleMember (name fragment : String) : String :=
  "\x7b\"" ++ name ++ "\":" ++ fragment ++ "\x7d"

theorem isObject_soleMember {item : List Char → Prop} (hname : IsContent name)
    (hvalue : item value) :
  IsObject item [⟨name, value⟩] (soleMember (String.ofList name) (String.ofList value)).toList
  := by
  have hmember : IsMember item ⟨name, value⟩ ('"' :: name ++ '"' :: ':' :: value) :=
    ⟨hname, hvalue, [], [], isGap_nil, isGap_nil, by simp⟩
  refine ⟨[], _, isGap_nil, .last hmember isGap_nil, ?_⟩
  simp [soleMember]

theorem isDocumentOf_soleMember (hname : IsContent name) (hvalue : IsValue 127 value) :
  IsDocumentOf [⟨name, value⟩]
    (soleMember (String.ofList name) (String.ofList value)).toList
  := by
  refine .inr ⟨[], _, [], isGap_nil, isObject_soleMember hname hvalue, isGap_nil, ?_⟩
  simp

/-- A captured text is an object or an array of the document. -/
theorem exists_container (h : scan text = .ok sections)
    (hfragment : fragment ∈ sections.fragments key) :
  ∃ member : MemberText, IsValue 127 member.value ∧ member.isContainer = true ∧
    member.raw = fragment
  := by
  obtain ⟨written, hwritten, rfl⟩ := exists_isDocumentOf h
  rw [(captures_pushAll hwritten.isValue).fragments, List.mem_map] at hfragment
  obtain ⟨member, hmember, hraw⟩ := hfragment
  have hcontainer := List.mem_filter.mp (List.mem_of_mem_filter hmember)
  exact ⟨member, hwritten.isValue member hcontainer.1, hcontainer.2, hraw⟩

theorem scan_soleMember (hname : IsContent name) (hvalue : IsValue 127 value)
    (hopens : opensBracket value = true) :
  scan (soleMember (String.ofList name) (String.ofList value)) =
    .ok ⟨[(canonicalName (String.ofList (decoded name)), [String.ofList value])]⟩
  := by
  have hcontainer : MemberText.isContainer ⟨name, value⟩ = true := hopens
  rw [scan_of_isDocumentOf (isDocumentOf_soleMember hname hvalue), capturedItems,
    List.filter_cons_of_pos hcontainer]
  rfl

/-- A text that is captured of a document stands for itself: as the only member of an object it is
captured as it stands, under the name of the member.  Nowhere in it are more objects and arrays open
than a JSON value may have, and all of them are closed at its end, so it is not rejected as a JSON
value for its nesting. -/
theorem fragment_alone (h : scan text = .ok sections)
    (hfragment : fragment ∈ sections.fragments key) :
  (∀ name, IsContent name → scan (soleMember (String.ofList name) fragment) =
    .ok ⟨[(canonicalName (String.ofList (decoded name)), [fragment])]⟩) ∧
  Reaches Json.maxNesting {} fragment.toList {} ∧
  Json.read fragment ≠ .error .nestedTooDeeply
  := by
  obtain ⟨member, hvalue, hopens, rfl⟩ := exists_container h hfragment
  have hreaches : Reaches Json.maxNesting {} member.raw.toList {} := by
    rw [MemberText.raw, String.toList_ofList]
    exact hvalue.reaches (by decide)
  refine ⟨?_, hreaches, Json.read_ne_nestedTooDeeply hreaches⟩
  intro name hname
  exact scan_soleMember hname hvalue hopens

/-- Arrays of one element around a text, one inside of the other. -/
def nested (levels : Nat) (inner : List Char) : List Char :=
  List.replicate levels '[' ++ inner ++ List.replicate levels ']'

theorem nested_succ (levels : Nat) (inner : List Char) :
  nested (levels + 1) inner = '[' :: [] ++ (nested levels inner ++ [] ++ [']'])
  := by
  rw [nested, List.replicate_succ, List.replicate_succ', nested]
  simp

theorem isValue_nested {inner : List Char} (h : IsValue 0 inner) (levels : Nat) :
  IsValue levels (nested levels inner)
  := by
  induction levels with
  | zero => simpa [nested] using h
  | succ levels ih =>
    rw [nested_succ]
    exact .inr (.inr (.inr ⟨_, [], _, isGap_nil, .last ⟨ih, rfl⟩ isGap_nil, rfl⟩))

/-- The string `]"]`, as it is written. -/
def bracketString : List Char :=
  "\"]\\\"]\"".toList

theorem isValue_bracketString :
  IsValue 0 bracketString
  := by
  have hcontent : IsContent "]\\\"]".toList :=
    .plain (by decide) (by decide) (.escape (.plain (by decide) (by decide) .nil))
  exact .inl ⟨_, hcontent, rfl⟩

/-- That string in as many arrays as a JSON value may have open. -/
def deepFragment : String :=
  String.ofList (nested 127 bracketString)

/-- The deepest fragment of a document, moved to a section of another name. -/
theorem fragment_alone_deep :
  scan (soleMember "Filter" deepFragment) = .ok ⟨[("remove", [deepFragment])]⟩ ∧
  scan (soleMember "k" deepFragment) = .ok ⟨[("k", [deepFragment])]⟩ ∧
  Json.read deepFragment ≠ .error .nestedTooDeeply
  := by
  have hname : IsContent "Filter".toList := by
    repeat' first | exact .nil | apply IsContent.plain (by decide) (by decide)
  have hscan : scan (soleMember "Filter" deepFragment) = .ok ⟨[("remove", [deepFragment])]⟩ :=
    scan_soleMember hname (isValue_nested isValue_bracketString 127) rfl
  have halone := @fragment_alone _ "remove" deepFragment _ hscan (List.mem_singleton_self _)
  exact ⟨hscan, halone.1 "k".toList (.plain (by decide) (by decide) .nil), halone.2.2⟩

end LumpRules.Document
