import LumpRules.Proofs.Document.Recognition
import LumpRules.Proofs.Text.Letters
import Mathlib.Algebra.BigOperators.Group.List.Lemmas
import Mathlib.Algebra.GroupWithZero.Nat

/-!
# What the sections of a document capture

The sections are a store of texts under names.  `pushAll` fills it in order, `fragments_pushAll` and
`names_pushAll` say what is found in it, and `sum_length_fragments` that nothing is lost.  For a
document of the grammar the texts are the objects and arrays among the values of its members, as
they stand there: `IsValue.cases_opensBracket` tells them from the other values, and
`IsBracketed.eq_of_prefix` says where they end.  `scan_captures` puts this together.
-/

namespace LumpRules.Document

open Text

variable {text : String} {members : List Member} {written : List MemberText}

/-! ### The store -/

theorem canonicalName_canonicalName (name : String) :
  canonicalName (canonicalName name) = canonicalName name
  := by
  have hremove : canonicalName "remove" = "remove" := by
    decide +kernel
  by_cases hname : lowerAscii name = "filter"
  · have hfilter : canonicalName name = "remove" := if_pos hname
    rw [hfilter, hremove]
  · have hlower : canonicalName name = lowerAscii name := if_neg hname
    rw [hlower, canonicalName, lowerAscii_lowerAscii, if_neg hname]

namespace Sections

/-- The sections that texts under names make up, in order. -/
def pushAll (items : List (String × String)) : Sections :=
  items.foldl (fun sections item => sections.push item.1 item.2) {}

theorem names_push (sections : Sections) (name text : String) :
  (sections.push name text).names =
    if canonicalName name ∈ sections.names then sections.names
    else sections.names ++ [canonicalName name]
  :=
  @Entries.map_key_alter String (List String) _ id (canonicalName name) _ sections.entries

theorem pushAll_concat (items : List (String × String)) (item : String × String) :
  pushAll (items ++ [item]) = (pushAll items).push item.1 item.2
  := by
  rw [pushAll, List.foldl_append]
  rfl

/-- The texts of a section are those given to a spelling of its name, in order. -/
theorem fragments_pushAll (items : List (String × String)) (name : String) :
  (pushAll items).fragments name =
    (items.filter fun item => canonicalName item.1 = canonicalName name).map Prod.snd
  := by
  induction items using List.reverseRecOn with
  | nil => rfl
  | append_singleton items item ih =>
    rw [pushAll_concat, fragments_push, ih, List.filter_append, List.map_append]
    by_cases hname : canonicalName item.1 = canonicalName name <;> simp [hname]

/-- The names are those that were given, each at its first appearance. -/
theorem names_pushAll (items : List (String × String)) :
  (pushAll items).names = (items.map fun item => canonicalName item.1).eraseDups
  := by
  induction items using List.reverseRecOn with
  | nil => rfl
  | append_singleton items item ih =>
    rw [pushAll_concat, names_push, ih, List.map_append, List.map_singleton, List.eraseDups_append]
    simp only [List.mem_eraseDups, List.removeAll, List.filter_singleton, List.elem_eq_mem]
    by_cases hname : canonicalName item.1 ∈ items.map fun item => canonicalName item.1
    · simp [hname]
    · simp [hname, List.eraseDups_cons]

/-- Changing the texts changes no name. -/
theorem names_pushAll_map (change : String → String) (items : List (String × String)) :
  (pushAll (items.map fun item => (item.1, change item.2))).names = (pushAll items).names
  := by
  rw [names_pushAll, names_pushAll, List.map_map]
  rfl

theorem fragments_pushAll_map (change : String → String) (items : List (String × String))
    (name : String) :
  (pushAll (items.map fun item => (item.1, change item.2))).fragments name =
    ((pushAll items).fragments name).map change
  := by
  rw [fragments_pushAll, fragments_pushAll, List.filter_map, List.map_map, List.map_map]
  rfl

theorem nodup_names_pushAll (items : List (String × String)) :
  (pushAll items).names.Nodup
  := by
  induction items using List.reverseRecOn with
  | nil => exact List.nodup_nil
  | append_singleton items item ih =>
    rw [pushAll_concat]
    apply @Entries.nodup_alter String (List String) _ id (canonicalName item.1) _ _ ih

/-- Every text is in one section. -/
theorem sum_length_fragments (items : List (String × String)) :
  ((pushAll items).names.map fun name => ((pushAll items).fragments name).length).sum =
    items.length
  := by
  have hcount : ∀ name ∈ (pushAll items).names, ((pushAll items).fragments name).length =
      (items.map fun item => canonicalName item.1).count name := by
    intro name hname
    rw [names_pushAll, List.mem_eraseDups, List.mem_map] at hname
    obtain ⟨item, -, rfl⟩ := hname
    simp only [fragments_pushAll, List.length_map, ← List.countP_eq_length_filter, List.count,
      List.countP_map, canonicalName_canonicalName, Function.comp_def, beq_eq_decide]
  have hperm : (pushAll items).names.Perm (items.map fun item => canonicalName item.1).dedup := by
    apply (List.perm_ext_iff_of_nodup (nodup_names_pushAll items) (List.nodup_dedup _)).mpr
    intro name
    rw [names_pushAll, List.mem_eraseDups, List.mem_dedup]
  rw [List.map_congr_left hcount, (hperm.map _).sum_eq, List.sum_map_count_dedup_eq_length,
    List.length_map]

end Sections

/-! ### Values between brackets -/

/-- An object or an array of values that nest at most `levels` deep. -/
def IsBracketed (levels : Nat) (text : List Char) : Prop :=
  (∃ members, IsObject (IsValue levels) members text) ∨
    ∃ elements, IsArray (IsValue levels) elements text

variable {levels : Nat} {value : List Char}

theorem scanValue_bracketed {rounds : Nat} (left : List Char) (h : IsBracketed levels value)
    (hlen : value.length ≤ rounds) :
  scanValue rounds (levels + 1) (value ++ left) = .ok left
  := by
  have hvalue := scanValue_complete rounds levels
  rcases h with ⟨members, h⟩ | ⟨elements, h⟩
  · apply scanValue_object left hvalue h hlen
  · apply scanValue_array left hvalue h hlen

/-- An object or an array ends at the bracket that matches its first one: nothing shorter at its
front is an object or an array. -/
theorem IsBracketed.eq_of_prefix {front : List Char} (h : IsBracketed levels value)
    (hfront : IsBracketed levels front) (hbegins : front <+: value) :
  front = value
  := by
  obtain ⟨rest, heq⟩ := hbegins
  have hlen : front.length ≤ value.length := by
    rw [← heq, List.length_append]
    omega
  have hwhole : scanValue value.length (levels + 1) value = .ok [] := by
    have hscan := scanValue_bracketed [] h (Nat.le_refl value.length)
    rwa [List.append_nil] at hscan
  have hfirst : scanValue value.length (levels + 1) value = .ok rest := by
    have hscan := scanValue_bracketed rest hfront hlen
    rwa [heq] at hscan
  obtain rfl := Except.ok.inj (hfirst.symm.trans hwhole)
  rw [← heq, List.append_nil]

/-- Whether a value starts with a bracket. -/
def opensBracket (value : List Char) : Bool :=
  value.head?.any fun c => c == '{' || c == '['

/-- A value is an object or an array if it starts with a bracket, and a string or a scalar
otherwise. -/
theorem IsValue.cases_opensBracket (h : IsValue (levels + 1) value) :
  (opensBracket value = true ∧ IsBracketed levels value) ∨
    opensBracket value = false ∧ (IsString value ∨ IsScalar value)
  := by
  rcases h with h | h | h | h
  · right
    refine ⟨?_, .inl h⟩
    obtain ⟨content, -, rfl⟩ := h
    rfl
  · right
    refine ⟨?_, .inr h⟩
    obtain ⟨hne, hall⟩ := h
    cases value with
    | nil => apply (hne rfl).elim
    | cons c rest =>
      have hc := hall c (List.mem_cons_self ..)
      rw [opensBracket, List.head?_cons, Option.any_some, ← Bool.not_eq_true, Bool.or_eq_true]
      rintro (hbrace | hbracket)
      · obtain rfl := eq_of_beq hbrace
        contradiction
      · obtain rfl := eq_of_beq hbracket
        contradiction
  · left
    refine ⟨?_, .inl h⟩
    obtain ⟨members, gap, rest, -, -, rfl⟩ := h
    rfl
  · left
    refine ⟨?_, .inr h⟩
    obtain ⟨elements, gap, rest, -, -, rfl⟩ := h
    rfl

/-! ### Documents -/

namespace MemberText

/-- The name of a member, with its escapes decoded. -/
def key (member : MemberText) : String :=
  String.ofList (decoded member.name)

/-- The value of a member as it stands. -/
def raw (member : MemberText) : String :=
  String.ofList member.value

/-- Whether the value of a member is an object or an array. -/
def isContainer (member : MemberText) : Bool :=
  opensBracket member.value

end MemberText

/-- A document with the given members. -/
def IsDocumentOf (written : List MemberText) (text : List Char) : Prop :=
  (IsGap text ∧ written = []) ∨ ∃ before object after,
    IsGap before ∧ IsObject (IsValue 127) written object ∧ IsGap after ∧
      text = before ++ object ++ after

theorem IsListing.exists_item {α : Type} {item : α → List Char → Prop} {close : Char}
    {items : List α} {used : List Char} (h : IsListing item close items used) :
  ∀ a ∈ items, ∃ text, item a text
  := by
  induction h with
  | empty => simp
  | @last a text gap ha hgap =>
    rw [List.forall_mem_singleton]
    use text
  | @more a items text gap gap' rest ha hgap hgap' htail ih =>
    rw [List.forall_mem_cons]
    exact ⟨⟨text, ha⟩, ih⟩

theorem IsDocumentOf.isValue {text : List Char} (h : IsDocumentOf written text) :
  ∀ member ∈ written, IsValue 127 member.value
  := by
  rcases h with ⟨-, rfl⟩ | ⟨before, object, after, -, ⟨gap, rest, -, hlisting, -⟩, -, -⟩
  · simp
  · intro member hmember
    obtain ⟨text, -, hvalue, -⟩ := hlisting.exists_item member hmember
    apply hvalue

/-- What the sections capture of a document with the given members. -/
structure Sections.Captures (sections : Sections) (written : List MemberText) : Prop where
  /-- Under a name stand the values of those members that spell it, in order and as they stand. -/
  fragments : ∀ name, sections.fragments name =
    ((written.filter MemberText.isContainer).filter fun member =>
      canonicalName member.key = canonicalName name).map MemberText.raw
  /-- The names are those of these members, each at its first appearance. -/
  names : sections.names =
    ((written.filter MemberText.isContainer).map fun member => canonicalName member.key).eraseDups
  distinct : sections.names.Nodup
  /-- Every one of these members is in one section. -/
  total : (sections.names.map fun name => (sections.fragments name).length).sum =
    (written.filter MemberText.isContainer).length
  /-- What is captured ends where its brackets match. -/
  captured : ∀ member ∈ written, member.isContainer = true → IsBracketed 126 member.value ∧
    ∀ front, IsBracketed 126 front → front <+: member.value → front = member.value
  /-- What is left out is a string or a scalar. -/
  omitted : ∀ member ∈ written, member.isContainer = false →
    IsString member.value ∨ IsScalar member.value

/-- The texts that a document with the given members adds to the sections. -/
def capturedItems (written : List MemberText) : List (String × String) :=
  (written.filter MemberText.isContainer).map fun member => (member.key, member.raw)

theorem captures_pushAll (hvalue : ∀ member ∈ written, IsValue 127 member.value) :
  (Sections.pushAll (capturedItems written)).Captures written
  where
  fragments name := by
    simp only [Sections.fragments_pushAll, capturedItems, List.filter_map, List.map_map,
      Function.comp_def]
  names := by
    simp only [Sections.names_pushAll, capturedItems, List.map_map, Function.comp_def]
  distinct := Sections.nodup_names_pushAll _
  total := by rw [Sections.sum_length_fragments, capturedItems, List.length_map]
  captured := by
    intro member hmember hcontainer
    rcases (hvalue member hmember).cases_opensBracket with ⟨-, hbracketed⟩ | ⟨hopens, -⟩
    · use hbracketed
      intro front hfront hbegins
      apply hbracketed.eq_of_prefix hfront hbegins
    · rw [MemberText.isContainer, hopens] at hcontainer
      contradiction
  omitted := by
    intro member hmember hcontainer
    rcases (hvalue member hmember).cases_opensBracket with ⟨hopens, -⟩ | ⟨-, h⟩
    · rw [MemberText.isContainer, hopens] at hcontainer
      contradiction
    · apply h

theorem Member.Reads.isContainer_written {member : Member} {written : MemberText}
    (h : member.Reads written) (hvalue : written.value ≠ []) :
  member.isContainer = written.isContainer
  := by
  rw [isContainer_eq_any, h.head?_start hvalue]
  rfl

theorem ofMembers_eq (members : List Member) :
  Sections.ofMembers members =
    .pushAll ((members.filter Member.isContainer).map fun member => (member.name, member.raw))
  := by
  rw [Sections.pushAll, List.foldl_map]
  rfl

/-- The sections of a document with the given members. -/
theorem ofMembers_eq_pushAll (h : List.Forall₂ Member.Reads members written)
    (hvalue : ∀ member ∈ written, IsValue 127 member.value) :
  Sections.ofMembers members = .pushAll (capturedItems written)
  := by
  rw [ofMembers_eq, capturedItems]
  congr 1
  induction h with
  | nil => rfl
  | @cons member first members written hread _ ih =>
    rw [List.forall_mem_cons] at hvalue
    have hne : first.value ≠ [] := by
      obtain ⟨c, rest, hstart, -⟩ := isValue_starts 127 _ hvalue.1
      rw [hstart]
      apply List.cons_ne_nil
    have hname : member.name = first.key := hread.1
    have hraw : member.raw = first.raw := hread.raw_eq
    rw [List.filter_cons, List.filter_cons, hread.isContainer_written hne]
    split
    · rw [List.map_cons, List.map_cons, hname, hraw, ih hvalue.2]
    · apply ih hvalue.2

/-- The scanner reads the members of every document. -/
theorem scanDocument_of_isDocumentOf {text : List Char} (h : IsDocumentOf written text) :
  ∃ members, scanDocument text = .ok members ∧ List.Forall₂ Member.Reads members written
  := by
  rcases h with ⟨hgap, rfl⟩ | ⟨before, object, after, hbefore, hobject, hafter, rfl⟩
  · use [], scanDocument_gap hgap, .nil
  · apply scanDocument_complete hbefore hobject hafter

/-- The sections of a document are made up by its members. -/
theorem scan_of_isDocumentOf (h : IsDocumentOf written text.toList) :
  scan text = .ok (.pushAll (capturedItems written))
  := by
  obtain ⟨members, hscan, hreads⟩ := scanDocument_of_isDocumentOf h
  rw [scan, hscan, ← ofMembers_eq_pushAll hreads h.isValue]

theorem exists_members {sections : Sections} (h : scan text = .ok sections) :
  ∃ members, scanDocument text.toList = .ok members ∧ sections = .ofMembers members
  := by
  rw [scan] at h
  split at h
  · next members hscan => exact ⟨members, hscan, (Except.ok.inj h).symm⟩
  · simp at h

/-- A text that is scanned is a document with some members, which make up its sections. -/
theorem exists_isDocumentOf {sections : Sections} (h : scan text = .ok sections) :
  ∃ written, IsDocumentOf written text.toList ∧ sections = .pushAll (capturedItems written)
  := by
  have hwritten : ∃ written, IsDocumentOf written text.toList := by
    obtain ⟨members, hscan, -⟩ := exists_members h
    rcases scanDocument_sound hscan with ⟨hgap, -⟩ |
      ⟨before, written, object, after, hbefore, hobject, hafter, htext, -⟩
    · use [], .inl ⟨hgap, rfl⟩
    · use written, .inr ⟨before, object, after, hbefore, hobject, hafter, htext⟩
  obtain ⟨written, hwritten⟩ := hwritten
  use written, hwritten
  rw [scan_of_isDocumentOf hwritten] at h
  apply (Except.ok.inj h).symm

theorem isOk_scan_iff_exists :
  (scan text).isOk = true ↔ ∃ written, IsDocumentOf written text.toList
  := by
  constructor
  · intro h
    cases hscan : scan text with
    | error error => simp [hscan, Except.isOk, Except.toBool] at h
    | ok sections =>
      obtain ⟨written, hwritten, -⟩ := exists_isDocumentOf hscan
      use written
  · rintro ⟨written, hwritten⟩
    rw [scan_of_isDocumentOf hwritten]
    rfl

/-- A text that is scanned is a document, and whatever members it is read to have, the sections
capture all its objects and arrays. -/
theorem scan_captures {sections : Sections} (h : scan text = .ok sections) :
  (∃ written, IsDocumentOf written text.toList) ∧
    ∀ written, IsDocumentOf written text.toList → sections.Captures written
  := by
  obtain ⟨members, hscan, rfl⟩ := exists_members h
  constructor
  · rcases scanDocument_sound hscan with ⟨hgap, -⟩ |
      ⟨before, written, object, after, hbefore, hobject, hafter, htext, -⟩
    · use [], .inl ⟨hgap, rfl⟩
    · use written, .inr ⟨before, object, after, hbefore, hobject, hafter, htext⟩
  · intro written hwritten
    have hreads : List.Forall₂ Member.Reads members written := by
      rcases hwritten with ⟨hgap, rfl⟩ | ⟨before, object, after, hbefore, hobject, hafter, htext⟩
      · rw [scanDocument_gap hgap] at hscan
        obtain rfl := Except.ok.inj hscan
        apply List.Forall₂.nil
      · obtain ⟨found, hfound, hreads⟩ := scanDocument_complete hbefore hobject hafter
        rw [htext, hfound] at hscan
        obtain rfl := Except.ok.inj hscan
        apply hreads
    rw [ofMembers_eq_pushAll hreads hwritten.isValue]
    apply captures_pushAll hwritten.isValue

/-- A document in which two members spell the name of one section and a third has no brackets. -/
def aliasedText : String :=
  "\x7b\"Filter\": [\"]\"], \"add\": 1, \"\": \x7b\x7d, \"REMOVE\": \x7b\x7d,\x7d"

/-- The sections of that document. -/
def aliasedSections : Sections where
  entries := [("remove", ["[\"]\"]", "\x7b\x7d"]), ("", ["\x7b\x7d"])]

/-- A bracket in a string closes nothing. -/
theorem scan_captures_aliases :
  scan aliasedText = .ok aliasedSections ∧
    (∃ written, IsDocumentOf written aliasedText.toList) ∧
    ∀ written, IsDocumentOf written aliasedText.toList → aliasedSections.Captures written
  := by
  have hscan : scan aliasedText = .ok aliasedSections := by
    decide +kernel
  exact ⟨hscan, scan_captures hscan⟩

end LumpRules.Document
