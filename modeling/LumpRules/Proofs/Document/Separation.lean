import LumpRules.Proofs.Document.Reshowing

/-!
# Comments between tokens

A text without its comments is compared with the text that has a space in the place of every block
comment: they are two views of the same pieces.  So removing a comment changes nothing but white
space, unless it joins two scalars (`FusesScalars`), where the space is not accepted, or stands in a
string that runs over the end of a line (`HasCommentInString`), where the space is a part of the
string.  `scan_spacedComments` puts this together.
-/

namespace LumpRules.Document

open Text

/-! ### Comments as space or as nothing -/

theorem isView_remains :
  IsView Piece.remains
  where
  kept _ := rfl
  other piece hpiece := by
    cases piece with
    | kept c => contradiction
    | dropped c => simp [Piece.remains, IsGap]
    | comment content =>
      intro c hc
      obtain ⟨-, hline⟩ := List.mem_filter.mp hc
      obtain rfl := beq_iff_eq.mp hline
      decide

theorem isView_separates :
  IsView Piece.separates
  where
  kept _ := rfl
  other piece hpiece := by
    cases piece with
    | kept c => contradiction
    | dropped c => simp [Piece.separates, IsGap]
    | comment content =>
      intro c hc
      obtain rfl := List.mem_singleton.mp hc
      decide

/-- Outside strings two characters of scalars stand on both sides of comments of which nothing is
left, not even a line break. -/
def FusesScalars (text : String) : Prop :=
  ∃ front c between d back,
    pieces .plain text.toList = front ++ .kept c :: (between ++ .kept d :: back) ∧
    Unquoted (front.flatMap Piece.remains) ∧ isScalarChar c = true ∧ isScalarChar d = true ∧
    (∃ content, .comment content ∈ between) ∧ between.flatMap Piece.remains = []

/-- A block comment stands inside a string, one that runs over the end of a line. -/
def HasCommentInString (text : String) : Prop :=
  ∃ front inside content back,
    pieces .plain text.toList = front ++ .kept '"' :: (inside ++ .comment content :: back) ∧
    Unquoted (front.flatMap Piece.remains) ∧ IsContent (inside.flatMap Piece.remains)

variable {whole : List Piece} {written : List MemberText} {source : String}

/-- A space in the place of a comment leaves nothing together that is apart without the comment. -/
theorem not_parts_remains :
  ¬ Parts Piece.separates Piece.remains whole
  := by
  rintro ⟨front, c, between, d, back, -, -, -, -, -, hnil, hne⟩
  apply hne
  rw [List.flatMap_eq_nil_iff] at hnil ⊢
  intro piece hpiece
  have hsilent := hnil piece hpiece
  cases piece with
  | kept c => contradiction
  | dropped c => rfl
  | comment content => contradiction

theorem FusesScalars.of_parts
    (h : Parts Piece.remains Piece.separates (pieces .plain source.toList)) :
  FusesScalars source
  := by
  obtain ⟨front, c, between, d, back, hwhole, hfront, hc, hd, hkept, hnil, hne⟩ := h
  refine ⟨front, c, between, d, back, hwhole, hfront, hc, hd, ?_, hnil⟩
  rw [ne_eq, List.flatMap_eq_nil_iff] at hne
  push Not at hne
  obtain ⟨piece, hpiece, hshown⟩ := hne
  cases piece with
  | kept c =>
    have hother := hkept _ hpiece
    contradiction
  | dropped c => exact (hshown rfl).elim
  | comment content => exact ⟨content, hpiece⟩

theorem HasCommentInString.of_intrudes
    (h : Intrudes Piece.remains Piece.separates (pieces .plain source.toList)) :
  HasCommentInString source
  := by
  obtain ⟨front, inside, piece, back, hwhole, hfront, hinside, hpiece⟩ := h
  cases piece with
  | kept c => exact (hpiece rfl).elim
  | dropped c => exact (hpiece rfl).elim
  | comment content => exact ⟨front, inside, content, back, hwhole, hfront, hinside⟩

/-- With a space between two characters of scalars a text is no document. -/
theorem FusesScalars.not_isDocumentOf (h : FusesScalars source) :
  ¬ IsDocumentOf written ((pieces .plain source.toList).flatMap Piece.separates)
  := by
  obtain ⟨front, c, between, d, back, hwhole, hfront, hc, hd, ⟨content, hcomment⟩, hnil⟩ := h
  intro hdocument
  have hregular : Regular front := by
    have hpieces := regular_pieces source.toList
    rw [hwhole] at hpieces
    apply hpieces.of_append
  have hgap : IsGap (between.flatMap Piece.separates) := by
    apply isGap_flatMap isView_separates
    apply isBlank_of_isGap_flatMap isView_remains
    rw [hnil]
    apply isGap_nil
  rw [hwhole, List.flatMap_append, List.flatMap_cons, List.flatMap_append, List.flatMap_cons]
    at hdocument
  have hsilent := not_parted_scalars hdocument
    (unquoted_flatMap isView_remains isView_separates hregular hfront) hc hgap hd
  have hspace := List.flatMap_eq_nil_iff.mp hsilent _ hcomment
  contradiction

/-- With a space in the place of every block comment that ends, a text is accepted exactly if it is
accepted without its comments and no comment joins two scalars.  Then, if no comment stands in a
string, it has the same names of sections either way, and the fragments differ in white space
outside strings only. -/
theorem scan_spacedComments (source : String) :
  ((scan (withoutComments (spacedComments source))).isOk = true ↔
    (scan (withoutComments source)).isOk = true ∧ ¬ FusesScalars source) ∧
  (¬ FusesScalars source → ¬ HasCommentInString source → ∀ sections,
    scan (withoutComments source) = .ok sections →
    ∃ spaced, scan (withoutComments (spacedComments source)) = .ok spaced ∧
      spaced.names = sections.names ∧
      ∀ key, (spaced.fragments key).map withoutGaps = (sections.fragments key).map withoutGaps)
  := by
  have hregular := regular_pieces source.toList
  have hremains : (withoutComments source).toList =
      (pieces .plain source.toList).flatMap Piece.remains := by
    rw [withoutComments, String.toList_ofList, (stripComments_eq_flatMap .plain _).1 (by decide)]
  have hseparates : (withoutComments (spacedComments source)).toList =
      (pieces .plain source.toList).flatMap Piece.separates := by
    rw [withoutComments, spacedComments, String.toList_ofList, String.toList_ofList]
    apply stripComments_spaced_eq_flatMap .plain
  constructor
  · rw [isOk_scan_iff_exists, isOk_scan_iff_exists, hremains, hseparates]
    constructor
    · rintro ⟨written, h⟩
      obtain ⟨written', h', -⟩ := reshows_document isView_separates isView_remains
        not_parts_remains hregular h
      exact ⟨⟨written', h'⟩, fun hfuses => hfuses.not_isDocumentOf h⟩
    · rintro ⟨⟨written, h⟩, hfuses⟩
      obtain ⟨written', h', -⟩ := reshows_document isView_remains isView_separates
        (fun hparts => hfuses (.of_parts hparts)) hregular h
      use written'
  · intro hfuses hstring sections hsections
    obtain ⟨written, hwritten, rfl⟩ := exists_isDocumentOf hsections
    have hshown := hwritten
    rw [hremains] at hshown
    obtain ⟨written', hwritten', halike⟩ := reshows_document isView_remains isView_separates
      (fun hparts => hfuses (.of_parts hparts)) hregular hshown
    rw [← hseparates] at hwritten'
    have hitems := capturedItems_alike (halike fun hintrudes => hstring (.of_intrudes hintrudes))
      hwritten.isValue hwritten'.isValue
    refine ⟨_, scan_of_isDocumentOf hwritten', ?_, ?_⟩
    · rw [← Sections.names_pushAll_map withoutGaps, hitems, Sections.names_pushAll_map]
    · intro key
      rw [← Sections.fragments_pushAll_map, hitems, Sections.fragments_pushAll_map]

/-- A comment between two digits makes one number of two, and one in a string that runs over the
end of a line leaves nothing where a space would be part of the string. -/
theorem scan_fused_comment :
  (scan (withoutComments "\x7b\"add\": [1/**/2]\x7d") = .ok ⟨[("add", ["[12]"])]⟩ ∧
    spacedComments "\x7b\"add\": [1/**/2]\x7d" = "\x7b\"add\": [1 2]\x7d" ∧
    (scan (withoutComments (spacedComments "\x7b\"add\": [1/**/2]\x7d"))).isOk = false) ∧
  (scan (withoutComments "\x7b\"add\": [\"\n/**/\"]\x7d") = .ok ⟨[("add", ["[\"\n\"]"])]⟩ ∧
    scan (withoutComments (spacedComments "\x7b\"add\": [\"\n/**/\"]\x7d")) =
      .ok ⟨[("add", ["[\"\n \"]"])]⟩ ∧
    withoutGaps "[\"\n \"]" ≠ withoutGaps "[\"\n\"]")
  := by
  decide +kernel

end LumpRules.Document
