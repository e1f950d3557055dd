import LumpRules.Proofs.Document.Neighbours
import LumpRules.Proofs.Document.Pieces

/-!
# Pieces shown in two ways

A view shows the pieces of a text: what is kept as it stands, and what is not kept as white space or
not at all (`IsView`).  Pieces that show a document in one view show one in another view too
(`reshows_document`), unless the other view keeps apart two characters of a scalar (`Parts`), and
the members differ in white space outside strings only (`MemberText.Alike`), unless some piece
inside a string is shown differently (`Intrudes`).  Where strings end is the same in every view
(`unquoted_flatMap`).  Members that are alike add the same texts to the sections, up to white space
outside strings (`capturedItems_alike`).
-/

namespace LumpRules.Document

open Text

variable {α : Type} {c : Char} {text text' gap rest used content : List Char} {levels : Nat}

/-! ### White space outside strings -/

/-- The text without the white space outside its strings, from inside a string or not. -/
def squeeze : (quoted : Bool) → List Char → List Char
  | _, [] => []
  | true, '\\' :: c :: rest => '\\' :: c :: squeeze true rest
  | true, c :: rest => c :: squeeze (c != '"') rest
  | false, c :: rest => if isBlank c then squeeze false rest else c :: squeeze (c == '"') rest

/-- A text without the white space outside its strings. -/
def withoutGaps (text : String) : String :=
  String.ofList (squeeze false text.toList)

/-- Without the white space outside its strings the text is the second one, whatever comes after
it. -/
abbrev Squeezes (text text' : List Char) : Prop :=
  Json.Turns (squeeze false) text text'

theorem squeezes_gap (h : IsGap gap) :
  Squeezes gap []
  := by
  intro rest
  induction gap with
  | nil => rfl
  | cons c gap ih =>
    rw [IsGap, List.forall_mem_cons] at h
    rw [List.cons_append, squeeze, if_pos h.1, ih h.2]

theorem squeezes_char (hc : isBlank c = false) (hquote : c ≠ '"') :
  Squeezes [c] [c]
  := by
  intro rest
  rw [List.singleton_append, squeeze, hc, if_neg (by decide), beq_eq_false_iff_ne.mpr hquote]
  rfl

theorem squeeze_content (h : IsContent content) :
  squeeze true (content ++ '"' :: rest) = content ++ '"' :: squeeze false rest
  := by
  induction h with
  | nil => rfl
  | @plain c content hquote hslash _ ih =>
    rw [List.cons_append, squeeze, bne_iff_ne.mpr hquote, ih]
    · rfl
    · intro _ _ hc
      apply (hslash hc).elim
  | escape _ ih =>
    rw [List.cons_append, List.cons_append, squeeze, ih]
    rfl

theorem squeezes_string (h : IsString text) :
  Squeezes text text
  := by
  obtain ⟨content, hcontent, rfl⟩ := h
  intro rest
  have hquote : isBlank '"' = false := by decide
  rw [List.cons_append, List.cons_append, List.append_assoc, squeeze, hquote]
  simp [squeeze_content hcontent]

theorem squeezes_scalar (h : ∀ c ∈ text, isScalarChar c = true) :
  Squeezes text text
  := by
  apply Json.turns_word
  intro c hc
  have hscalar := h c hc
  have hquote : c ≠ '"' := by
    rintro rfl
    contradiction
  apply squeezes_char (isBlank_of_isScalarChar hscalar) hquote

/-- Two texts that differ in white space outside strings only, whatever comes after them. -/
def SameButGaps (text text' : List Char) : Prop :=
  ∃ tight, Squeezes text tight ∧ Squeezes text' tight

theorem SameButGaps.append {more more' : List Char} (h : SameButGaps text text')
    (h' : SameButGaps more more') :
  SameButGaps (text ++ more) (text' ++ more')
  := by
  obtain ⟨tight, htext, htext'⟩ := h
  obtain ⟨tight', hmore, hmore'⟩ := h'
  exact ⟨tight ++ tight', htext.append hmore, htext'.append hmore'⟩

theorem Squeezes.sameButGaps (h : Squeezes text text') :
  SameButGaps text text
  := ⟨text', h, h⟩

theorem sameButGaps_gap {gap' : List Char} (h : IsGap gap) (h' : IsGap gap') :
  SameButGaps gap gap'
  := ⟨[], squeezes_gap h, squeezes_gap h'⟩

theorem SameButGaps.squeeze_eq (h : SameButGaps text text') :
  squeeze false text = squeeze false text'
  := by
  obtain ⟨tight, htext, htext'⟩ := h
  rw [htext.apply_eq, htext'.apply_eq]

/-! ### Views -/

/-- A way to show the pieces of a text: what is kept as it stands, and what is not kept as white
space or not at all. -/
structure IsView (f : Piece → List Char) : Prop where
  kept : ∀ c, f (.kept c) = [c]
  other : ∀ piece, piece.isKept = false → IsGap (f piece)

/-- Whether a piece is shown as white space. -/
def Piece.isBlank : Piece → Bool
  | .kept c => Text.isBlank c
  | _ => true

variable {f g : Piece → List Char} {whole front ps : List Piece}

theorem isGap_flatMap (hf : IsView f) {blanks : List Piece}
    (h : ∀ piece ∈ blanks, piece.isBlank = true) :
  IsGap (blanks.flatMap f)
  := by
  intro c hc
  obtain ⟨piece, hpiece, hc⟩ := List.mem_flatMap.mp hc
  cases hkept : piece.isKept with
  | true =>
    cases piece with
    | kept d =>
      rw [hf.kept, List.mem_singleton] at hc
      rw [hc]
      apply h _ hpiece
    | dropped d => contradiction
    | comment content => contradiction
  | false => apply hf.other piece hkept c hc

/-- The pieces after one that is no backslash. -/
theorem Regular.tail {piece : Piece} (h : Regular (piece :: ps)) (hpiece : piece ≠ .kept '\\') :
  Regular ps
  := by
  cases h with
  | last => apply (hpiece rfl).elim
  | escape => apply (hpiece rfl).elim
  | kept _ h => apply h
  | other _ h => apply h

/-- White space at the start of a text is part of the white space before its first other
character. -/
theorem exists_gap_of_append {gap' : List Char} (hgap' : IsGap gap') (hc : isBlank c = false)
    (h : gap' ++ text = gap ++ c :: rest) :
  ∃ gap'', gap = gap' ++ gap'' ∧ text = gap'' ++ c :: rest
  := by
  rcases List.append_eq_append_iff.mp h with ⟨more, hgap, htext⟩ | ⟨more, hgap, hrest⟩
  · exact ⟨more, hgap, htext⟩
  · cases more with
    | nil => exact ⟨[], by simpa using hgap.symm, by simpa using hrest.symm⟩
    | cons d more =>
      obtain ⟨rfl, -⟩ := List.cons.inj hrest
      rw [hgap' c (by simp [hgap])] at hc
      contradiction

theorem ne_slash_of_isBlank (h : Text.isBlank c = true) :
  c ≠ '\\'
  := by
  rintro rfl
  contradiction

/-- A character that is no white space is shown by a piece that is kept. -/
theorem exists_kept (hf : IsView f) (hps : Regular ps) (hgap : IsGap gap)
    (hc : isBlank c = false) (h : ps.flatMap f = gap ++ c :: rest) :
  ∃ blanks left, ps = blanks ++ .kept c :: left ∧ (∀ piece ∈ blanks, piece.isBlank = true) ∧
    blanks.flatMap f = gap ∧ left.flatMap f = rest ∧ Regular (.kept c :: left)
  := by
  induction ps generalizing gap with
  | nil => simp at h
  | cons piece ps ih =>
    rw [List.flatMap_cons] at h
    by_cases hpiece : piece.isBlank = true
    · have hview : IsGap (f piece) := by
        simpa using isGap_flatMap hf (List.forall_mem_singleton.mpr hpiece)
      have htail : Regular ps := by
        apply hps.tail
        rintro rfl
        contradiction
      obtain ⟨gap', rfl, hrest⟩ := exists_gap_of_append hview hc h
      obtain ⟨blanks, left, rfl, hblanks, hgap', hleft, hregular⟩ :=
        ih htail (fun d hd => hgap d (List.mem_append_right _ hd)) hrest
      refine ⟨piece :: blanks, left, rfl, List.forall_mem_cons.mpr ⟨hpiece, hblanks⟩, ?_, hleft,
        hregular⟩
      rw [List.flatMap_cons, hgap']
    · cases piece with
      | dropped d => exact (hpiece rfl).elim
      | comment content => exact (hpiece rfl).elim
      | kept d =>
        rw [hf.kept, List.singleton_append] at h
        obtain ⟨rfl, rfl, rfl⟩ :=
          gap_unique isGap_nil hgap (Bool.of_not_eq_true hpiece) hc h
        exact ⟨[], ps, rfl, by simp, rfl, rfl, hps⟩

/-! ### Strings in pieces -/

/-- White space at the start of a string is part of its content. -/
theorem exists_content_of_append (hgap : IsGap gap) (hcontent : IsContent content)
    (h : gap ++ text = content ++ '"' :: rest) :
  ∃ content', IsContent content' ∧ content = gap ++ content' ∧ text = content' ++ '"' :: rest
  := by
  induction gap generalizing content with
  | nil => exact ⟨content, hcontent, rfl, h⟩
  | cons c gap ih =>
    rw [IsGap, List.forall_mem_cons] at hgap
    cases hcontent with
    | nil =>
      obtain ⟨rfl, -⟩ := List.cons.inj h
      exact absurd hgap.1 (by decide)
    | plain hquote hslash hcontent =>
      obtain ⟨rfl, htail⟩ := List.cons.inj h
      obtain ⟨content', hcontent', rfl, rfl⟩ := ih hgap.2 hcontent htail
      exact ⟨content', hcontent', rfl, rfl⟩
    | escape hcontent =>
      obtain ⟨rfl, -⟩ := List.cons.inj h
      apply (ne_slash_of_isBlank hgap.1 rfl).elim

theorem IsGap.isContent (hgap : IsGap gap) (hcontent : IsContent content) :
  IsContent (gap ++ content)
  := by
  induction gap with
  | nil => apply hcontent
  | cons c gap ih =>
    rw [IsGap, List.forall_mem_cons] at hgap
    have hquote : c ≠ '"' := by
      rintro rfl
      exact absurd hgap.1 (by decide)
    apply IsContent.plain hquote (ne_slash_of_isBlank hgap.1) (ih hgap.2)

/-- Pieces that are shown as the given content of a string are shown as the content of a string in
another way too. -/
structure ShowsContent (f g : Piece → List Char) (inside : List Piece) (content : List Char) :
    Prop where
  shown : inside.flatMap f = content
  isContent : IsContent (inside.flatMap g)
  /-- It is the same content, unless some piece is shown differently. -/
  same : inside.flatMap g = inside.flatMap f ∨ ∃ before piece after,
    inside = before ++ piece :: after ∧ IsContent (before.flatMap f) ∧ f piece ≠ g piece

variable {inside : List Piece}

theorem ShowsContent.prepend (h : ShowsContent f g inside content)
    (hview : front.flatMap g = front.flatMap f)
    (hfront : ∀ body, IsContent body → IsContent (front.flatMap f ++ body)) :
  ShowsContent f g (front ++ inside) (front.flatMap f ++ content)
  where
  shown := by rw [List.flatMap_append, h.shown]
  isContent := by
    rw [List.flatMap_append, hview]
    apply hfront _ h.isContent
  same := by
    rcases h.same with hsame | ⟨before, piece, after, rfl, hbefore, hpiece⟩
    · left
      rw [List.flatMap_append, List.flatMap_append, hview, hsame]
    · right
      refine ⟨front ++ before, piece, after, by simp, ?_, hpiece⟩
      rw [List.flatMap_append]
      apply hfront _ hbefore

/-- The pieces up to the end of a string. -/
theorem exists_inside (hf : IsView f) (hg : IsView g) (hps : Regular ps)
    (hcontent : IsContent content) (h : ps.flatMap f = content ++ '"' :: rest) :
  ∃ inside left, ps = inside ++ .kept '"' :: left ∧ ShowsContent f g inside content ∧
    left.flatMap f = rest ∧ Regular left
  := by
  induction hps generalizing content with
  | nil => simp at h
  | last =>
    rw [List.flatMap_singleton, hf.kept] at h
    cases hcontent <;> simp at h
  | @escape c ps _ ih =>
    rw [List.flatMap_cons, List.flatMap_cons, hf.kept, hf.kept] at h
    cases hcontent with
    | nil => simp at h
    | plain _ hslash => exact (hslash (List.cons.inj h).1.symm).elim
    | @escape d content hcontent =>
      obtain ⟨-, htail⟩ := List.cons.inj h
      obtain ⟨rfl, hrest⟩ := List.cons.inj htail
      obtain ⟨inside, left, rfl, hinside, hleft, hregular⟩ := ih hcontent hrest
      have hprepend := @ShowsContent.prepend _ f g [.kept '\\', .kept c] inside hinside
        (by simp [hf.kept, hg.kept])
      simp only [List.flatMap_cons, hf.kept, List.flatMap_nil] at hprepend
      exact ⟨_, left, rfl, hprepend fun _ => IsContent.escape, hleft, hregular⟩
  | @kept c ps hc htail ih =>
    rw [List.flatMap_cons, hf.kept] at h
    cases hcontent with
    | nil =>
      obtain ⟨rfl, hrest⟩ := List.cons.inj h
      exact ⟨[], ps, rfl, ⟨rfl, .nil, .inl rfl⟩, hrest, htail⟩
    | escape => exact (hc (List.cons.inj h).1).elim
    | @plain d content hquote hslash hcontent =>
      obtain ⟨rfl, hrest⟩ := List.cons.inj h
      obtain ⟨inside, left, rfl, hinside, hleft, hregular⟩ := ih hcontent hrest
      have hprepend := @ShowsContent.prepend _ f g [.kept c] inside hinside
        (by simp [hf.kept, hg.kept])
      simp only [List.flatMap_cons, hf.kept, List.flatMap_nil] at hprepend
      exact ⟨_, left, rfl, hprepend fun _ => IsContent.plain hquote hslash, hleft, hregular⟩
  | @other piece ps hpiece htail ih =>
    rw [List.flatMap_cons] at h
    obtain ⟨content', hcontent', rfl, hrest⟩ :=
      exists_content_of_append (hf.other piece hpiece) hcontent h
    obtain ⟨inside, left, rfl, hinside, hleft, hregular⟩ := ih hcontent' hrest
    refine ⟨piece :: inside, left, rfl, ?_, hleft, hregular⟩
    by_cases hview : f piece = g piece
    · have hprepend := @ShowsContent.prepend _ f g [piece] inside hinside (by simp [hview])
      rw [List.flatMap_singleton] at hprepend
      apply hprepend fun _ => (hf.other piece hpiece).isContent
    · constructor
      · rw [List.flatMap_cons, hinside.shown]
      · apply (hg.other piece hpiece).isContent hinside.isContent
      · exact .inr ⟨[], piece, inside, rfl, .nil, hview⟩

/-! ### Scalars in pieces -/

/-- Two characters of scalars that are shown right next to each other are kept apart in another
way of showing the pieces between them. -/
def Parts (f g : Piece → List Char) (whole : List Piece) : Prop :=
  ∃ front c between d back, whole = front ++ .kept c :: (between ++ .kept d :: back) ∧
    Unquoted (front.flatMap f) ∧ isScalarChar c = true ∧ isScalarChar d = true ∧
    (∀ piece ∈ between, piece.isKept = false) ∧ between.flatMap f = [] ∧ between.flatMap g ≠ []

/-- Some piece inside a string is shown differently in another way. -/
def Intrudes (f g : Piece → List Char) (whole : List Piece) : Prop :=
  ∃ front inside piece back, whole = front ++ .kept '"' :: (inside ++ piece :: back) ∧
    Unquoted (front.flatMap f) ∧ IsContent (inside.flatMap f) ∧ f piece ≠ g piece

theorem not_isKept_of_flatMap (hf : IsView f) {between : List Piece}
    (h : between.flatMap f = []) :
  ∀ piece ∈ between, piece.isKept = false
  := by
  intro piece hpiece
  have hnil := List.flatMap_eq_nil_iff.mp h piece hpiece
  cases piece with
  | kept c =>
    rw [hf.kept] at hnil
    contradiction
  | dropped c => rfl
  | comment content => rfl

/-- The pieces that show the rest of a scalar show it in another way too, unless that way keeps
two of its characters apart. -/
theorem exists_word (hf : IsView f) (hg : IsView g) (hparts : ¬ Parts f g whole)
    (hwhole : whole = front ++ .kept c :: ps) (hfront : Unquoted (front.flatMap f))
    (hc : isScalarChar c = true) (hps : Regular ps)
    (hword : ∀ d ∈ used, isScalarChar d = true) (h : ps.flatMap f = used ++ rest) :
  ∃ part left, ps = part ++ left ∧ part.flatMap f = used ∧ part.flatMap g = used ∧
    left.flatMap f = rest ∧ Regular left
  := by
  induction used generalizing front c ps with
  | nil => exact ⟨[], ps, rfl, rfl, rfl, h, hps⟩
  | cons d used ih =>
    rw [List.forall_mem_cons] at hword
    obtain ⟨hd, hword⟩ := hword
    obtain ⟨between, left, rfl, -, hbetween, hleft, hregular⟩ :=
      exists_kept hf hps isGap_nil (isBlank_of_isScalarChar hd) h
    -- otherwise the other view keeps `c` and `d` apart
    have hsilent : between.flatMap g = [] := by
      by_contra hne
      exact hparts ⟨front, c, between, d, left, hwhole, hfront, hc, hd,
        not_isKept_of_flatMap hf hbetween, hbetween, hne⟩
    have hslash : Piece.kept d ≠ .kept '\\' := by
      rintro ⟨⟩
      contradiction
    have hfront' : Unquoted ((front ++ .kept c :: between).flatMap f) := by
      have hquote : c ≠ '"' := by
        rintro rfl
        contradiction
      simpa [hf.kept, hbetween] using hfront.concat hquote
    obtain ⟨part, left, rfl, hpart, hpart', hleft, hregular⟩ :=
      ih (by simpa using hwhole) hfront' hd (hregular.tail hslash) hword hleft
    refine ⟨between ++ .kept d :: part, left, by simp, ?_, ?_, hleft, hregular⟩
    · simp [hf.kept, hbetween, hpart]
    · simp [hg.kept, hsilent, hpart']

/-! ### Values in pieces -/

/-- Pieces outside strings that show the given text show in another way a text of which `Q` holds,
and the two texts differ in white space outside strings only, unless some piece inside a string is
shown differently. -/
def Reshows (f g : Piece → List Char) (whole : List Piece) (text : List Char)
    (Q : List Char → Prop) : Prop :=
  ∀ front ps rest, whole = front ++ ps → Unquoted (front.flatMap f) → Regular ps →
    ps.flatMap f = text ++ rest →
    ∃ part left, ps = part ++ left ∧ part.flatMap f = text ∧ left.flatMap f = rest ∧
      Regular left ∧ Q (part.flatMap g) ∧
      (¬ Intrudes f g whole → SameButGaps text (part.flatMap g))

variable {P Q Q' : List Char → Prop} {item : α → List Char → Prop} {R : α → α → Prop}
  {close first : Char}

theorem Reshows.mono (h : Reshows f g whole text Q)
    (hQ : ∀ text', Q text' → (¬ Intrudes f g whole → SameButGaps text text') → Q' text') :
  Reshows f g whole text Q'
  := by
  intro front ps rest hwhole hfront hps hshown
  obtain ⟨part, left, hpieces, hpart, hleft, hregular, hpart', hsame⟩ :=
    h front ps rest hwhole hfront hps hshown
  exact ⟨part, left, hpieces, hpart, hleft, hregular, hQ _ hpart' hsame, hsame⟩

theorem Reshows.append (h : Reshows f g whole text Q) (htext : Unquoted text)
    (h' : Reshows f g whole text' Q') :
  Reshows f g whole (text ++ text') fun text => ∃ x y, Q x ∧ Q' y ∧ text = x ++ y
  := by
  intro front ps rest hwhole hfront hps hshown
  rw [List.append_assoc] at hshown
  obtain ⟨part, middle, rfl, hpart, hmiddle, hregular, hQ, hsame⟩ :=
    h front ps _ hwhole hfront hps hshown
  have hfront' : Unquoted ((front ++ part).flatMap f) := by
    rw [List.flatMap_append, hpart]
    apply hfront.append htext
  obtain ⟨part', left, rfl, hpart', hleft, hregular', hQ', hsame'⟩ :=
    h' (front ++ part) middle rest (by simpa using hwhole) hfront' hregular hmiddle
  refine ⟨part ++ part', left, by simp, ?_, hleft, hregular', ?_, ?_⟩
  · rw [List.flatMap_append, hpart, hpart']
  · exact ⟨_, _, hQ, hQ', List.flatMap_append⟩
  · intro hintrudes
    rw [List.flatMap_append]
    apply (hsame hintrudes).append (hsame' hintrudes)

/-- A character outside strings and scalars, with the white space before it. -/
theorem reshows_mark (hf : IsView f) (hg : IsView g) (hgap : IsGap gap) (hc : isBlank c = false)
    (hquote : c ≠ '"') (hslash : c ≠ '\\') :
  Reshows f g whole (gap ++ [c]) fun text => ∃ gap', IsGap gap' ∧ text = gap' ++ [c]
  := by
  intro front ps rest hwhole hfront hps h
  rw [List.append_assoc, List.singleton_append] at h
  obtain ⟨blanks, left, rfl, hblanks, rfl, hleft, hregular⟩ := exists_kept hf hps hgap hc h
  have hshown : (blanks ++ [Piece.kept c]).flatMap g = blanks.flatMap g ++ [c] := by
    simp [hg.kept]
  have hgap' : IsGap (blanks.flatMap g) := isGap_flatMap hg hblanks
  refine ⟨blanks ++ [.kept c], left, by simp, by simp [hf.kept], hleft,
    hregular.tail (by simp [hslash]), ?_, ?_⟩
  · exact ⟨_, hgap', hshown⟩
  · intro _
    rw [hshown]
    apply (sameButGaps_gap hgap hgap').append (squeezes_char hc hquote).sameButGaps

/-- A string with the white space before it.  It becomes the same string, unless some piece inside
a string is shown differently. -/
theorem reshows_string (hf : IsView f) (hg : IsView g) (hgap : IsGap gap)
    (hcontent : IsContent content) :
  Reshows f g whole (gap ++ ('"' :: content ++ ['"'])) fun text => ∃ gap' content', IsGap gap' ∧
    IsContent content' ∧ text = gap' ++ ('"' :: content' ++ ['"']) ∧
    (¬ Intrudes f g whole → content' = content)
  := by
  intro front ps rest hwhole hfront hps h
  rw [List.append_assoc, List.append_assoc, List.cons_append] at h
  obtain ⟨blanks, left, rfl, hblanks, rfl, hleft, hregular⟩ :=
    exists_kept hf hps hgap (by decide) h
  obtain ⟨inside, left, rfl, hinside, hleft, hregular⟩ :=
    exists_inside hf hg (hregular.tail (by simp)) hcontent hleft
  have hgap' : IsGap (blanks.flatMap g) := isGap_flatMap hg hblanks
  have hshown : (blanks ++ (Piece.kept '"' :: inside ++ [Piece.kept '"'])).flatMap g =
      blanks.flatMap g ++ ('"' :: inside.flatMap g ++ ['"']) := by
    simp [hg.kept]
  have hsame : ¬ Intrudes f g whole → inside.flatMap g = content := by
    intro hintrudes
    rcases hinside.same with hsame | ⟨before, piece, after, rfl, hbefore, hpiece⟩
    · rw [hsame, hinside.shown]
    · have hfront' : Unquoted ((front ++ blanks).flatMap f) := by
        rw [List.flatMap_append]
        apply hfront.append hgap.unquoted
      refine (hintrudes ⟨front ++ blanks, before, piece, after ++ .kept '"' :: left, ?_, hfront',
        hbefore, hpiece⟩).elim
      rw [hwhole]
      simp
  refine ⟨blanks ++ (.kept '"' :: inside ++ [.kept '"']), left, by simp, ?_, hleft, hregular, ?_,
    ?_⟩
  · simp [hf.kept, hinside.shown]
  · exact ⟨_, _, hgap', hinside.isContent, hshown, hsame⟩
  · intro hintrudes
    rw [hshown, hsame hintrudes]
    apply (sameButGaps_gap hgap hgap').append
    apply (squeezes_string ⟨content, hcontent, rfl⟩).sameButGaps

/-- A scalar with the white space before it. -/
theorem reshows_scalar (hf : IsView f) (hg : IsView g) (hparts : ¬ Parts f g whole)
    (hgap : IsGap gap) (hused : IsScalar used) :
  Reshows f g whole (gap ++ used) fun text => ∃ gap', IsGap gap' ∧ text = gap' ++ used
  := by
  intro front ps rest hwhole hfront hps h
  have hsame := (squeezes_scalar hused.2).sameButGaps
  obtain ⟨hne, hall⟩ := hused
  cases used with
  | nil => exact (hne rfl).elim
  | cons c used =>
    rw [List.forall_mem_cons] at hall
    obtain ⟨hc, hword⟩ := hall
    rw [List.append_assoc, List.cons_append] at h
    obtain ⟨blanks, left, rfl, hblanks, rfl, hleft, hregular⟩ :=
      exists_kept hf hps hgap (isBlank_of_isScalarChar hc) h
    have hslash : Piece.kept c ≠ .kept '\\' := by
      rintro ⟨⟩
      contradiction
    have hfront' : Unquoted ((front ++ blanks).flatMap f) := by
      rw [List.flatMap_append]
      apply hfront.append hgap.unquoted
    obtain ⟨part, left, rfl, hpart, hpart', hleft, hregular⟩ := exists_word hf hg hparts
      (by simpa using hwhole) hfront' hc (hregular.tail hslash) hword hleft
    have hgap' : IsGap (blanks.flatMap g) := isGap_flatMap hg hblanks
    have hshown : (blanks ++ Piece.kept c :: part).flatMap g = blanks.flatMap g ++ c :: used := by
      simp [hg.kept, hpart']
    refine ⟨blanks ++ .kept c :: part, left, by simp, ?_, hleft, hregular, ?_, ?_⟩
    · simp [hf.kept, hpart]
    · exact ⟨_, hgap', hshown⟩
    · intro _
      rw [hshown]
      apply (sameButGaps_gap hgap hgap').append hsame

/-- A text that describes an item, with the white space before it, becomes a text that describes
an item, and the two items are related unless some piece inside a string is shown differently. -/
def ReshowsItems (f g : Piece → List Char) (whole : List Piece) (item : α → List Char → Prop)
    (R : α → α → Prop) : Prop :=
  ∀ a text gap, item a text → IsGap gap → Reshows f g whole (gap ++ text) fun text =>
    ∃ gap' text' a', IsGap gap' ∧ item a' text' ∧ text = gap' ++ text' ∧
      (¬ Intrudes f g whole → R a a')

theorem reshows_listing (hf : IsView f) (hg : IsView g) (hclose : isCloser close = true)
    (hunquoted : ∀ a text, item a text → Unquoted text) (hitem : ReshowsItems f g whole item R) :
  ReshowsItems f g whole (IsListing item close) (List.Forall₂ R)
  := by
  have hblank := isBlank_of_isCloser hclose
  have hquote := ne_quote_of_isCloser hclose
  have hslash : close ≠ '\\' := by
    rintro rfl
    contradiction
  intro items text gap hlisting hgap
  induction hlisting generalizing gap with
  | empty =>
    apply (reshows_mark hf hg hgap hblank hquote hslash).mono
    rintro _ ⟨gap', hgap', rfl⟩ -
    exact ⟨gap', _, [], hgap', .empty, rfl, fun _ => .nil⟩
  | @last a text gap₁ ha hgap₁ =>
    have hfront := hgap.unquoted.append (hunquoted a text ha)
    have hwhole := (hitem a text gap ha hgap).append hfront
      (reshows_mark hf hg hgap₁ hblank hquote hslash)
    have htext : gap ++ (text ++ gap₁ ++ [close]) = gap ++ text ++ (gap₁ ++ [close]) := by
      simp
    rw [htext]
    apply hwhole.mono
    rintro _ ⟨_, _, ⟨gap', text', a', hgap', ha', rfl, hR⟩, ⟨gap₁', hgap₁', rfl⟩, rfl⟩ -
    refine ⟨gap', text' ++ gap₁' ++ [close], [a'], hgap', .last ha' hgap₁', by simp, ?_⟩
    intro hintrudes
    apply List.Forall₂.cons (hR hintrudes) .nil
  | @more a items text gap₁ gap₂ listing ha hgap₁ hgap₂ _ ih =>
    have hfront := hgap.unquoted.append (hunquoted a text ha)
    have hcomma := (hitem a text gap ha hgap).append hfront
      (reshows_mark hf hg hgap₁ (by decide : isBlank ',' = false) (by decide) (by decide))
    have hwhole := hcomma.append (hfront.append (hgap₁.unquoted.concat (by decide))) (ih gap₂ hgap₂)
    have htext : gap ++ (text ++ gap₁ ++ ',' :: gap₂ ++ listing) =
        gap ++ text ++ (gap₁ ++ [',']) ++ (gap₂ ++ listing) := by
      simp
    rw [htext]
    apply hwhole.mono
    rintro _ ⟨_, _, ⟨_, _, ⟨gap', text', a', hgap', ha', rfl, hR⟩, ⟨gap₁', hgap₁', rfl⟩, rfl⟩,
      ⟨gap₂', listing', items', hgap₂', hitems', rfl, hR'⟩, rfl⟩ -
    refine ⟨gap', text' ++ gap₁' ++ ',' :: gap₂' ++ listing', a' :: items', hgap',
      .more ha' hgap₁' hgap₂' hitems', by simp, ?_⟩
    intro hintrudes
    apply List.Forall₂.cons (hR hintrudes) (hR' hintrudes)

theorem reshows_enclosed (hf : IsView f) (hg : IsView g) (hfirst : first = '{' ∨ first = '[')
    (hclose : isCloser close = true) (hunquoted : ∀ a text, item a text → Unquoted text)
    (hitem : ReshowsItems f g whole item R) :
  ReshowsItems f g whole (IsEnclosed first close item) (List.Forall₂ R)
  := by
  have hmark : isBlank first = false ∧ first ≠ '"' ∧ first ≠ '\\' := by
    rcases hfirst with rfl | rfl <;> decide
  obtain ⟨hblank, hquote, hslash⟩ := hmark
  rintro items _ gap ⟨gap₁, listing, hgap₁, hlisting, rfl⟩ hgap
  have hwhole := (reshows_mark hf hg hgap hblank hquote hslash).append
    (hgap.unquoted.concat hquote)
    (reshows_listing hf hg hclose hunquoted hitem items listing gap₁ hlisting hgap₁)
  have htext : gap ++ (first :: gap₁ ++ listing) = gap ++ [first] ++ (gap₁ ++ listing) := by
    simp
  rw [htext]
  apply hwhole.mono
  rintro _ ⟨_, _, ⟨gap', hgap', rfl⟩, ⟨gap₁', listing', items', hgap₁', hitems', rfl, hR⟩, rfl⟩ -
  exact ⟨gap', first :: gap₁' ++ listing', items', hgap', ⟨gap₁', listing', hgap₁', hitems', rfl⟩,
    by simp, hR⟩

/-- A text that is in a language, as an item that it describes itself. -/
def Itself (P : List Char → Prop) (value text : List Char) : Prop :=
  P value ∧ text = value

/-- Two members with one name whose values differ in white space outside strings only. -/
structure MemberText.Alike (member member' : MemberText) : Prop where
  name : member'.name = member.name
  value : SameButGaps member.value member'.value

theorem SameButGaps.of_gap {gap' : List Char} (hgap : IsGap gap) (hgap' : IsGap gap')
    (h : SameButGaps (gap ++ text) (gap' ++ text')) :
  SameButGaps text text'
  := by
  obtain ⟨tight, htext, htext'⟩ := h
  refine ⟨tight, ?_, ?_⟩
  · intro rest
    rw [← htext rest, List.append_assoc, squeezes_gap hgap, List.nil_append]
  · intro rest
    rw [← htext' rest, List.append_assoc, squeezes_gap hgap', List.nil_append]

theorem reshows_member (hf : IsView f) (hg : IsView g)
    (hvalue : ReshowsItems f g whole (Itself P) SameButGaps) :
  ReshowsItems f g whole (IsMember P) MemberText.Alike
  := by
  rintro member _ gap ⟨hname, hraw, gap₁, gap₂, hgap₁, hgap₂, rfl⟩ hgap
  have hstring : Unquoted (gap ++ ('"' :: member.name ++ ['"'])) :=
    hgap.unquoted.append (IsString.unquoted ⟨member.name, hname, rfl⟩)
  have hkey : Reshows f g whole _ _ := reshows_string hf hg hgap hname
  have hcolon := hkey.append hstring
    (reshows_mark hf hg hgap₁ (by decide : isBlank ':' = false) (by decide) (by decide))
  have hwhole := hcolon.append (hstring.append (hgap₁.unquoted.concat (by decide)))
    (hvalue member.value member.value gap₂ ⟨hraw, rfl⟩ hgap₂)
  have htext : gap ++ ('"' :: member.name ++ '"' :: gap₁ ++ ':' :: gap₂ ++ member.value) =
      gap ++ ('"' :: member.name ++ ['"']) ++ (gap₁ ++ [':']) ++ (gap₂ ++ member.value) := by
    simp
  rw [htext]
  apply hwhole.mono
  rintro _ ⟨_, _, ⟨_, _, ⟨gap', name', hgap', hname', rfl, hsame⟩, ⟨gap₁', hgap₁', rfl⟩, rfl⟩,
    ⟨gap₂', value', _, hgap₂', ⟨hvalue', rfl⟩, rfl, hR⟩, rfl⟩ -
  refine ⟨gap', '"' :: name' ++ '"' :: gap₁' ++ ':' :: gap₂' ++ value', ⟨name', value'⟩, hgap',
    ⟨hname', hvalue', gap₁', gap₂', hgap₁', hgap₂', rfl⟩, by simp, ?_⟩
  intro hintrudes
  exact ⟨hsame hintrudes, hR hintrudes⟩

/-- An item between brackets is a value, and related to the one that it becomes as a text. -/
theorem reshows_container {items : List α} (hgap : IsGap gap)
    (hitem : ReshowsItems f g whole (IsEnclosed first close item) (List.Forall₂ R))
    (henclosed : IsEnclosed first close item items text)
    (hP : ∀ items text, IsEnclosed first close item items text → P text) :
  Reshows f g whole (gap ++ text) fun text' =>
    ∃ gap' used' value', IsGap gap' ∧ Itself P value' used' ∧ text' = gap' ++ used' ∧
      (¬ Intrudes f g whole → SameButGaps text value')
  := by
  apply (hitem items text gap henclosed hgap).mono
  rintro _ ⟨gap', used', items', hgap', henclosed', rfl, -⟩ hsame
  refine ⟨gap', used', used', hgap', ⟨hP items' used' henclosed', rfl⟩, rfl, ?_⟩
  intro hintrudes
  apply (hsame hintrudes).of_gap hgap hgap'

theorem reshows_leaf (hf : IsView f) (hg : IsView g) (hparts : ¬ Parts f g whole)
    (hgap : IsGap gap) (h : IsString text ∨ IsScalar text)
    (hP : ∀ text, IsString text ∨ IsScalar text → P text) :
  Reshows f g whole (gap ++ text) fun text' =>
    ∃ gap' used' value', IsGap gap' ∧ Itself P value' used' ∧ text' = gap' ++ used' ∧
      (¬ Intrudes f g whole → SameButGaps text value')
  := by
  rcases h with ⟨content, hcontent, rfl⟩ | h
  · apply (reshows_string hf hg hgap hcontent).mono
    rintro _ ⟨gap', content', hgap', hcontent', rfl, hsame⟩ -
    refine ⟨gap', _, _, hgap', ⟨hP _ (.inl ⟨content', hcontent', rfl⟩), rfl⟩, rfl, ?_⟩
    intro hintrudes
    rw [hsame hintrudes]
    apply (squeezes_string ⟨content, hcontent, rfl⟩).sameButGaps
  · apply (reshows_scalar hf hg hparts hgap h).mono
    rintro _ ⟨gap', hgap', rfl⟩ -
    exact ⟨gap', text, text, hgap', ⟨hP text (.inr h), rfl⟩, rfl,
      fun _ => (squeezes_scalar h.2).sameButGaps⟩

theorem reshows_object (hf : IsView f) (hg : IsView g)
    (h : ReshowsItems f g whole (Itself (IsValue levels)) SameButGaps) :
  ReshowsItems f g whole (IsObject (IsValue levels)) (List.Forall₂ MemberText.Alike)
  := by
  apply reshows_enclosed hf hg (.inl rfl) (by decide) _ (reshows_member hf hg h)
  intro member text hmember
  apply hmember.unquoted fun _ => IsValue.unquoted

theorem reshows_array (hf : IsView f) (hg : IsView g)
    (h : ReshowsItems f g whole (Itself (IsValue levels)) SameButGaps) :
  ReshowsItems f g whole (IsArray (IsValue levels)) (List.Forall₂ SameButGaps)
  := by
  apply reshows_enclosed hf hg (.inr rfl) (by decide) _ h
  rintro element _ ⟨helement, rfl⟩
  apply helement.unquoted

theorem reshows_value (hf : IsView f) (hg : IsView g) (hparts : ¬ Parts f g whole) (levels : Nat) :
  ReshowsItems f g whole (Itself (IsValue levels)) SameButGaps
  := by
  induction levels with
  | zero =>
    rintro value _ gap ⟨h, rfl⟩ hgap
    apply reshows_leaf hf hg hparts hgap h fun _ => id
  | succ levels ih =>
    have hleaf : ∀ text, IsString text ∨ IsScalar text → IsValue (levels + 1) text := by
      rintro text (h | h)
      · apply isValue_string h
      · apply isValue_scalar h
    rintro value _ gap ⟨h | h | ⟨members, h⟩ | ⟨elements, h⟩, rfl⟩ hgap
    · apply reshows_leaf hf hg hparts hgap (.inl h) hleaf
    · apply reshows_leaf hf hg hparts hgap (.inr h) hleaf
    · apply reshows_container hgap (reshows_object hf hg ih) h
      intro members text h
      exact .inr (.inr (.inl ⟨members, h⟩))
    · apply reshows_container hgap (reshows_array hf hg ih) h
      intro elements text h
      exact .inr (.inr (.inr ⟨elements, h⟩))

/-! ### Documents in pieces -/

theorem isBlank_of_isGap_flatMap (hf : IsView f) (h : IsGap (ps.flatMap f)) :
  ∀ piece ∈ ps, piece.isBlank = true
  := by
  intro piece hpiece
  cases piece with
  | kept c =>
    apply h c
    apply List.mem_flatMap.mpr ⟨_, hpiece, _⟩
    rw [hf.kept, List.mem_singleton]
  | dropped c => rfl
  | comment content => rfl

/-- Pieces that show a document show one in another way too, unless that way keeps apart two
characters of a scalar. -/
theorem reshows_document (hf : IsView f) (hg : IsView g) (hparts : ¬ Parts f g whole)
    (hregular : Regular whole) {written : List MemberText}
    (h : IsDocumentOf written (whole.flatMap f)) :
  ∃ written', IsDocumentOf written' (whole.flatMap g) ∧
    (¬ Intrudes f g whole → List.Forall₂ MemberText.Alike written written')
  := by
  rcases h with ⟨hgap, rfl⟩ | ⟨before, object, after, hbefore, hobject, hafter, hshown⟩
  · have hgap' : IsGap (whole.flatMap g) := isGap_flatMap hg (isBlank_of_isGap_flatMap hf hgap)
    exact ⟨[], .inl ⟨hgap', rfl⟩, fun _ => .nil⟩
  · have hreshows := reshows_object hf hg (reshows_value hf hg hparts 127) written object before
      hobject hbefore
    obtain ⟨part, left, rfl, -, hleft, -, ⟨before', object', written', hbefore', hobject', heq, hR⟩,
      -⟩ := hreshows [] whole after rfl .nil hregular hshown
    have hafter' : IsGap (left.flatMap g) := by
      rw [← hleft] at hafter
      apply isGap_flatMap hg (isBlank_of_isGap_flatMap hf hafter)
    refine ⟨written', .inr ⟨before', object', _, hbefore', hobject', hafter', ?_⟩, hR⟩
    rw [List.flatMap_append, heq]

/-! ### Ends of strings -/

/-- The first pieces of a text in which no comment comes after a backslash. -/
theorem Regular.of_append (h : Regular (front ++ ps)) :
  Regular front
  := by
  generalize hwhole : front ++ ps = whole at h
  induction h generalizing front with
  | nil =>
    obtain ⟨rfl, -⟩ := List.append_eq_nil_iff.mp hwhole
    apply Regular.nil
  | last =>
    rcases List.append_eq_cons_iff.mp hwhole with ⟨rfl, -⟩ | ⟨front, rfl, hrest⟩
    · apply Regular.nil
    · obtain ⟨rfl, -⟩ := List.append_eq_nil_iff.mp hrest.symm
      apply Regular.last
  | escape _ ih =>
    rcases List.append_eq_cons_iff.mp hwhole with ⟨rfl, -⟩ | ⟨front, rfl, hrest⟩
    · apply Regular.nil
    · rcases List.append_eq_cons_iff.mp hrest.symm with ⟨rfl, -⟩ | ⟨front, rfl, hlast⟩
      · apply Regular.last
      · apply Regular.escape (ih hlast.symm)
  | kept hc _ ih =>
    rcases List.append_eq_cons_iff.mp hwhole with ⟨rfl, -⟩ | ⟨front, rfl, hrest⟩
    · apply Regular.nil
    · apply Regular.kept hc (ih hrest.symm)
  | other hpiece _ ih =>
    rcases List.append_eq_cons_iff.mp hwhole with ⟨rfl, -⟩ | ⟨front, rfl, hrest⟩
    · apply Regular.nil
    · apply Regular.other hpiece (ih hrest.symm)

theorem Unquoted.of_gap_append (hgap : IsGap gap) (h : Unquoted (gap ++ text)) :
  Unquoted text
  := by
  induction gap with
  | nil => apply h
  | cons c gap ih =>
    rw [IsGap, List.forall_mem_cons] at hgap
    rw [List.cons_append] at h
    generalize hshown : gap ++ text = shown at h
    cases h with
    | char _ hrest =>
      rw [← hshown] at hrest
      apply ih hgap.2 hrest
    | string => exact absurd hgap.1 (by decide)

/-- A text that starts with a character and ends outside strings does so in another way of showing
its pieces, if what comes after its first string or character does. -/
theorem unquoted_cons (hf : IsView f) (hg : IsView g) (hps : Regular ps)
    (ih : ∀ left : List Piece, left.length ≤ ps.length → Regular left →
      Unquoted (left.flatMap f) → Unquoted (left.flatMap g))
    (h : Unquoted (c :: ps.flatMap f)) :
  Unquoted (c :: ps.flatMap g)
  := by
  generalize hshown : ps.flatMap f = shown at h
  cases h with
  | char hc hrest =>
    rw [← hshown] at hrest
    apply Unquoted.char hc (ih ps le_rfl hps hrest)
  | string hcontent hrest =>
    obtain ⟨inside, left, rfl, hinside, rfl, hregular⟩ := exists_inside hf hg hps hcontent hshown
    have hlength : left.length ≤ (inside ++ .kept '"' :: left).length := by
      rw [List.length_append, List.length_cons]
      omega
    have hleft := ih left hlength hregular hrest
    simpa [hg.kept] using Unquoted.string hinside.isContent hleft

/-- Pieces that end outside strings do so in every way of showing them. -/
theorem unquoted_flatMap (hf : IsView f) (hg : IsView g) (hps : Regular ps)
    (h : Unquoted (ps.flatMap f)) :
  Unquoted (ps.flatMap g)
  := by
  -- by the number of pieces, since a string takes several of them at once
  induction hn : ps.length using Nat.strongRecOn generalizing ps with
  | ind n ih =>
    have hshorter {rest : List Piece} (hrest : rest.length < n) (left : List Piece)
        (hleft : left.length ≤ rest.length) (hregular : Regular left)
        (hunquoted : Unquoted (left.flatMap f)) : Unquoted (left.flatMap g) :=
      ih left.length (by omega) hregular hunquoted rfl
    cases hps with
    | nil => apply Unquoted.nil
    | last => simpa [hf.kept, hg.kept] using h
    | @escape c rest hrest =>
      rw [List.flatMap_cons, List.flatMap_cons, hf.kept, hf.kept] at h
      rw [List.flatMap_cons, List.flatMap_cons, hg.kept, hg.kept]
      have htail : Unquoted (c :: rest.flatMap f) := by
        generalize hshown : rest.flatMap f = shown at h
        cases h with
        | char _ htail => apply htail
      rw [List.length_cons, List.length_cons] at hn
      apply Unquoted.char (by decide) (unquoted_cons hf hg hrest (hshorter (by omega)) htail)
    | @kept c rest _ hrest =>
      rw [List.flatMap_cons, hf.kept] at h
      rw [List.flatMap_cons, hg.kept]
      rw [List.length_cons] at hn
      apply unquoted_cons hf hg hrest (hshorter (by omega)) h
    | @other piece rest hpiece hrest =>
      rw [List.flatMap_cons] at h ⊢
      rw [List.length_cons] at hn
      apply (hg.other piece hpiece).unquoted.append
      apply hshorter (by omega) rest le_rfl hrest (h.of_gap_append (hf.other piece hpiece))

/-! ### What alike members add -/

variable {written written' : List MemberText}

theorem opensBracket_squeeze {value : List Char} (h : IsValue levels value) :
  opensBracket (squeeze false value) = opensBracket value
  := by
  obtain ⟨c, rest, rfl, hblank, -⟩ := isValue_starts levels value h
  rw [squeeze, hblank, if_neg (by decide)]
  rfl

theorem MemberText.Alike.isContainer_eq {member member' : MemberText} (h : member.Alike member')
    (hvalue : IsValue levels member.value) (hvalue' : IsValue levels member'.value) :
  member'.isContainer = member.isContainer
  := by
  rw [MemberText.isContainer, MemberText.isContainer, ← opensBracket_squeeze hvalue,
    ← opensBracket_squeeze hvalue', h.value.squeeze_eq]

/-- Without the white space outside strings, members that are alike add the same texts. -/
theorem capturedItems_alike (h : List.Forall₂ MemberText.Alike written written')
    (hvalue : ∀ member ∈ written, IsValue 127 member.value)
    (hvalue' : ∀ member ∈ written', IsValue 127 member.value) :
  (capturedItems written').map (fun item => (item.1, withoutGaps item.2)) =
    (capturedItems written).map fun item => (item.1, withoutGaps item.2)
  := by
  induction h with
  | nil => rfl
  | @cons member member' written written' halike _ ih =>
    rw [List.forall_mem_cons] at hvalue hvalue'
    have hkey : member'.key = member.key := by
      rw [MemberText.key, MemberText.key, halike.name]
    have hraw : withoutGaps member'.raw = withoutGaps member.raw := by
      simp only [withoutGaps, MemberText.raw, String.toList_ofList, halike.value.squeeze_eq]
    have htail := ih hvalue.2 hvalue'.2
    rw [capturedItems, capturedItems] at htail ⊢
    rw [List.filter_cons, List.filter_cons, halike.isContainer_eq hvalue.1 hvalue'.1]
    split
    · rw [List.map_cons, List.map_cons, List.map_cons, List.map_cons, htail, hkey, hraw]
    · apply htail

end LumpRules.Document
