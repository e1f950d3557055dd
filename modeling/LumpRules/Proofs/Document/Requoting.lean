import LumpRules.Proofs.Document.Rewording
import LumpRules.Proofs.Document.Rows

/-!
# Scanning a reworded document

In a text of the grammar a string ends where no word can go on, so whatever words a text was
reworded with, its strings have been replaced one by one: the parts of the text are `Requoted`.  The
grammar does not look into strings, hence a reworded document is a document again, with the same
members but for their strings (`scanDocument_reworded`).
-/

namespace LumpRules.Document

open Text Json

variable {c : Char} {body front gap rest text text' left : List Char} {name : List Char}

/-! ### Strings -/

/-- Contents of two strings, of which JSON accepts the second if it accepts the first. -/
structure StringsAlike (body body' : List Char) : Prop where
  content : IsContent body
  content' : IsContent body'
  literal : ∀ name, IsLiteral body name → ∃ name', IsLiteral body' name'

/-- Neither a quote nor a character of a word comes next. -/
def EndsWord (text : List Char) : Prop :=
  Lacks (fun c => c == '"' || isWordChar c) text

theorem endsWord_cons (hquote : c ≠ '"') (hword : isWordChar c = false) :
  EndsWord (c :: rest)
  := by
  apply lacks_cons
  simp [hquote, hword]

theorem endsWord_gap (hgap : IsGap gap) (h : EndsWord rest) :
  EndsWord (gap ++ rest)
  := by
  cases gap with
  | nil => apply h
  | cons c gap =>
    have hblank : isBlank c = true := hgap c (List.mem_cons_self ..)
    apply endsWord_cons
    · rintro rfl
      simp [isBlank, blankRanges] at hblank
    · by_contra hword
      rw [Bool.not_eq_false] at hword
      rw [isWordChar, Bool.or_eq_true, beq_iff_eq] at hword
      rcases hword with halnum | rfl
      · have hscalar := isScalarChar_of_isBlank hblank
        simp [isScalarChar, halnum] at hscalar
      · simp [isBlank, blankRanges] at hblank

theorem not_endsWord_word {word : List Char} (h : IsWord word) :
  ¬ EndsWord (word ++ '"' :: rest)
  := by
  intro hends
  cases word with
  | nil => simpa using hends '"' rfl
  | cons c word => simpa [h.1 c (List.mem_cons_self ..)] using hends c rfl

/-- A string has only one end. -/
theorem content_unique {body' rest' : List Char} (h : IsContent body) (h' : IsContent body')
    (heq : body ++ '"' :: rest = body' ++ '"' :: rest') :
  body = body' ∧ rest = rest'
  := by
  have hspan : stringSpan (body ++ '"' :: rest) = (body, rest) := stringSpan_content h
  rw [heq, stringSpan_content h', Prod.mk.injEq] at hspan
  exact ⟨hspan.1.symm, hspan.2.symm⟩

theorem hexUnit?_quote {a b c d : Char} {unit : Nat} (h : hexUnit? a b c d = some unit) :
  '"' ∉ [a, b, c, d]
  := by
  intro hquote
  apply (hexUnit?_chars h hquote).1 rfl

theorem exists_read_of_consChar {read : Except ReadError (List Char × List Char)}
    (h : consChar c read = .ok (name, rest)) :
  ∃ name', read = .ok (name', rest)
  := by
  cases read with
  | error error => simp [consChar] at h
  | ok found =>
    simp only [consChar, Except.ok.injEq, Prod.mk.injEq] at h
    obtain ⟨-, rfl⟩ := h
    use found.1

/-- A text that starts with what JSON accepts between quotes, from after the opening quote. -/
def StartsLiteral (text : List Char) : Prop :=
  ∃ body name rest, IsLiteral body name ∧ text = body ++ '"' :: rest

theorem StartsLiteral.piece {piece : List Char} (h : StartsLiteral text)
    (hpiece : IsPiece piece c) :
  StartsLiteral (piece ++ text)
  := by
  obtain ⟨body, name, rest, hbody, rfl⟩ := h
  use piece ++ body, c :: name, rest, hpiece.isLiteral hbody
  simp

/-- A relation that keeps every character but quotes keeps a text without quotes. -/
theorem exists_append_of_cons {R : List Char → List Char → Prop}
    (hcons : ∀ {c rest text'}, R (c :: rest) text' → c ≠ '"' →
      ∃ rest', text' = c :: rest' ∧ R rest rest')
    (h : R (front ++ rest) text') (hfront : '"' ∉ front) :
  ∃ rest', text' = front ++ rest' ∧ R rest rest'
  := by
  induction front generalizing text' with
  | nil => exact ⟨text', rfl, h⟩
  | cons c front ih =>
    obtain ⟨hc, hfront⟩ := not_or.mp (mt List.mem_cons.mpr hfront)
    obtain ⟨tail, rfl, htail⟩ := hcons h (Ne.symm hc)
    obtain ⟨rest', rfl, hrest⟩ := ih htail hfront
    exact ⟨rest', rfl, hrest⟩

namespace Reworded

/-- A text without quotes is kept. -/
theorem of_append (h : Reworded (front ++ rest) text') (hfront : '"' ∉ front) :
  ∃ rest', text' = front ++ rest' ∧ Reworded rest rest'
  := by
  apply exists_append_of_cons _ h hfront
  apply of_cons

/-- The rest of a string, from after its opening quote, is the rest of a string again. -/
theorem of_content (hbody : IsContent body) (h : Reworded (body ++ '"' :: rest) text')
    (hrest : EndsWord rest) :
  ∃ body' rest', IsContent body' ∧ text' = body' ++ '"' :: rest' ∧ Reworded rest rest'
  := by
  induction hbody generalizing text' with
  | nil =>
    cases h with
    | char c h => exact ⟨[], _, .nil, rfl, h⟩
    | word hword => apply (not_endsWord_word hword hrest).elim
  | @plain c body hquote hslash _ ih =>
    obtain ⟨tail, rfl, htail⟩ := h.of_cons hquote
    obtain ⟨body', rest', hbody', rfl, hrest'⟩ := ih htail
    exact ⟨c :: body', rest', .plain hquote hslash hbody', rfl, hrest'⟩
  | @escape c body hbody ih =>
    obtain ⟨tail, rfl, htail⟩ := h.of_cons (by decide)
    change Reworded (c :: (body ++ '"' :: rest)) tail at htail
    generalize hsecond : body ++ '"' :: rest = second at htail
    cases htail with
    | char c htail =>
      rw [← hsecond] at htail
      obtain ⟨body', rest', hbody', rfl, hrest'⟩ := ih htail
      exact ⟨'\\' :: c :: body', rest', .escape hbody', rfl, hrest'⟩
    | word hword hword' htail =>
      -- The escaped quote starts a word, which can only end where the string does.
      obtain ⟨rfl, rfl⟩ := content_unique hbody hword.content hsecond
      exact ⟨_, _, .escape hword'.content, rfl, htail⟩

/-- A piece of a literal without quotes is kept. -/
theorem startsLiteral_piece {piece : List Char} (hpiece : IsPiece piece c) (hquote : '"' ∉ piece)
    (h : Reworded (piece ++ text) text')
    (hread : consChar c (readString .full text) = .ok (name, rest))
    (ih : ∀ {name text'}, Reworded text text' → readString .full text = .ok (name, rest) →
      StartsLiteral text') :
  StartsLiteral text'
  := by
  obtain ⟨name', hread'⟩ := exists_read_of_consChar hread
  obtain ⟨tail, rfl, htail⟩ := h.of_append hquote
  apply (ih htail hread').piece hpiece

/-- An escaped quote is kept, or starts a word that ends where the literal does. -/
theorem startsLiteral_quote (hpiece : IsPiece ['\\', '"'] c)
    (h : Reworded ('\\' :: '"' :: text) text')
    (hread : consChar c (readString .full text) = .ok (name, rest))
    (ih : ∀ {name text'}, Reworded text text' → readString .full text = .ok (name, rest) →
      StartsLiteral text') :
  StartsLiteral text'
  := by
  obtain ⟨name', hread'⟩ := exists_read_of_consChar hread
  obtain ⟨tail, rfl, htail⟩ := h.of_cons (by decide)
  cases htail with
  | char _ htail => apply (ih htail hread').piece hpiece
  | @word _ word' _ left' _ hword' _ =>
    obtain ⟨-, name', hname'⟩ := hword'
    have hstarts : StartsLiteral (word' ++ '"' :: left') := ⟨word', name', left', hname', rfl⟩
    apply hstarts.piece hpiece

/-- The rest of a string that JSON accepts is the rest of such a string again. -/
theorem startsLiteral (h : Reworded text text') (hread : readString .full text = .ok (name, rest))
    (hrest : EndsWord rest) :
  StartsLiteral text'
  := by
  fun_induction readString .full text generalizing name text' with
  | case2 left =>
    obtain ⟨-, rfl⟩ := Prod.mk.inj (Except.ok.inj hread)
    cases h with
    | char c h => exact ⟨[], [], _, isLiteral_nil, rfl⟩
    | word hword => apply (not_endsWord_word hword hrest).elim
  | case4 _ _ _ _ _ _ _ hpassing => simp at hpassing
  | case7 a b c d unit hunit _ hlow hhigh e f g i left low hunit' hlow' ih =>
    apply startsLiteral_piece (isPiece_pair hunit hhigh hlow hunit' hlow') _ h hread ih
    have := hexUnit?_quote hunit
    have := hexUnit?_quote hunit'
    simp_all
  | case13 a b c d left unit hunit _ hlow hhigh ih =>
    apply startsLiteral_piece (isPiece_unit hunit hlow hhigh) _ h hread ih
    have := hexUnit?_quote hunit
    simp_all
  | case15 e left _ _ c hescape ih =>
    by_cases he : e = '"'
    · subst he
      apply startsLiteral_quote (isPiece_escape hescape) h hread ih
    · apply startsLiteral_piece (isPiece_escape hescape) _ h hread ih
      simp [Ne.symm he]
  | case19 c left hquote _ _ _ hcontrol hslash ih =>
    apply startsLiteral_piece (isPiece_plain hcontrol hquote hslash) _ h hread ih
    simp [Ne.symm hquote]
  | _ => simp at hread

/-- A string is replaced as a whole. -/
theorem of_string (hbody : IsContent body) (h : Reworded ('"' :: (body ++ '"' :: rest)) text')
    (hrest : EndsWord rest) :
  ∃ body' rest', StringsAlike body body' ∧ text' = '"' :: (body' ++ '"' :: rest') ∧
    Reworded rest rest'
  := by
  generalize hinner : body ++ '"' :: rest = inner at h
  cases h with
  | char c h =>
    subst hinner
    obtain ⟨body', rest', hbody', rfl, hrest'⟩ := h.of_content hbody hrest
    use body', rest'
    refine ⟨⟨hbody, hbody', ?_⟩, rfl, hrest'⟩
    intro name hname
    obtain ⟨body'', name', rest'', hname', heq⟩ := h.startsLiteral (hname.2.2 rest) hrest
    obtain ⟨rfl, -⟩ := content_unique hbody' hname'.1 heq
    exact ⟨name', hname'⟩
  | @word word word' left left' hword hword' h =>
    obtain ⟨rfl, rfl⟩ := content_unique hbody hword.content hinner
    use word', left'
    refine ⟨⟨hbody, hword'.content, ?_⟩, rfl, h⟩
    intro _ _
    obtain ⟨-, name', hname'⟩ := hword'
    exact ⟨name', hname'⟩

end Reworded

/-! ### The grammar -/

/-- A text and the same text with other strings in place of its strings. -/
inductive Requoted : List Char → List Char → Prop where
  | nil : Requoted [] []
  | char {c : Char} {rest rest' : List Char} :
      c ≠ '"' → Requoted rest rest' → Requoted (c :: rest) (c :: rest')
  | string {body body' rest rest' : List Char} :
      StringsAlike body body' → Requoted rest rest' →
      Requoted ('"' :: (body ++ '"' :: rest)) ('"' :: (body' ++ '"' :: rest'))

theorem Requoted.append {front' rest' : List Char} (hfront : Requoted front front')
    (hrest : Requoted rest rest') :
  Requoted (front ++ rest) (front' ++ rest')
  := by
  induction hfront with
  | nil => apply hrest
  | char hc _ ih => apply Requoted.char hc ih
  | string hbody _ ih =>
    simp only [List.cons_append, List.append_assoc]
    apply Requoted.string hbody ih

theorem quote_notMem_gap (h : IsGap gap) :
  '"' ∉ gap
  := by
  intro hquote
  have hblank := h _ hquote
  simp [isBlank, blankRanges] at hblank

theorem Reworded.of_gap (h : Reworded (gap ++ rest) text') (hgap : IsGap gap) :
  ∃ rest', text' = gap ++ rest' ∧ Reworded rest rest'
  := h.of_append (quote_notMem_gap hgap)

/-- White space and the mark after it are kept. -/
theorem Reworded.of_mark (h : Reworded (gap ++ c :: rest) text') (hgap : IsGap gap)
    (hc : c ≠ '"') :
  ∃ rest', text' = gap ++ c :: rest' ∧ Reworded rest rest'
  := by
  obtain ⟨tail, rfl, htail⟩ := h.of_gap hgap
  obtain ⟨rest', rfl, hrest⟩ := htail.of_cons hc
  exact ⟨rest', rfl, hrest⟩

theorem Requoted.append_left (h : Requoted rest text') (hfront : '"' ∉ front) :
  Requoted (front ++ rest) (front ++ text')
  := by
  induction front with
  | nil => apply h
  | cons c front ih =>
    obtain ⟨hc, hfront⟩ := not_or.mp (mt List.mem_cons.mpr hfront)
    apply Requoted.char (Ne.symm hc) (ih hfront)

theorem Requoted.after_gap (h : Requoted rest text') (hgap : IsGap gap) :
  Requoted (gap ++ rest) (gap ++ text')
  := h.append_left (quote_notMem_gap hgap)

/-- A reworded text that starts with an item starts with an item again, which is related to the
first one by `R`. -/
def Carries {α : Type} (item : α → List Char → Prop) (R : α → α → Prop) : Prop :=
  ∀ a text rest left, item a text → EndsWord rest → Reworded (text ++ rest) left →
    ∃ a' text' rest', item a' text' ∧ R a a' ∧ Requoted text text' ∧ Reworded rest rest' ∧
      left = text' ++ rest'

/-- A reworded text that starts with a text of a language starts with such a text again. -/
def CarriesText (P : List Char → Prop) : Prop :=
  ∀ text rest left, P text → EndsWord rest → Reworded (text ++ rest) left →
    ∃ text' rest', P text' ∧ Requoted text text' ∧ Reworded rest rest' ∧ left = text' ++ rest'

variable {α : Type} {item : α → List Char → Prop} {R : α → α → Prop} {close : Char}

theorem carries_listing (hitem : Carries item R) (hclose : close ≠ '"')
    (hword : isWordChar close = false) :
  Carries (IsListing item close) (List.Forall₂ R)
  := by
  intro items text rest left hlisting hrest h
  induction hlisting generalizing left with
  | empty =>
    obtain ⟨rest', rfl, hrest'⟩ := h.of_cons hclose
    exact ⟨[], [close], rest', .empty, .nil, .char hclose .nil, hrest', rfl⟩
  | @last a text gap ha hgap =>
    simp only [List.append_assoc, List.singleton_append] at h
    have hends : EndsWord (gap ++ close :: rest) := endsWord_gap hgap (endsWord_cons hclose hword)
    obtain ⟨a', text', left, ha', hR, htext, hafter, rfl⟩ := hitem a text _ _ ha hends h
    obtain ⟨rest', rfl, hrest'⟩ := hafter.of_mark hgap hclose
    refine ⟨[a'], text' ++ gap ++ [close], rest', .last ha' hgap, .cons hR .nil, ?_, hrest', ?_⟩
    · rw [List.append_assoc, List.append_assoc]
      apply htext.append
      apply Requoted.after_gap _ hgap
      apply Requoted.char hclose .nil
    · simp
  | @more a items text gap gap' used ha hgap hgap' _ ih =>
    simp only [List.append_assoc, List.cons_append] at h
    have hends : EndsWord (gap ++ ',' :: (gap' ++ (used ++ rest))) :=
      endsWord_gap hgap (endsWord_cons (by decide) (by decide))
    obtain ⟨a', text', left, ha', hR, htext, hafter, rfl⟩ := hitem a text _ _ ha hends h
    obtain ⟨left', rfl, hcomma⟩ := hafter.of_mark hgap (by decide)
    obtain ⟨more, rfl, hmore⟩ := hcomma.of_gap hgap'
    obtain ⟨items', used', rest', hused', hitems, hused, hrest', rfl⟩ := ih more hmore
    refine ⟨a' :: items', text' ++ gap ++ ',' :: gap' ++ used', rest',
      .more ha' hgap hgap' hused', .cons hR hitems, ?_, hrest', ?_⟩
    · simp only [List.append_assoc, List.cons_append]
      apply htext.append
      apply Requoted.after_gap _ hgap
      apply Requoted.char (by decide)
      apply hused.after_gap hgap'
    · simp

theorem carries_enclosed {first : Char} (hitem : Carries item R) (hfirst : first ≠ '"')
    (hclose : close ≠ '"') (hword : isWordChar close = false) :
  Carries (IsEnclosed first close item) (List.Forall₂ R)
  := by
  rintro items _ rest left ⟨gap, listing, hgap, hlisting, rfl⟩ hrest h
  rw [List.cons_append, List.cons_append, List.append_assoc] at h
  obtain ⟨inner, rfl, hinner⟩ := h.of_cons hfirst
  obtain ⟨used, rfl, hused⟩ := hinner.of_gap hgap
  obtain ⟨items', listing', rest', hlisting', hitems, hrequoted, hrest', rfl⟩ :=
    carries_listing hitem hclose hword items listing rest used hlisting hrest hused
  refine ⟨items', first :: gap ++ listing', rest', ⟨gap, listing', hgap, hlisting', rfl⟩, hitems,
    ?_, hrest', ?_⟩
  · apply Requoted.char hfirst
    apply hrequoted.after_gap hgap
  · simp

variable {value : List Char → Prop}

/-- The values of two members are the same but for their strings. -/
structure MembersAlike (member member' : MemberText) : Prop where
  nonempty : member.value ≠ []
  nonempty' : member'.value ≠ []
  requoted : Requoted member.value member'.value

theorem carries_member (hvalue : CarriesText value) (hstarts : Starts value) :
  Carries (IsMember value) MembersAlike
  := by
  rintro member _ rest left ⟨hname, hmember, gap, gap', hgap, hgap', rfl⟩ hrest h
  simp only [List.append_assoc, List.cons_append] at h
  have hends : EndsWord (gap ++ ':' :: (gap' ++ (member.value ++ rest))) :=
    endsWord_gap hgap (endsWord_cons (by decide) (by decide))
  obtain ⟨name', afterName, hname', rfl, hafterName⟩ := h.of_string hname hends
  obtain ⟨afterColon, rfl, hafterColon⟩ := hafterName.of_mark hgap (by decide)
  obtain ⟨start, rfl, hstart⟩ := hafterColon.of_gap hgap'
  obtain ⟨value', rest', hvalue', hrequoted, hrest', rfl⟩ :=
    hvalue _ rest start hmember hrest hstart
  have hnonempty : ∀ text, value text → text ≠ [] := by
    rintro _ htext rfl
    obtain ⟨c, tail, hempty, -⟩ := hstarts _ htext
    contradiction
  refine ⟨⟨name', value'⟩, _, rest', ⟨hname'.content', hvalue', gap, gap', hgap, hgap', rfl⟩,
    ⟨hnonempty _ hmember, hnonempty _ hvalue', hrequoted⟩, ?_, hrest', ?_⟩
  · simp only [List.append_assoc, List.cons_append]
    apply Requoted.string hname'
    apply Requoted.after_gap _ hgap
    apply Requoted.char (by decide)
    apply hrequoted.after_gap hgap'
  · simp

theorem carries_element (hvalue : CarriesText value) :
  Carries (fun element text => value element ∧ text = element) Requoted
  := by
  rintro element _ rest left ⟨helement, rfl⟩ hrest h
  obtain ⟨text', rest', htext', hrequoted, hrest', rfl⟩ := hvalue _ rest left helement hrest h
  exact ⟨text', text', rest', ⟨htext', rfl⟩, hrequoted, hrequoted, hrest', rfl⟩

theorem carriesText_string :
  CarriesText IsString
  := by
  rintro _ rest left ⟨body, hbody, rfl⟩ hrest h
  simp only [List.append_assoc, List.cons_append, List.nil_append] at h
  obtain ⟨body', rest', hbody', rfl, hrest'⟩ := h.of_string hbody hrest
  refine ⟨'"' :: body' ++ ['"'], rest', ⟨body', hbody'.content', rfl⟩, ?_, hrest', by simp⟩
  apply Requoted.string hbody' .nil

theorem carriesText_scalar :
  CarriesText IsScalar
  := by
  rintro text rest left hscalar hrest h
  have hquote : '"' ∉ text := by
    intro hquote
    have hchar := hscalar.2 _ hquote
    simp [isScalarChar] at hchar
  obtain ⟨rest', rfl, hrest'⟩ := h.of_append hquote
  refine ⟨text, rest', hscalar, ?_, hrest', rfl⟩
  rw [← List.append_nil text]
  apply Requoted.nil.append_left hquote

/-- A value is a value again, its strings being replaced one by one. -/
theorem carriesText_value (levels : Nat) :
  CarriesText (IsValue levels)
  := by
  have hflat : ∀ levels text rest left, IsString text ∨ IsScalar text → EndsWord rest →
      Reworded (text ++ rest) left → ∃ text' rest', IsValue levels text' ∧
        Requoted text text' ∧ Reworded rest rest' ∧ left = text' ++ rest' := by
    rintro levels text rest left (htext | htext) hrest h
    · obtain ⟨text', rest', htext', hrequoted⟩ := carriesText_string text rest left htext hrest h
      exact ⟨text', rest', isValue_string htext', hrequoted⟩
    · obtain ⟨text', rest', htext', hrequoted⟩ := carriesText_scalar text rest left htext hrest h
      exact ⟨text', rest', isValue_scalar htext', hrequoted⟩
  induction levels with
  | zero => apply hflat 0
  | succ levels ih =>
    rintro text rest left (htext | htext | ⟨members, hobject⟩ | ⟨elements, harray⟩) hrest h
    · apply hflat _ text rest left (.inl htext) hrest h
    · apply hflat _ text rest left (.inr htext) hrest h
    · obtain ⟨members', text', rest', hobject', -, hrequoted⟩ :=
        carries_enclosed (carries_member ih (isValue_starts levels)) (by decide) (by decide)
          (by decide) members text rest left hobject hrest h
      exact ⟨text', rest', .inr (.inr (.inl ⟨members', hobject'⟩)), hrequoted⟩
    · obtain ⟨elements', text', rest', harray', -, hrequoted⟩ :=
        carries_enclosed (carries_element ih) (by decide) (by decide) (by decide) elements text
          rest left harray hrest h
      exact ⟨text', rest', .inr (.inr (.inr ⟨elements', harray'⟩)), hrequoted⟩

/-! ### Documents -/

theorem Reworded.eq_of_gap (h : Reworded gap text') (hgap : IsGap gap) :
  text' = gap
  := by
  rw [← List.append_nil gap] at h
  obtain ⟨rest', rfl, hrest'⟩ := h.of_gap hgap
  cases hrest'
  apply List.append_nil

/-- The text of the value of a member is the same but for its strings. -/
structure Member.Alike (member member' : Member) : Prop where
  raw : Requoted member.raw.toList member'.raw.toList
  container : member.isContainer = member'.isContainer

theorem Requoted.head?_eq (h : Requoted text text') :
  text.head? = text'.head?
  := by
  cases h <;> rfl

theorem Member.Reads.alike {member member' : Member} {written written' : MemberText}
    (h : member.Reads written) (h' : member'.Reads written')
    (halike : MembersAlike written written') :
  member.Alike member'
  := by
  constructor
  · rw [h.raw_eq, h'.raw_eq, String.toList_ofList, String.toList_ofList]
    apply halike.requoted
  · rw [isContainer_eq_any, isContainer_eq_any, h.head?_start halike.nonempty,
      h'.head?_start halike.nonempty', halike.requoted.head?_eq]

/-- The members of a reworded document are those of the document but for their strings. -/
theorem scanDocument_reworded {members : List Member} (h : Reworded text text')
    (hscan : scanDocument text = .ok members) :
  ∃ members', scanDocument text' = .ok members' ∧ List.Forall₂ Member.Alike members members'
  := by
  rcases scanDocument_sound hscan with ⟨hgap, rfl⟩ |
    ⟨before, written, object, after, hbefore, hobject, hafter, rfl, hreads⟩
  · rw [h.eq_of_gap hgap]
    use [], scanDocument_gap hgap, .nil
  · have hends : EndsWord after := by
      rw [← List.append_nil after]
      apply endsWord_gap hafter
      simp [EndsWord, Lacks]
    rw [List.append_assoc] at h
    obtain ⟨inner, rfl, hinner⟩ := h.of_gap hbefore
    obtain ⟨written', object', after', hobject', hwritten, -, hafter', rfl⟩ :=
      carries_enclosed (carries_member (carriesText_value 127) (isValue_starts 127)) (by decide)
        (by decide) (by decide) written object after inner hobject hends hinner
    rw [hafter'.eq_of_gap hafter, ← List.append_assoc]
    obtain ⟨members', hscan', hreads'⟩ := scanDocument_complete hbefore hobject' hafter
    use members', hscan'
    have hmembers : List.Forall₂ (fun member written' =>
        ∃ written, member.Reads written ∧ MembersAlike written written') members written' := by
      apply forall₂_of_common _ hreads hwritten.flip
      intro member written' written hmember halike
      exact ⟨written, hmember, halike⟩
    apply forall₂_of_common _ hmembers hreads'
    rintro member member' written' ⟨written, hmember, halike⟩ hmember'
    apply hmember.alike hmember' halike

end LumpRules.Document
