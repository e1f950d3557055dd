import LumpRules.Proofs.Document.Commas
import LumpRules.Proofs.Document.Neighbours

/-!
# Trailing commas and the scanner

A comma before a closing bracket is allowed in two ways: the scanner accepts one after the last
item of an object or an array, and `stripCommas` drops every comma before a closing bracket,
whatever stands before it.  They differ on stray commas only, those after an opening bracket or
another comma (`HasStrayComma`).  A document without its trailing commas is a document again, since
the grammar allows them (`IsDocumentOf.stripped`), and a text without stray commas is a document if
it is one without its trailing commas (`exists_isDocumentOf_of_stripped`).
`scan_withoutTrailingCommas` puts this together.
-/

namespace LumpRules.Document

open Text

variable {α : Type} {c : Char} {text text' gap rest left used : List Char} {levels : Nat}
  {item : α → List Char → Prop} {items : List α} {close : Char} {P : List Char → Prop}

/-! ### Documents without their trailing commas -/

/-- Without its trailing commas the text is the second one, whatever comes after it. -/
abbrev Strips (text text' : List Char) : Prop :=
  Json.Turns (stripCommas .plain) text text'

theorem Strips.eq (h : Strips text text') :
  stripCommas .plain text = text'
  := by
  rw [h.apply_eq, stripCommas, List.append_nil]
  rintro blanks ⟨⟩

theorem strips_gap (h : IsGap gap) :
  Strips gap gap
  := fun _ => stripCommas_gap h

theorem strips_char (hquote : c ≠ '"') (hcomma : c ≠ ',') :
  Strips [c] [c]
  := fun _ => stripCommas_plain hquote hcomma

theorem strips_string (h : IsString text) :
  Strips text text
  := by
  obtain ⟨content, hcontent, rfl⟩ := h
  intro rest
  rw [List.cons_append, List.cons_append, List.append_assoc, stripCommas]
  simp [CommaState.after, released, stripCommas_quoted hcontent]

theorem strips_scalar (h : IsScalar text) :
  Strips text text
  := by
  apply Json.turns_word
  intro c hc
  have hscalar := h.2 c hc
  apply strips_char
  all_goals
    rintro rfl
    contradiction

theorem strips_closer (hclose : isCloser close = true) :
  Strips [close] [close]
  := by
  apply strips_char (ne_quote_of_isCloser hclose)
  rintro rfl
  contradiction

/-- A comma before a closing bracket. -/
theorem strips_trailing (hgap : IsGap gap) (hclose : isCloser close = true) :
  Strips (',' :: gap ++ [close]) (gap ++ [close])
  := by
  intro rest
  rw [List.cons_append, List.cons_append, List.append_assoc, List.singleton_append,
    stripCommas_comma hgap (isBlank_of_isCloser hclose), if_pos hclose, List.nil_append,
    stripCommas_gap hgap, ← List.singleton_append, strips_closer hclose]
  simp

/-- A text starts with a character that is neither white space nor a closing bracket, nor a
comma. -/
def Begins (text : List Char) : Prop :=
  ∃ c rest, text = c :: rest ∧ isBlank c = false ∧ isCloser c = false ∧ c ≠ ','

/-- A comma before something else. -/
theorem Begins.strips_comma (h : Begins text) (hgap : IsGap gap) (htext : Strips text text') :
  Strips (',' :: gap ++ text) (',' :: gap ++ text')
  := by
  obtain ⟨c, more, rfl, hblank, hcloser, -⟩ := h
  intro rest
  have hmore := htext rest
  rw [List.cons_append] at hmore
  rw [List.cons_append, List.cons_append, List.append_assoc, List.cons_append,
    stripCommas_comma hgap hblank, hcloser, if_neg (by decide), stripCommas_gap hgap, hmore]
  simp

theorem IsString.begins (h : IsString text) :
  Begins text
  := by
  obtain ⟨content, -, rfl⟩ := h
  exact ⟨'"', _, rfl, by decide, by decide, by decide⟩

theorem IsScalar.begins (h : IsScalar text) :
  Begins text
  := by
  obtain ⟨hne, hall⟩ := h
  cases text with
  | nil => apply (hne rfl).elim
  | cons c rest =>
    have hc := hall c (List.mem_cons_self ..)
    have hmark : c ≠ '}' ∧ c ≠ ']' ∧ c ≠ ',' := by
      refine ⟨?_, ?_, ?_⟩ <;>
      · rintro rfl
        contradiction
    refine ⟨c, rest, rfl, isBlank_of_isScalarChar hc, ?_, hmark.2.2⟩
    simp [isCloser, hmark]

theorem IsValue.begins (h : IsValue levels text) :
  Begins text
  := by
  cases levels with
  | zero =>
    rcases h with h | h
    · apply h.begins
    · apply h.begins
  | succ levels =>
    rcases h with h | h | ⟨members, gap, rest, -, -, rfl⟩ | ⟨elements, gap, rest, -, -, rfl⟩
    · apply h.begins
    · apply h.begins
    · exact ⟨'{', _, rfl, by decide, by decide, by decide⟩
    · exact ⟨'[', _, rfl, by decide, by decide, by decide⟩

theorem IsMember.begins {member : MemberText} (h : IsMember P member text) :
  Begins text
  := by
  obtain ⟨-, -, gap, gap', -, -, rfl⟩ := h
  exact ⟨'"', _, rfl, by decide, by decide, by decide⟩

theorem IsListing.begins (hitem : ∀ a text, item a text → Begins text)
    (h : IsListing item close items text) :
  items = [] ∧ text = [close] ∨ Begins text
  := by
  cases h with
  | empty => exact .inl ⟨rfl, rfl⟩
  | last ha hgap =>
    obtain ⟨c, rest, rfl, hc⟩ := hitem _ _ ha
    right
    exact ⟨c, _, rfl, hc⟩
  | more ha hgap hgap' htail =>
    obtain ⟨c, rest, rfl, hc⟩ := hitem _ _ ha
    right
    exact ⟨c, _, rfl, hc⟩

/-- Items without their trailing commas are items that a function of them describes. -/
def StripsItems (f : α → α) (item : α → List Char → Prop) : Prop :=
  ∀ a text, item a text → Begins text ∧ ∃ text', item (f a) text' ∧ Strips text text'

theorem strips_listing {f : α → α} (hitem : StripsItems f item) (hclose : isCloser close = true)
    (h : IsListing item close items text) :
  ∃ text', IsListing item close (items.map f) text' ∧ Strips text text'
  := by
  have hend := strips_closer hclose
  induction h with
  | empty => use [close], .empty, hend
  | @last a text gap ha hgap =>
    obtain ⟨-, text', ha', hstrips⟩ := hitem a text ha
    use text' ++ gap ++ [close], .last ha' hgap
    apply (hstrips.append (strips_gap hgap)).append hend
  | @more a items text gap gap' rest ha hgap hgap' htail ih =>
    obtain ⟨-, text', ha', hstrips⟩ := hitem a text ha
    have hfront := hstrips.append (strips_gap hgap)
    rcases htail.begins fun a text ha => (hitem a text ha).1 with ⟨rfl, rfl⟩ | hbegins
    · use text' ++ (gap ++ gap') ++ [close]
      constructor
      · apply IsListing.last ha'
        intro c hc
        rcases List.mem_append.mp hc with hc | hc
        · apply hgap c hc
        · apply hgap' c hc
      · have hwhole := hfront.append (strips_trailing hgap' hclose)
        simpa using hwhole
    · obtain ⟨rest', htail', hstrips'⟩ := ih
      use text' ++ gap ++ ',' :: gap' ++ rest', .more ha' hgap hgap' htail'
      have hwhole := hfront.append (hbegins.strips_comma hgap' hstrips')
      simpa using hwhole

theorem strips_enclosed {f : α → α} {first : Char} (hitem : StripsItems f item)
    (hfirst : first ≠ '"' ∧ first ≠ ',') (hclose : isCloser close = true)
    (h : IsEnclosed first close item items text) :
  ∃ text', IsEnclosed first close item (items.map f) text' ∧ Strips text text'
  := by
  obtain ⟨gap, listing, hgap, hlisting, rfl⟩ := h
  obtain ⟨listing', hlisting', hstrips⟩ := strips_listing hitem hclose hlisting
  use first :: gap ++ listing', ⟨gap, listing', hgap, hlisting', rfl⟩
  have hfront := (strips_char hfirst.1 hfirst.2).append (strips_gap hgap)
  apply hfront.append hstrips

/-- The member without the trailing commas of its value. -/
def MemberText.stripped (member : MemberText) : MemberText :=
  { member with value := stripCommas .plain member.value }

/-- The texts of a language without their trailing commas are texts of it. -/
def StripsValues (P : List Char → Prop) : Prop :=
  ∀ text, P text → Begins text ∧ ∃ text', P text' ∧ Strips text text'

theorem stripsItems_element (h : StripsValues P) :
  StripsItems (stripCommas .plain) fun element text => P element ∧ text = element
  := by
  rintro element _ ⟨helement, rfl⟩
  obtain ⟨hbegins, text', htext', hstrips⟩ := h _ helement
  use hbegins, text'
  rw [hstrips.eq]
  exact ⟨⟨htext', rfl⟩, hstrips⟩

theorem stripsItems_member (h : StripsValues P) :
  StripsItems MemberText.stripped (IsMember P)
  := by
  intro member text hmember
  use hmember.begins
  obtain ⟨hname, hvalue, gap, gap', hgap, hgap', rfl⟩ := hmember
  obtain ⟨-, value, hvalue', hstrips⟩ := h _ hvalue
  use '"' :: member.name ++ '"' :: gap ++ ':' :: gap' ++ value
  constructor
  · rw [MemberText.stripped, hstrips.eq]
    exact ⟨hname, hvalue', gap, gap', hgap, hgap', rfl⟩
  · have hstring : Strips ('"' :: member.name ++ ['"']) ('"' :: member.name ++ ['"']) :=
      strips_string ⟨member.name, hname, rfl⟩
    have hcolon : Strips [':'] [':'] := strips_char (by decide) (by decide)
    have hwhole := ((hstring.append (strips_gap hgap)).append hcolon).append
      ((strips_gap hgap').append hstrips)
    simpa using hwhole

theorem strips_object (h : StripsValues (IsValue levels)) {members : List MemberText}
    (hobject : IsObject (IsValue levels) members text) :
  ∃ text', IsObject (IsValue levels) (members.map MemberText.stripped) text' ∧ Strips text text'
  := strips_enclosed (stripsItems_member h) (by decide) (by decide) hobject

theorem strips_value (levels : Nat) :
  StripsValues (IsValue levels)
  := by
  induction levels with
  | zero =>
    intro text h
    use h.begins, text, h
    rcases h with h | h
    · apply strips_string h
    · apply strips_scalar h
  | succ levels ih =>
    intro text h
    use h.begins
    rcases h with h | h | ⟨members, h⟩ | ⟨elements, h⟩
    · use text, .inl h, strips_string h
    · use text, .inr (.inl h), strips_scalar h
    · obtain ⟨text', h', hstrips⟩ := strips_object ih h
      use text', .inr (.inr (.inl ⟨_, h'⟩)), hstrips
    · obtain ⟨text', h', hstrips⟩ :=
        strips_enclosed (stripsItems_element ih) (by decide) (by decide) h
      use text', .inr (.inr (.inr ⟨_, h'⟩)), hstrips

/-- A document without its trailing commas is a document, with their members without theirs. -/
theorem IsDocumentOf.stripped {written : List MemberText} (h : IsDocumentOf written text) :
  IsDocumentOf (written.map MemberText.stripped) (stripCommas .plain text)
  := by
  rcases h with ⟨hgap, rfl⟩ | ⟨before, object, after, hbefore, hobject, hafter, rfl⟩
  · rw [(strips_gap hgap).eq]
    exact .inl ⟨hgap, rfl⟩
  · obtain ⟨object', hobject', hstrips⟩ := strips_object (strips_value 127) hobject
    have hwhole : Strips (before ++ object ++ after) (before ++ object' ++ after) :=
      ((strips_gap hbefore).append hstrips).append (strips_gap hafter)
    rw [hwhole.eq]
    exact .inr ⟨before, object', after, hbefore, hobject', hafter, rfl⟩

/-! ### Texts whose trailing commas have been dropped -/

theorem exists_tail (hcomma : c ≠ ',') (rest : List Char) :
  ∃ tail, stripCommas .plain (c :: rest) = c :: tail
  := by
  use stripCommas (.after c) rest
  simp [stripCommas, released, hcomma]

/-- The first character that is no white space stays the first one, unless it is a comma that is
dropped; then the closing bracket after it becomes the first one. -/
theorem stripCommas_front (text : List Char) :
  IsGap text ∨
    (∃ gap c left tail, IsGap gap ∧ isBlank c = false ∧ text = gap ++ c :: left ∧
      stripCommas .plain (c :: left) = c :: tail ∧
      stripCommas .plain text = gap ++ c :: tail) ∨
    ∃ gap gap' c left tail, IsGap gap ∧ IsGap gap' ∧ isBlank c = false ∧ isCloser c = true ∧
      text = gap ++ ',' :: (gap' ++ c :: left) ∧ stripCommas .plain (c :: left) = c :: tail ∧
      stripCommas .plain text = gap ++ gap' ++ c :: tail
  := by
  rcases exists_gap_or text with htext | ⟨gap, c, left, hgap, hc, rfl⟩
  · exact .inl htext
  right
  rw [stripCommas_gap hgap]
  by_cases hcomma : c = ','
  · subst hcomma
    rcases exists_gap_or left with hleft | ⟨gap', d, left, hgap', hd, rfl⟩
    · left
      refine ⟨gap, ',', _, _, hgap, hc, rfl, stripCommas_comma_end hleft, ?_⟩
      rw [stripCommas_comma_end hleft]
    · have hstrip := @stripCommas_comma d left gap' hgap' hd
      by_cases hcloser : isCloser d = true
      · have hne : d ≠ ',' := by
          rintro rfl
          contradiction
        obtain ⟨tail, htail⟩ := exists_tail hne left
        right
        refine ⟨gap, gap', d, left, tail, hgap, hgap', hd, hcloser, rfl, htail, ?_⟩
        rw [hstrip, if_pos hcloser, List.nil_append, stripCommas_gap hgap', htail,
          List.append_assoc]
      · left
        rw [if_neg hcloser] at hstrip
        refine ⟨gap, ',', _, _, hgap, hc, rfl, hstrip, ?_⟩
        rw [hstrip]
        rfl
  · obtain ⟨tail, htail⟩ := exists_tail hcomma left
    left
    refine ⟨gap, c, left, tail, hgap, hc, rfl, htail, ?_⟩
    rw [htail]

/-- Where the first character that is no white space comes from.  If it closes something, a comma
may have been dropped before it. -/
theorem exists_next (hgap : IsGap gap) (hc : isBlank c = false)
    (h : stripCommas .plain text = gap ++ c :: rest) :
  (∃ left, text = gap ++ c :: left ∧ stripCommas .plain (c :: left) = c :: rest) ∨
    isCloser c = true ∧ ∃ gap₁ gap₂ left, IsGap gap₁ ∧ IsGap gap₂ ∧
      text = gap₁ ++ ',' :: (gap₂ ++ c :: left) ∧ stripCommas .plain (c :: left) = c :: rest
  := by
  rcases stripCommas_front text with htext | ⟨gap', d, left, tail, hgap', hd, rfl, htail, hstrip⟩ |
    ⟨gap₁, gap₂, d, left, tail, hgap₁, hgap₂, hd, hcloser, rfl, htail, hstrip⟩
  · rw [(strips_gap htext).eq] at h
    rw [h] at htext
    apply (not_isGap_append hc htext).elim
  · obtain ⟨rfl, rfl, rfl⟩ := gap_unique hgap hgap' hc hd (h.symm.trans hstrip)
    exact .inl ⟨left, rfl, htail⟩
  · obtain ⟨-, rfl, rfl⟩ := gap_unique hgap (hgap₁.append hgap₂) hc hd (h.symm.trans hstrip)
    exact .inr ⟨hcloser, gap₁, gap₂, left, hgap₁, hgap₂, rfl, htail⟩

/-- A comma that is kept leaves what comes after it as it would be without the comma. -/
theorem stripCommas_kept (h : stripCommas .plain (',' :: text) = ',' :: rest) :
  stripCommas .plain text = rest
  := by
  rcases exists_gap_or text with htext | ⟨gap, c, left, hgap, hc, rfl⟩
  · rw [stripCommas_comma_end htext] at h
    rw [(strips_gap htext).eq]
    apply (List.cons.inj h).2
  · rw [stripCommas_comma hgap hc] at h
    by_cases hcloser : isCloser c = true
    · have hne : c ≠ ',' := by
        rintro rfl
        contradiction
      obtain ⟨tail, htail⟩ := exists_tail hne left
      rw [if_pos hcloser, List.nil_append, stripCommas_gap hgap, htail,
        ← List.nil_append (',' :: _)] at h
      obtain ⟨-, rfl, -⟩ := gap_unique hgap isGap_nil hc (by decide) h
      contradiction
    · rw [if_neg hcloser] at h
      apply (List.cons.inj h).2

/-- A character outside strings leaves what comes after it as it would be without it. -/
theorem stripCommas_after (hquote : c ≠ '"') (h : stripCommas .plain (c :: text) = c :: rest) :
  stripCommas .plain text = rest
  := by
  by_cases hcomma : c = ','
  · subst hcomma
    apply stripCommas_kept h
  · rw [stripCommas_plain hquote hcomma] at h
    apply (List.cons.inj h).2

theorem exists_quoted (h : stripCommas .quoted text = c :: rest) :
  ∃ left, text = c :: left ∧ stripCommas
    (if c == '\\' then .quotedShielded else if c == '"' then .plain else .quoted) left = rest
  := by
  cases text with
  | nil =>
    rw [stripCommas] at h
    · contradiction
    · rintro _ ⟨⟩
  | cons d left =>
    rw [stripCommas] at h
    obtain ⟨rfl, hleft⟩ := List.cons.inj h
    exact ⟨left, rfl, hleft⟩

theorem exists_quotedShielded (h : stripCommas .quotedShielded text = c :: rest) :
  ∃ left, text = c :: left ∧ stripCommas .quoted left = rest
  := by
  cases text with
  | nil =>
    rw [stripCommas] at h
    · contradiction
    · rintro _ ⟨⟩
  | cons d left =>
    rw [stripCommas] at h
    obtain ⟨rfl, hleft⟩ := List.cons.inj h
    exact ⟨left, rfl, hleft⟩

/-- A string comes from the same string. -/
theorem exists_content {content : List Char} (hcontent : IsContent content)
    (h : stripCommas .quoted text = content ++ '"' :: rest) :
  ∃ left, text = content ++ '"' :: left ∧ stripCommas .plain left = rest
  := by
  induction hcontent generalizing text with
  | nil =>
    obtain ⟨left, rfl, hleft⟩ := exists_quoted h
    exact ⟨left, rfl, hleft⟩
  | @plain c content hquote hslash _ ih =>
    obtain ⟨left, rfl, hleft⟩ := exists_quoted h
    simp only [beq_iff_eq, hslash, hquote, if_false] at hleft
    obtain ⟨last, rfl, hlast⟩ := ih hleft
    exact ⟨last, rfl, hlast⟩
  | @escape c content _ ih =>
    obtain ⟨shielded, rfl, hshielded⟩ := exists_quoted h
    obtain ⟨left, rfl, hleft⟩ := exists_quotedShielded hshielded
    obtain ⟨last, rfl, hlast⟩ := ih hleft
    exact ⟨last, rfl, hlast⟩

theorem exists_string (hused : IsString used) (h : stripCommas .plain text = used ++ rest) :
  ∃ left, text = used ++ left ∧ stripCommas .plain left = rest
  := by
  obtain ⟨content, hcontent, rfl⟩ := hused
  rw [List.append_assoc, List.cons_append, ← List.nil_append ('"' :: _)] at h
  rcases exists_next isGap_nil (by decide) h with ⟨left, rfl, hleft⟩ | ⟨hcloser, -⟩
  · rw [stripCommas] at hleft
    obtain ⟨last, rfl, hlast⟩ := exists_content hcontent (List.cons.inj hleft).2
    use last
    simp [hlast]
  · contradiction

/-- A character that neither opens a string nor closes anything comes from itself, with the white
space before it. -/
theorem exists_char (hgap : IsGap gap) (hc : isBlank c = false) (hcloser : isCloser c = false)
    (hquote : c ≠ '"') (h : stripCommas .plain text = gap ++ c :: rest) :
  ∃ left, text = gap ++ c :: left ∧ stripCommas .plain left = rest
  := by
  rcases exists_next hgap hc h with ⟨left, rfl, hleft⟩ | ⟨hcloser', -⟩
  · exact ⟨left, rfl, stripCommas_after hquote hleft⟩
  · rw [hcloser] at hcloser'
    contradiction

theorem exists_scalar (hused : ∀ c ∈ used, isScalarChar c = true)
    (h : stripCommas .plain text = used ++ rest) :
  ∃ left, text = used ++ left ∧ stripCommas .plain left = rest
  := by
  induction used generalizing text with
  | nil => exact ⟨text, rfl, h⟩
  | cons c used ih =>
    have hscalar : IsScalar [c] := ⟨by simp, by simpa using hused c (List.mem_cons_self ..)⟩
    obtain ⟨_, _, heq, hblank, hcloser, -⟩ := hscalar.begins
    obtain ⟨rfl, rfl⟩ := List.cons.inj heq
    have hquote : c ≠ '"' := by
      rintro rfl
      have hc := hscalar.2 _ (List.mem_singleton_self _)
      contradiction
    obtain ⟨left, rfl, hleft⟩ := exists_char isGap_nil hblank hcloser hquote h
    rw [List.forall_mem_cons] at hused
    obtain ⟨last, rfl, hlast⟩ := ih hused.2 hleft
    exact ⟨last, rfl, hlast⟩

/-! ### Stray commas -/

/-- Some comma outside strings comes before a closing bracket, but not after an item: only white
space stands between it and an opening bracket or a comma before it. -/
def HasStrayComma (text : List Char) : Prop :=
  ∃ front first gap gap' close rest, Unquoted front ∧ isItemStart first = true ∧ IsGap gap ∧
    IsGap gap' ∧ isCloser close = true ∧
    text = front ++ first :: (gap ++ ',' :: (gap' ++ close :: rest))

variable {whole front : List Char} {first : Char}

/-- A text of the language that is left when the trailing commas of a part of the whole are
dropped comes from a text of the language. -/
def Restores (whole : List Char) (P : List Char → Prop) : Prop :=
  ∀ front text used rest, whole = front ++ text → Unquoted front → P used →
    stripCommas .plain text = used ++ rest →
    ∃ used' left, text = used' ++ left ∧ P used' ∧ stripCommas .plain left = rest

theorem Unquoted.itemStart (h : Unquoted front) (hfirst : isItemStart first = true) :
  Unquoted (front ++ [first])
  := by
  apply h.concat
  rintro rfl
  contradiction

/-- A text of the language that comes after white space. -/
theorem Restores.after_gap (h : Restores whole P) (hbegins : Begins used) (hused : P used)
    (htext : whole = front ++ text) (hfront : Unquoted front) (hgap : IsGap gap)
    (hstrip : stripCommas .plain text = gap ++ (used ++ rest)) :
  ∃ used' left, text = gap ++ (used' ++ left) ∧ P used' ∧ stripCommas .plain left = rest
  := by
  obtain ⟨c, more, rfl, hblank, hcloser, -⟩ := hbegins
  rcases exists_next hgap hblank hstrip with ⟨left, rfl, hleft⟩ | ⟨hcloser', -⟩
  · obtain ⟨used', last, heq, hused', hlast⟩ := h (front ++ gap) (c :: left) (c :: more) rest
      (by simpa using htext) (hfront.append hgap.unquoted) hused hleft
    rw [heq]
    exact ⟨used', last, rfl, hused', hlast⟩
  · rw [hcloser] at hcloser'
    contradiction

/-- Items come from items.  A closing bracket after an item may have lost a comma before it; one
that comes first, or after a comma, has not, since that comma would be stray. -/
theorem restores_listing (hwhole : ¬ HasStrayComma whole) (hclose : isCloser close = true)
    (hbegins : ∀ a text, item a text → Begins text)
    (hunquoted : ∀ a text, item a text → Unquoted text)
    (hitem : Restores whole fun text => ∃ a, item a text)
    (htext : whole = front ++ first :: text) (hfront : Unquoted front)
    (hfirst : isItemStart first = true) (hgap : IsGap gap)
    (hlisting : IsListing item close items used)
    (h : stripCommas .plain text = gap ++ (used ++ rest)) :
  ∃ used' left items', text = gap ++ (used' ++ left) ∧ IsListing item close items' used' ∧
    stripCommas .plain left = rest
  := by
  have hblank := isBlank_of_isCloser hclose
  have hquote := ne_quote_of_isCloser hclose
  induction hlisting generalizing front first text gap with
  | empty =>
    rcases exists_next hgap hblank h with ⟨left, rfl, hleft⟩ |
      ⟨-, gap₁, gap₂, left, hgap₁, hgap₂, rfl, -⟩
    · exact ⟨[close], left, [], rfl, .empty, stripCommas_after hquote hleft⟩
    · -- the comma that was dropped here is stray
      exact (hwhole ⟨front, first, gap₁, gap₂, close, left, hfront, hfirst, hgap₁, hgap₂, hclose,
        htext⟩).elim
  | @last a used gap' ha hgap' =>
    have htext' : whole = front ++ [first] ++ text := by simpa using htext
    rw [List.append_assoc, List.append_assoc, List.singleton_append] at h
    obtain ⟨used', left, rfl, ⟨a', ha'⟩, hleft⟩ := hitem.after_gap (hbegins a used ha) ⟨a, ha⟩
      htext' (hfront.itemStart hfirst) hgap h
    rcases exists_next hgap' hblank hleft with ⟨last, rfl, hlast⟩ |
      ⟨-, gap₁, gap₂, last, hgap₁, hgap₂, rfl, hlast⟩
    · refine ⟨used' ++ gap' ++ [close], last, [a'], ?_, .last ha' hgap',
        stripCommas_after hquote hlast⟩
      simp
    · -- the comma that was dropped here is the one that the grammar allows
      refine ⟨used' ++ gap₁ ++ ',' :: gap₂ ++ [close], last, [a'], ?_,
        .more ha' hgap₁ hgap₂ .empty, stripCommas_after hquote hlast⟩
      simp
  | @more a items used gap' gap'' rest' ha hgap' hgap'' htail ih =>
    have htext' : whole = front ++ [first] ++ text := by simpa using htext
    simp only [List.append_assoc, List.cons_append] at h
    obtain ⟨used', left, rfl, ⟨a', ha'⟩, hleft⟩ := hitem.after_gap (hbegins a used ha) ⟨a, ha⟩
      htext' (hfront.itemStart hfirst) hgap h
    obtain ⟨after, rfl, hafter⟩ := exists_char hgap' (by decide) (by decide) (by decide) hleft
    have hbefore : Unquoted (front ++ [first] ++ gap ++ used' ++ gap') :=
      (((hfront.itemStart hfirst).append hgap.unquoted).append (hunquoted a' used' ha')).append
        hgap'.unquoted
    obtain ⟨used'', last, items', rfl, hitems', hlast⟩ :=
      ih (by simpa using htext) hbefore (by decide) hgap'' hafter
    refine ⟨used' ++ gap' ++ ',' :: gap'' ++ used'', last, a' :: items', ?_,
      .more ha' hgap' hgap'' hitems', hlast⟩
    simp

theorem restores_enclosed (hwhole : ¬ HasStrayComma whole) (hclose : isCloser close = true)
    (hbegins : ∀ a text, item a text → Begins text)
    (hunquoted : ∀ a text, item a text → Unquoted text)
    (hitem : Restores whole fun text => ∃ a, item a text) (hfirst : first = '{' ∨ first = '[') :
  Restores whole fun text => ∃ items, IsEnclosed first close item items text
  := by
  rintro front text _ rest htext hfront ⟨items, gap, listing, hgap, hlisting, rfl⟩ h
  rw [List.append_assoc, List.cons_append] at h
  have hmark : isBlank first = false ∧ isCloser first = false ∧ first ≠ '"' ∧
      isItemStart first = true := by
    rcases hfirst with rfl | rfl <;> decide
  obtain ⟨hblank, hcloser, hquote, hstart⟩ := hmark
  obtain ⟨text, rfl, hleft⟩ := exists_char isGap_nil hblank hcloser hquote h
  obtain ⟨listing', left, items', rfl, hlisting', hleft⟩ := restores_listing hwhole hclose hbegins
    hunquoted hitem htext hfront hstart hgap hlisting hleft
  use first :: gap ++ listing', left
  refine ⟨?_, ⟨items', gap, listing', hgap, hlisting', rfl⟩, hleft⟩
  simp

theorem restores_member (hvalue : Restores whole P) (hbegins : ∀ text, P text → Begins text) :
  Restores whole fun text => ∃ member, IsMember P member text
  := by
  rintro front text _ rest htext hfront ⟨member, hname, hraw, gap, gap', hgap, hgap', rfl⟩ h
  have hstring : IsString ('"' :: member.name ++ ['"']) := ⟨member.name, hname, rfl⟩
  have hstrip : stripCommas .plain text =
      ('"' :: member.name ++ ['"']) ++ (gap ++ ':' :: (gap' ++ (member.value ++ rest))) := by
    simpa using h
  obtain ⟨afterName, rfl, hafterName⟩ := exists_string hstring hstrip
  obtain ⟨afterColon, rfl, hafterColon⟩ :=
    exists_char hgap (by decide) (by decide) (by decide) hafterName
  have hbefore : Unquoted (front ++ ('"' :: member.name ++ ['"']) ++ gap ++ [':']) :=
    ((hfront.append hstring.unquoted).append hgap.unquoted).concat (by decide)
  obtain ⟨value, left, rfl, hvalue', hleft⟩ := hvalue.after_gap (hbegins _ hraw) hraw
    (by simpa using htext) hbefore hgap' hafterColon
  use '"' :: member.name ++ '"' :: gap ++ ':' :: gap' ++ value, left
  refine ⟨?_, ⟨⟨member.name, value⟩, hname, hvalue', gap, gap', hgap, hgap', rfl⟩, hleft⟩
  simp

theorem restores_object (hwhole : ¬ HasStrayComma whole) (h : Restores whole (IsValue levels)) :
  Restores whole fun text => ∃ members, IsObject (IsValue levels) members text
  := by
  apply restores_enclosed hwhole (by decide) _ _ _ (.inl rfl)
  · intro member text hmember
    apply hmember.begins
  · intro member text hmember
    apply hmember.unquoted fun _ => IsValue.unquoted
  · apply restores_member h fun _ => IsValue.begins

theorem restores_array (hwhole : ¬ HasStrayComma whole) (h : Restores whole (IsValue levels)) :
  Restores whole fun text => ∃ elements, IsArray (IsValue levels) elements text
  := by
  apply restores_enclosed hwhole (by decide) _ _ _ (.inr rfl)
  · rintro element _ ⟨helement, rfl⟩
    apply helement.begins
  · rintro element _ ⟨helement, rfl⟩
    apply helement.unquoted
  · rintro front text used rest htext hfront ⟨_, hused, rfl⟩ hstrip
    obtain ⟨used', left, hused', helement, hleft⟩ :=
      h front text used rest htext hfront hused hstrip
    exact ⟨used', left, hused', ⟨used', helement, rfl⟩, hleft⟩

theorem restores_value (hwhole : ¬ HasStrayComma whole) (levels : Nat) :
  Restores whole (IsValue levels)
  := by
  induction levels with
  | zero =>
    rintro front text used rest - - (h | h) hstrip
    · obtain ⟨left, rfl, hleft⟩ := exists_string h hstrip
      exact ⟨used, left, rfl, .inl h, hleft⟩
    · obtain ⟨left, rfl, hleft⟩ := exists_scalar h.2 hstrip
      exact ⟨used, left, rfl, .inr h, hleft⟩
  | succ levels ih =>
    rintro front text used rest htext hfront (h | h | h | h) hstrip
    · obtain ⟨left, rfl, hleft⟩ := exists_string h hstrip
      exact ⟨used, left, rfl, .inl h, hleft⟩
    · obtain ⟨left, rfl, hleft⟩ := exists_scalar h.2 hstrip
      exact ⟨used, left, rfl, .inr (.inl h), hleft⟩
    · obtain ⟨used', left, hused', hobject, hleft⟩ :=
        restores_object hwhole ih front text used rest htext hfront h hstrip
      exact ⟨used', left, hused', .inr (.inr (.inl hobject)), hleft⟩
    · obtain ⟨used', left, hused', harray, hleft⟩ :=
        restores_array hwhole ih front text used rest htext hfront h hstrip
      exact ⟨used', left, hused', .inr (.inr (.inr harray)), hleft⟩

theorem isGap_of_stripCommas (h : IsGap (stripCommas .plain text)) :
  IsGap text
  := by
  rcases stripCommas_front text with htext | ⟨gap, c, left, tail, -, hc, -, -, hstrip⟩ |
    ⟨gap, gap', c, left, tail, -, -, hc, -, -, -, hstrip⟩
  · apply htext
  · rw [hstrip] at h
    apply (not_isGap_append hc h).elim
  · rw [hstrip] at h
    apply (not_isGap_append hc h).elim

/-- A text without stray commas is a document if it is one without its trailing commas. -/
theorem exists_isDocumentOf_of_stripped {written : List MemberText}
    (hstray : ¬ HasStrayComma text) (h : IsDocumentOf written (stripCommas .plain text)) :
  ∃ written, IsDocumentOf written text
  := by
  rcases h with ⟨hgap, -⟩ | ⟨before, object, after, hbefore, hobject, hafter, hstrip⟩
  · exact ⟨[], .inl ⟨isGap_of_stripCommas hgap, rfl⟩⟩
  · have hbegins : Begins object := by
      obtain ⟨gap, listing, -, -, rfl⟩ := hobject
      exact ⟨'{', _, rfl, by decide, by decide, by decide⟩
    rw [List.append_assoc] at hstrip
    obtain ⟨object', left, rfl, ⟨members, hmembers⟩, hleft⟩ :=
      (restores_object hstray (restores_value hstray 127)).after_gap hbegins ⟨written, hobject⟩
        (List.nil_append _).symm .nil hbefore hstrip
    have hleft' : IsGap left := by
      apply isGap_of_stripCommas
      rw [hleft]
      apply hafter
    refine ⟨members, .inr ⟨before, object', left, hbefore, hmembers, hleft', ?_⟩⟩
    rw [List.append_assoc]

/-! ### Both ways to allow a trailing comma -/

theorem HasStrayComma.not_isDocumentOf {written : List MemberText} (h : HasStrayComma text) :
  ¬ IsDocumentOf written text
  := by
  obtain ⟨front, first, gap, gap', close, rest, hfront, hfirst, hgap, -, -, rfl⟩ := h
  intro hdocument
  apply not_stray_comma hdocument hfront hfirst hgap

theorem isContainer_stripped {member : MemberText} (h : Begins member.value) :
  member.stripped.isContainer = member.isContainer
  := by
  obtain ⟨c, rest, hvalue, -, -, hcomma⟩ := h
  obtain ⟨tail, htail⟩ := exists_tail hcomma rest
  simp only [MemberText.isContainer, MemberText.stripped, hvalue, htail, opensBracket,
    List.head?_cons]

/-- The texts that the members add to the sections lose their trailing commas. -/
theorem capturedItems_stripped {written : List MemberText}
    (h : ∀ member ∈ written, Begins member.value) :
  capturedItems (written.map MemberText.stripped) =
    (capturedItems written).map fun item => (item.1, withoutTrailingCommas item.2)
  := by
  have hcontainer : written.filter (MemberText.isContainer ∘ MemberText.stripped) =
      written.filter MemberText.isContainer := by
    apply List.filter_congr
    intro member hmember
    apply isContainer_stripped (h member hmember)
  have hitem : ∀ member : MemberText, (member.stripped.key, member.stripped.raw) =
      (member.key, withoutTrailingCommas member.raw) := by
    intro member
    simp only [MemberText.key, MemberText.raw, MemberText.stripped, withoutTrailingCommas,
      String.toList_ofList]
  rw [capturedItems, List.filter_map, hcontainer, capturedItems, List.map_map, List.map_map]
  apply List.map_congr_left
  intro member _
  apply hitem

/-- A text is accepted as it stands exactly if it is accepted without its trailing commas and none
of its commas is stray.  Then it has the same names of sections either way, and each fragment loses
its trailing commas. -/
theorem scan_withoutTrailingCommas (text : String) :
  ((scan text).isOk = true ↔
    (scan (withoutTrailingCommas text)).isOk = true ∧ ¬ HasStrayComma text.toList) ∧
  ∀ sections, scan text = .ok sections →
    ∃ stripped, scan (withoutTrailingCommas text) = .ok stripped ∧
      stripped.names = sections.names ∧
      ∀ key, stripped.fragments key = (sections.fragments key).map withoutTrailingCommas
  := by
  have hstripped {written : List MemberText} (h : IsDocumentOf written text.toList) :
      IsDocumentOf (written.map MemberText.stripped) (withoutTrailingCommas text).toList := by
    rw [withoutTrailingCommas, String.toList_ofList]
    apply h.stripped
  constructor
  · rw [isOk_scan_iff_exists, isOk_scan_iff_exists]
    constructor
    · rintro ⟨written, h⟩
      exact ⟨⟨_, hstripped h⟩, fun hstray => hstray.not_isDocumentOf h⟩
    · rintro ⟨⟨written, h⟩, hstray⟩
      rw [withoutTrailingCommas, String.toList_ofList] at h
      apply exists_isDocumentOf_of_stripped hstray h
  · intro sections hsections
    obtain ⟨written, hwritten, rfl⟩ := exists_isDocumentOf hsections
    have hbegins : ∀ member ∈ written, Begins member.value := by
      intro member hmember
      apply (hwritten.isValue member hmember).begins
    refine ⟨_, scan_of_isDocumentOf (hstripped hwritten), ?_, ?_⟩
    · rw [capturedItems_stripped hbegins, Sections.names_pushAll_map]
    · intro key
      rw [capturedItems_stripped hbegins, Sections.fragments_pushAll_map]

/-- A comma after a comma, or right after an opening bracket, is dropped before a closing bracket,
and what the scanner rejects as it stands is accepted as a document. -/
theorem parse_stray_comma :
  ((scan "\x7b\"add\": [1,,]\x7d").isOk = false ∧
    scan (withoutTrailingCommas "\x7b\"add\": [1,,]\x7d") = .ok ⟨[("add", ["[1,]"])]⟩ ∧
    parse "\x7b\"add\": [1,,]\x7d" = .ok ⟨[("add", ["[1,]"])]⟩) ∧
  (scan "\x7b,\x7d").isOk = false ∧ scan (withoutTrailingCommas "\x7b,\x7d") = .ok ⟨[]⟩ ∧
    parse "\x7b,\x7d" = .ok ⟨[]⟩
  := by
  decide +kernel

end LumpRules.Document
