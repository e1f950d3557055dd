import LumpRules.Proofs.Document.Quotes

/-!
# Levels of nesting

How deep a place of a text is nested is told by the text before it: outside strings, each opening
bracket leads one level down and each closing bracket one level up.  `Reaches` says where a text
leads, and that it never goes below some level on its way.  A value whose objects and arrays nest at
most `levels` deep leads back to its level without going further down than that
(`IsValue.reaches`).
-/

namespace LumpRules.Document

open Text

/-- Whether a character opens an object or an array. -/
def isOpener (c : Char) : Bool :=
  c == '{' || c == '['

/-- How a place of a text is nested: where it stands among the strings, and in how many objects and
arrays. -/
structure Nesting where
  quotes : QuoteState := .outside
  level : Nat := 0
  deriving DecidableEq, Repr

namespace Nesting

/-- The nesting after one more character. -/
def step (nesting : Nesting) (c : Char) : Nesting where
  quotes := nesting.quotes.step c
  level :=
    if nesting.quotes ≠ .outside then nesting.level
    else if isOpener c then nesting.level + 1
    else if isCloser c then nesting.level - 1
    else nesting.level

/-- The nesting after a text. -/
def after (nesting : Nesting) (text : List Char) : Nesting :=
  text.foldl step nesting

end Nesting

/-- Outside strings, in some number of objects and arrays. -/
abbrev Nesting.at (level : Nat) : Nesting := { level }

/-- From one nesting a text leads to another one, and at no place on the way are more than `limit`
objects and arrays open. -/
structure Reaches (limit : Nat) (start : Nesting) (text : List Char) (finish : Nesting) : Prop where
  after_eq : start.after text = finish
  bounded : ∀ used, used <+: text → (start.after used).level ≤ limit

variable {c : Char} {text rest content gap : List Char} {limit n levels : Nat}
  {start middle finish : Nesting}

namespace Reaches

theorem nil (h : start.level ≤ limit) :
  Reaches limit start [] start
  where
  after_eq := rfl
  bounded used hused := by
    rw [List.prefix_nil.mp hused]
    exact h

theorem cons (h : start.level ≤ limit) (hrest : Reaches limit (start.step c) rest finish) :
  Reaches limit start (c :: rest) finish
  where
  after_eq := hrest.after_eq
  bounded used hused := by
    rcases List.prefix_cons_iff.mp hused with rfl | ⟨tail, rfl, htail⟩
    · exact h
    · exact hrest.bounded tail htail

theorem le_start (h : Reaches limit start text finish) :
  start.level ≤ limit
  := h.bounded [] List.nil_prefix

theorem append (h : Reaches limit start text middle) (h' : Reaches limit middle rest finish) :
  Reaches limit start (text ++ rest) finish
  := by
  induction text generalizing start with
  | nil =>
    obtain rfl := h.after_eq
    exact h'
  | cons c text ih =>
    apply Reaches.cons h.le_start
    apply ih
    constructor
    · exact h.after_eq
    · intro used hused
      exact h.bounded (c :: used) (List.cons_prefix_cons.mpr ⟨rfl, hused⟩)

end Reaches

/-- A text ends right after the first bracket that opens more than `limit` objects and arrays. -/
def Overruns (limit : Nat) (start : Nesting) (text : List Char) : Prop :=
  ∃ front bracket, text = front ++ [bracket] ∧ isOpener bracket = true ∧
    Reaches limit start front (.at limit)

/-- It is still the first one if the limit is kept on the way to where the text starts. -/
theorem Overruns.prepend (h : Overruns limit middle rest)
    (hfront : Reaches limit start text middle) :
  Overruns limit start (text ++ rest)
  := by
  obtain ⟨front, bracket, rfl, hbracket, hreach⟩ := h
  use text ++ front, bracket
  rw [List.append_assoc]
  exact ⟨rfl, hbracket, hfront.append hreach⟩

/-! ### Values -/

/-- The characters by which nesting changes. -/
def turningChars : List Char :=
  ['"', '{', '[', '}', ']']

theorem reaches_char (hc : c ∉ turningChars) (hn : n ≤ limit) :
  Reaches limit (.at n) [c] (.at n)
  := by
  simp only [turningChars, List.mem_cons, List.not_mem_nil, or_false, not_or] at hc
  obtain ⟨hquote, hbrace, hbracket, hbrace', hbracket'⟩ := hc
  have hopener : isOpener c = false := by
    simp [isOpener, hbrace, hbracket]
  have hcloser : isCloser c = false := by
    simp [← Bool.not_eq_true, isCloser_iff, hbrace', hbracket']
  have hstep : (Nesting.at n).step c = .at n := by
    simp [Nesting.step, QuoteState.step_outside hquote, hopener, hcloser]
  apply Reaches.cons hn
  rw [hstep]
  apply Reaches.nil hn

theorem reaches_opener (h : isOpener c = true) (hn : n < limit) :
  Reaches limit (.at n) [c] (.at (n + 1))
  := by
  have hquote : c ≠ '"' := by
    rintro rfl
    contradiction
  have hstep : (Nesting.at n).step c = .at (n + 1) := by
    simp [Nesting.step, QuoteState.step_outside hquote, h]
  apply Reaches.cons hn.le
  rw [hstep]
  apply Reaches.nil hn

theorem reaches_closer (h : isCloser c = true) (hn : n < limit) :
  Reaches limit (.at (n + 1)) [c] (.at n)
  := by
  have hopener : isOpener c = false := by
    rcases isCloser_iff.mp h with rfl | rfl <;> rfl
  have hstep : (Nesting.at (n + 1)).step c = .at n := by
    simp [Nesting.step, QuoteState.step_outside (ne_quote_of_isCloser h), h, hopener]
  apply Reaches.cons hn
  rw [hstep]
  apply Reaches.nil hn.le

/-- Characters of a kind that has none of those. -/
theorem reaches_word {p : Char → Bool} (hp : (turningChars.all fun c => !p c) = true)
    (htext : ∀ c ∈ text, p c = true) (hn : n ≤ limit) :
  Reaches limit (.at n) text (.at n)
  := by
  induction text with
  | nil => exact .nil hn
  | cons c text ih =>
    rw [List.forall_mem_cons] at htext
    have hc : c ∉ turningChars := by
      intro hmem
      have hnot := List.all_eq_true.mp hp c hmem
      simp [htext.1] at hnot
    exact (reaches_char hc hn).append (ih htext.2)

theorem IsGap.reaches (h : IsGap gap) (hn : n ≤ limit) :
  Reaches limit (.at n) gap (.at n)
  := reaches_word rfl h hn

theorem IsScalar.reaches (h : IsScalar text) (hn : n ≤ limit) :
  Reaches limit (.at n) text (.at n)
  := reaches_word rfl h.2 hn

/-- No bracket inside a string counts. -/
theorem reaches_content (h : IsContent content) (hn : n ≤ limit) :
  Reaches limit ⟨.inside, n⟩ content ⟨.inside, n⟩
  := by
  induction h with
  | nil => exact .nil hn
  | @plain c rest hquote hslash _ ih =>
    apply Reaches.cons hn
    have hstep : (Nesting.mk .inside n).step c = ⟨.inside, n⟩ := by
      simp [Nesting.step, QuoteState.step, hquote, hslash]
    rwa [hstep]
  | escape _ ih =>
    apply Reaches.cons hn
    apply Reaches.cons hn ih

theorem reaches_quoted (h : IsContent content) (hn : n ≤ limit) :
  Reaches limit (.at n) ('"' :: content ++ ['"']) (.at n)
  := by
  have hopen : Reaches limit (.at n) ['"'] ⟨.inside, n⟩ := .cons hn (.nil hn)
  have hclose : Reaches limit ⟨.inside, n⟩ ['"'] (.at n) := .cons hn (.nil hn)
  exact (hopen.append (reaches_content h hn)).append hclose

/-- Items that lead back to their level lead, up to the bracket that closes them, to the level
above. -/
theorem IsListing.reaches {α : Type} {item : α → List Char → Prop} {close : Char} {items : List α}
    (hitem : ∀ a text, item a text → Reaches limit (.at (n + 1)) text (.at (n + 1)))
    (hclose : isCloser close = true) (hn : n < limit) (h : IsListing item close items text) :
  Reaches limit (.at (n + 1)) text (.at n)
  := by
  have hend := reaches_closer hclose hn
  induction h with
  | empty => exact hend
  | last ha hgap => exact ((hitem _ _ ha).append (hgap.reaches hn)).append hend
  | more ha hgap hgap' _ ih =>
    have hcomma : Reaches limit (.at (n + 1)) [','] (.at (n + 1)) :=
      reaches_char (by decide) hn
    have hfront := ((hitem _ _ ha).append (hgap.reaches hn)).append hcomma
    simpa using (hfront.append (hgap'.reaches hn)).append ih

theorem IsEnclosed.reaches {α : Type} {item : α → List Char → Prop} {first close : Char}
    {items : List α}
    (hitem : ∀ a text, item a text → Reaches limit (.at (n + 1)) text (.at (n + 1)))
    (hfirst : isOpener first = true) (hclose : isCloser close = true) (hn : n < limit)
    (h : IsEnclosed first close item items text) :
  Reaches limit (.at n) text (.at n)
  := by
  obtain ⟨gap, listing, hgap, hlisting, rfl⟩ := h
  exact ((reaches_opener hfirst hn).append (hgap.reaches hn)).append
    (hlisting.reaches hitem hclose hn)

/-- The name of a member, up to its value. -/
theorem reaches_name {gap' : List Char} (h : IsContent content) (hgap : IsGap gap)
    (hgap' : IsGap gap') (hn : n ≤ limit) :
  Reaches limit (.at n) ('"' :: content ++ '"' :: gap ++ ':' :: gap') (.at n)
  := by
  have hcolon : Reaches limit (.at n) [':'] (.at n) := reaches_char (by decide) hn
  simpa using (((reaches_quoted h hn).append (hgap.reaches hn)).append hcolon).append
    (hgap'.reaches hn)

theorem IsMember.reaches {P : List Char → Prop} {member : MemberText}
    (hvalue : ∀ text, P text → Reaches limit (.at n) text (.at n)) (hn : n ≤ limit)
    (h : IsMember P member text) :
  Reaches limit (.at n) text (.at n)
  := by
  obtain ⟨hname, hraw, gap, gap', hgap, hgap', rfl⟩ := h
  simpa using (reaches_name hname hgap hgap' hn).append (hvalue _ hraw)

theorem reaches_flat (h : IsString text ∨ IsScalar text) (hn : n ≤ limit) :
  Reaches limit (.at n) text (.at n)
  := by
  rcases h with ⟨content, hcontent, rfl⟩ | hscalar
  · exact reaches_quoted hcontent hn
  · exact hscalar.reaches hn

/-- A value leads back to its level, and goes down by no more levels than its objects and arrays
nest. -/
theorem IsValue.reaches (h : IsValue levels text) (hn : n + levels ≤ limit) :
  Reaches limit (.at n) text (.at n)
  := by
  induction levels generalizing n text with
  | zero => exact reaches_flat h hn
  | succ levels ih =>
    have hinner : ∀ text, IsValue levels text →
        Reaches limit (.at (n + 1)) text (.at (n + 1)) := by
      intro text htext
      apply ih htext (by omega)
    rcases h with hstring | hscalar | ⟨members, hobject⟩ | ⟨elements, harray⟩
    · exact reaches_flat (.inl hstring) (by omega)
    · exact reaches_flat (.inr hscalar) (by omega)
    · apply IsEnclosed.reaches _ rfl rfl (by omega) hobject
      intro member text hmember
      apply hmember.reaches hinner (by omega)
    · apply IsEnclosed.reaches _ rfl rfl (by omega) harray
      rintro element text ⟨helement, rfl⟩
      apply hinner text helement

end LumpRules.Document
