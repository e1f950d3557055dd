import LumpRules.Document.Commas
import LumpRules.Proofs.Document.Capture
import LumpRules.Proofs.Json.Token

/-!
# Neighbouring tokens

Which tokens may stand next to each other in a document can be told without regard to what closes
what.  `Place.step` reads a text character by character and remembers only whether a value may come
next, has just ended, or may go on; `passes_document` says that it reads every document to the end.
So a document has no comma right after an opening bracket or another comma (`not_stray_comma`), and
no white space between two scalars (`not_parted_scalars`), where strings do not count: `Unquoted`
texts are those after which one is outside all strings.
-/

namespace LumpRules.Document

open Text

variable {c : Char} {text text' gap front rest content : List Char} {levels : Nat}

/-! ### White space -/

theorem exists_gap_or (text : List Char) :
  IsGap text ∨ ∃ gap c rest, IsGap gap ∧ isBlank c = false ∧ text = gap ++ c :: rest
  := by
  induction text with
  | nil => exact .inl isGap_nil
  | cons d text ih =>
    by_cases hd : isBlank d = true
    · rcases ih with hgap | ⟨gap, c, rest, hgap, hc, rfl⟩
      · exact .inl (List.forall_mem_cons.mpr ⟨hd, hgap⟩)
      · exact .inr ⟨d :: gap, c, rest, List.forall_mem_cons.mpr ⟨hd, hgap⟩, hc, rfl⟩
    · exact .inr ⟨[], d, text, isGap_nil, Bool.of_not_eq_true hd, rfl⟩

/-- The first character that is no white space, and the white space before it, are determined. -/
theorem gap_unique {gap' rest' : List Char} {c' : Char} (hgap : IsGap gap) (hgap' : IsGap gap')
    (hc : isBlank c = false) (hc' : isBlank c' = false)
    (h : gap ++ c :: rest = gap' ++ c' :: rest') :
  gap = gap' ∧ c = c' ∧ rest = rest'
  := by
  have hspan : ∀ {gap rest : List Char} {c : Char}, IsGap gap → isBlank c = false →
      (gap ++ c :: rest).takeWhile isBlank = gap ∧
        (gap ++ c :: rest).dropWhile isBlank = c :: rest :=
    fun hgap hc => takeWhile_lacks hgap (lacks_cons hc)
  obtain ⟨htake, hdrop⟩ := hspan hgap hc
  rw [h, (hspan hgap' hc').1] at htake
  rw [h, (hspan hgap' hc').2] at hdrop
  refine ⟨htake.symm, ?_⟩
  apply List.cons.inj hdrop.symm

theorem IsGap.append {gap' : List Char} (h : IsGap gap) (h' : IsGap gap') :
  IsGap (gap ++ gap')
  := List.forall_mem_append.mpr ⟨h, h'⟩

theorem not_isGap_append (hc : isBlank c = false) :
  ¬ IsGap (front ++ c :: rest)
  := by
  intro h
  rw [h c (by simp)] at hc
  contradiction

/-! ### Closing brackets -/

theorem isCloser_iff :
  isCloser c = true ↔ c = '}' ∨ c = ']'
  := by
  simp [isCloser]

theorem isBlank_of_isCloser (h : isCloser c = true) :
  isBlank c = false
  := by
  rcases isCloser_iff.mp h with rfl | rfl <;> decide

theorem ne_quote_of_isCloser (h : isCloser c = true) :
  c ≠ '"'
  := by
  rintro rfl
  contradiction

/-! ### Texts that end outside strings -/

/-- A text of strings and of characters other than quotes. -/
inductive Unquoted : List Char → Prop where
  | nil : Unquoted []
  | char {c : Char} {rest : List Char} : c ≠ '"' → Unquoted rest → Unquoted (c :: rest)
  | string {content rest : List Char} :
      IsContent content → Unquoted rest → Unquoted ('"' :: (content ++ '"' :: rest))

namespace Unquoted

theorem append (h : Unquoted text) (h' : Unquoted text') :
  Unquoted (text ++ text')
  := by
  induction h with
  | nil => apply h'
  | char hc _ ih => apply Unquoted.char hc ih
  | string hcontent _ ih =>
    rw [List.cons_append, List.append_assoc, List.cons_append]
    apply Unquoted.string hcontent ih

theorem of_forall (h : ∀ c ∈ text, c ≠ '"') :
  Unquoted text
  := by
  induction text with
  | nil => apply Unquoted.nil
  | cons c rest ih =>
    rw [List.forall_mem_cons] at h
    apply Unquoted.char h.1 (ih h.2)

theorem concat (h : Unquoted text) (hc : c ≠ '"') :
  Unquoted (text ++ [c])
  := h.append (.char hc .nil)

end Unquoted

theorem IsGap.unquoted (h : IsGap gap) :
  Unquoted gap
  := by
  apply Unquoted.of_forall
  rintro c hc rfl
  have hblank := h _ hc
  contradiction

theorem IsScalar.unquoted (h : IsScalar text) :
  Unquoted text
  := by
  apply Unquoted.of_forall
  rintro c hc rfl
  have hscalar := h.2 _ hc
  contradiction

theorem IsString.unquoted (h : IsString text) :
  Unquoted text
  := by
  obtain ⟨content, hcontent, rfl⟩ := h
  apply Unquoted.string hcontent .nil

theorem IsListing.unquoted {α : Type} {item : α → List Char → Prop} {close : Char} {items : List α}
    (hitem : ∀ a text, item a text → Unquoted text) (hclose : close ≠ '"')
    (h : IsListing item close items text) :
  Unquoted text
  := by
  induction h with
  | empty => apply Unquoted.nil.concat hclose
  | last ha hgap => apply ((hitem _ _ ha).append hgap.unquoted).concat hclose
  | more ha hgap hgap' _ ih =>
    rw [List.append_assoc, List.cons_append]
    apply ((hitem _ _ ha).append hgap.unquoted).append
    apply Unquoted.char (by decide) (hgap'.unquoted.append ih)

theorem IsEnclosed.unquoted {α : Type} {item : α → List Char → Prop} {first close : Char}
    {items : List α} (hitem : ∀ a text, item a text → Unquoted text) (hfirst : first ≠ '"')
    (hclose : close ≠ '"') (h : IsEnclosed first close item items text) :
  Unquoted text
  := by
  obtain ⟨gap, listing, hgap, hlisting, rfl⟩ := h
  apply Unquoted.char hfirst (hgap.unquoted.append (hlisting.unquoted hitem hclose))

theorem IsMember.unquoted {P : List Char → Prop} {member : MemberText}
    (hvalue : ∀ text, P text → Unquoted text) (h : IsMember P member text) :
  Unquoted text
  := by
  obtain ⟨hname, hraw, gap, gap', hgap, hgap', rfl⟩ := h
  have hcolon : Unquoted (':' :: (gap' ++ member.value)) :=
    .char (by decide) (hgap'.unquoted.append (hvalue _ hraw))
  simpa using Unquoted.string hname (hgap.unquoted.append hcolon)

theorem IsValue.unquoted (h : IsValue levels text) :
  Unquoted text
  := by
  induction levels generalizing text with
  | zero =>
    rcases h with h | h
    · apply h.unquoted
    · apply h.unquoted
  | succ levels ih =>
    rcases h with h | h | ⟨members, h⟩ | ⟨elements, h⟩
    · apply h.unquoted
    · apply h.unquoted
    · apply IsEnclosed.unquoted _ (by decide) (by decide) h
      intro member text hmember
      apply hmember.unquoted fun _ => ih
    · apply IsEnclosed.unquoted _ (by decide) (by decide) h
      rintro element _ ⟨helement, rfl⟩
      apply ih helement

/-! ### Places -/

/-- What the characters read so far leave open. -/
inductive Place where
  /-- A value may come next: at the start, after an opening bracket, a comma or a colon. -/
  | awaiting
  /-- Inside a string. -/
  | quoted
  /-- After a backslash inside a string. -/
  | shielded
  /-- After a character of a scalar. -/
  | word
  /-- After a string, a closing bracket, or a scalar and white space. -/
  | ended
  deriving DecidableEq

/-- The place after a character that does not belong to the value before it. -/
def Place.next? (c : Char) : Option Place :=
  if isBlank c || isCloser c then some .ended
  else if c == ',' || c == ':' then some .awaiting
  else none

/-- The place after one more character, or nothing if it may not stand there. -/
def Place.step : Place → Char → Option Place
  | .quoted, c => some (if c = '\\' then .shielded else if c = '"' then .ended else .quoted)
  | .shielded, _ => some .quoted
  | .awaiting, c =>
    if isBlank c || c == '{' || c == '[' then some .awaiting
    else if c == '"' then some .quoted
    else if isCloser c then some .ended
    else if isScalarChar c then some .word
    else none
  | .word, c => if isScalarChar c then some .word else next? c
  | .ended, c => next? c

/-- A text may stand at a place and leads to another place. -/
def Passes (place : Place) (text : List Char) (place' : Place) : Prop :=
  text.foldlM Place.step place = some place'

variable {place place' : Place}

theorem passes_nil :
  Passes place [] place' ↔ place = place'
  := by
  simp [Passes]

theorem passes_cons :
  Passes place (c :: text) place' ↔ ∃ middle, place.step c = some middle ∧ Passes middle text place'
  := by
  simp [Passes, List.foldlM_cons, Option.bind_eq_some_iff]

theorem passes_append :
  Passes place (text ++ text') place' ↔
    ∃ middle, Passes place text middle ∧ Passes middle text' place'
  := by
  simp [Passes, List.foldlM_append, Option.bind_eq_some_iff]

theorem Passes.trans {middle : Place} (h : Passes place text middle)
    (h' : Passes middle text' place') :
  Passes place (text ++ text') place'
  := passes_append.mpr ⟨middle, h, h'⟩

/-- A value has ended, or may end here. -/
def Place.MayEnd (place : Place) : Prop :=
  place = .word ∨ place = .ended

/-- Outside strings. -/
def Place.IsOutside (place : Place) : Prop :=
  place ≠ .quoted ∧ place ≠ .shielded

/-! ### Documents pass -/

theorem passes_gap (h : IsGap gap) :
  Passes .awaiting gap .awaiting
  := by
  induction gap with
  | nil => apply passes_nil.mpr rfl
  | cons c gap ih =>
    rw [IsGap, List.forall_mem_cons] at h
    rw [passes_cons]
    use .awaiting
    constructor
    · simp [Place.step, h.1]
    · apply ih h.2

theorem Place.MayEnd.step_eq (h : place.MayEnd) (hc : isScalarChar c = false) :
  place.step c = Place.next? c
  := by
  rcases h with rfl | rfl
  · simp [Place.step, hc]
  · rfl

theorem Place.MayEnd.passes_gap (h : place.MayEnd) (hgap : IsGap gap) :
  ∃ place', Passes place gap place' ∧ place'.MayEnd ∧ (gap ≠ [] → place' = .ended)
  := by
  induction gap generalizing place with
  | nil =>
    use place, passes_nil.mpr rfl, h
    simp
  | cons c gap ih =>
    rw [IsGap, List.forall_mem_cons] at hgap
    have hstep : place.step c = some .ended := by
      rw [h.step_eq (isScalarChar_of_isBlank hgap.1)]
      simp [Place.next?, hgap.1]
    obtain ⟨place', hpasses, hend, hended⟩ := @ih .ended (.inr rfl) hgap.2
    use place', passes_cons.mpr ⟨.ended, hstep, hpasses⟩, hend
    intro _
    cases gap with
    | nil => apply (passes_nil.mp hpasses).symm
    | cons d gap => apply hended (List.cons_ne_nil d gap)

theorem passes_content (h : IsContent content) :
  Passes .quoted (content ++ ['"']) .ended
  := by
  induction h with
  | nil => rfl
  | @plain c content hquote hslash _ ih =>
    rw [List.cons_append, passes_cons]
    use .quoted
    constructor
    · simp [Place.step, hquote, hslash]
    · apply ih
  | @escape c content _ ih =>
    rw [List.cons_append, List.cons_append, passes_cons]
    use .shielded, rfl
    rw [passes_cons]
    use .quoted, rfl, ih

theorem passes_string (h : IsString text) :
  Passes .awaiting text .ended
  := by
  obtain ⟨content, hcontent, rfl⟩ := h
  rw [List.cons_append, passes_cons]
  use .quoted, rfl
  apply passes_content hcontent

theorem passes_word (h : ∀ c ∈ text, isScalarChar c = true) :
  Passes .word text .word
  := by
  induction text with
  | nil => apply passes_nil.mpr rfl
  | cons c text ih =>
    rw [List.forall_mem_cons] at h
    rw [passes_cons]
    use .word
    constructor
    · simp [Place.step, h.1]
    · apply ih h.2

theorem step_awaiting_scalar (h : isScalarChar c = true) :
  Place.step .awaiting c = some .word
  := by
  have hblank := isBlank_of_isScalarChar h
  have hmark : c ≠ '{' ∧ c ≠ '[' ∧ c ≠ '"' ∧ c ≠ '}' ∧ c ≠ ']' := by
    refine ⟨?_, ?_, ?_, ?_, ?_⟩ <;>
    · rintro rfl
      contradiction
  simp [Place.step, hblank, hmark, isCloser, h]

theorem passes_scalar (h : IsScalar text) :
  Passes .awaiting text .word
  := by
  obtain ⟨hne, hall⟩ := h
  cases text with
  | nil => apply (hne rfl).elim
  | cons c text =>
    rw [List.forall_mem_cons] at hall
    rw [passes_cons]
    use .word, step_awaiting_scalar hall.1
    apply passes_word hall.2

/-- The texts of a language may stand where a value may come, and then a value may end. -/
def PassesAll (P : List Char → Prop) : Prop :=
  ∀ text, P text → ∃ place, Passes .awaiting text place ∧ place.MayEnd

/-- What comes after a value, white space and a character that goes on from there. -/
theorem Place.MayEnd.passes_next {next : Place} (h : place.MayEnd) (hgap : IsGap gap)
    (hc : isScalarChar c = false) (hnext : Place.next? c = some next)
    (hrest : Passes next rest place') :
  Passes place (gap ++ c :: rest) place'
  := by
  obtain ⟨middle, hmiddle, hend, -⟩ := h.passes_gap hgap
  apply hmiddle.trans
  rw [passes_cons]
  use next, (hend.step_eq hc).trans hnext, hrest

theorem passes_listing {α : Type} {item : α → List Char → Prop} {close : Char} {items : List α}
    (hitem : ∀ a, PassesAll (item a)) (hclose : isCloser close = true)
    (h : IsListing item close items text) :
  Passes .awaiting text .ended
  := by
  have hcloser := isCloser_iff.mp hclose
  induction h with
  | empty => rcases hcloser with rfl | rfl <;> rfl
  | @last a text gap ha hgap =>
    obtain ⟨place, hplace, hend⟩ := hitem a text ha
    rw [List.append_assoc]
    apply hplace.trans (hend.passes_next hgap _ _ (passes_nil.mpr rfl))
    all_goals
      rcases hcloser with rfl | rfl <;> decide
  | @more a items text gap gap' rest ha hgap hgap' _ ih =>
    obtain ⟨place, hplace, hend⟩ := hitem a text ha
    have hcomma : Passes place (gap ++ ',' :: (gap' ++ rest)) .ended :=
      hend.passes_next hgap (by decide) rfl ((passes_gap hgap').trans ih)
    rw [List.append_assoc, List.append_assoc]
    apply hplace.trans hcomma

theorem passes_enclosed {α : Type} {item : α → List Char → Prop} {first close : Char}
    {items : List α} (hitem : ∀ a, PassesAll (item a)) (hfirst : first = '{' ∨ first = '[')
    (hclose : isCloser close = true) (h : IsEnclosed first close item items text) :
  Passes .awaiting text .ended
  := by
  obtain ⟨gap, listing, hgap, hlisting, rfl⟩ := h
  rw [List.cons_append, passes_cons]
  use .awaiting
  constructor
  · rcases hfirst with rfl | rfl <;> decide
  · apply (passes_gap hgap).trans (passes_listing hitem hclose hlisting)

theorem passes_member {P : List Char → Prop} (h : PassesAll P) (member : MemberText) :
  PassesAll (IsMember P member)
  := by
  rintro _ ⟨hname, hvalue, gap, gap', hgap, hgap', rfl⟩
  obtain ⟨place, hplace, hend⟩ := h _ hvalue
  use place
  constructor
  · have hstring : Passes .awaiting ('"' :: member.name ++ ['"']) .ended :=
      passes_string ⟨member.name, hname, rfl⟩
    have hcolon : Passes .ended (gap ++ ':' :: (gap' ++ member.value)) place :=
      Place.MayEnd.passes_next (.inr rfl) hgap (by decide) rfl ((passes_gap hgap').trans hplace)
    simpa using hstring.trans hcolon
  · apply hend

theorem passes_object (h : PassesAll (IsValue levels)) {members : List MemberText}
    (hobject : IsObject (IsValue levels) members text) :
  Passes .awaiting text .ended
  := passes_enclosed (passes_member h) (.inl rfl) (by decide) hobject

theorem passes_value (levels : Nat) :
  PassesAll (IsValue levels)
  := by
  have hstring : ∀ text, IsString text → ∃ place, Passes .awaiting text place ∧ place.MayEnd :=
    fun text h => ⟨.ended, passes_string h, .inr rfl⟩
  have hscalar : ∀ text, IsScalar text → ∃ place, Passes .awaiting text place ∧ place.MayEnd :=
    fun text h => ⟨.word, passes_scalar h, .inl rfl⟩
  induction levels with
  | zero =>
    rintro text (h | h)
    · apply hstring text h
    · apply hscalar text h
  | succ levels ih =>
    rintro text (h | h | ⟨members, h⟩ | ⟨elements, h⟩)
    · apply hstring text h
    · apply hscalar text h
    · use .ended, passes_object ih h, .inr rfl
    · use .ended
      constructor
      · apply passes_enclosed _ (.inr rfl) (by decide) h
        rintro element _ ⟨helement, rfl⟩
        apply ih _ helement
      · apply Or.inr rfl

theorem passes_document {written : List MemberText} (h : IsDocumentOf written text) :
  ∃ place, Passes .awaiting text place
  := by
  rcases h with ⟨hgap, -⟩ | ⟨before, object, after, hbefore, hobject, hafter, rfl⟩
  · use .awaiting, passes_gap hgap
  · have hended : Place.MayEnd .ended := .inr rfl
    obtain ⟨place, hplace, -⟩ := hended.passes_gap hafter
    use place
    apply ((passes_gap hbefore).trans (passes_object (passes_value 127) hobject)).trans hplace

/-! ### What does not stand together -/

theorem Passes.unique {place'' : Place} (h : Passes place text place')
    (h' : Passes place text place'') :
  place' = place''
  := Option.some.inj (h.symm.trans h')

theorem Place.IsOutside.step_quote (h : place.IsOutside) (hstep : place.step '"' = some place') :
  place' = .quoted
  := by
  cases place with
  | awaiting => apply (Option.some.inj hstep).symm
  | quoted => apply (h.1 rfl).elim
  | shielded => apply (h.2 rfl).elim
  | word => contradiction
  | ended => contradiction

/-- Only a quote leads into a string. -/
theorem Place.IsOutside.step (h : place.IsOutside) (hc : c ≠ '"')
    (hstep : place.step c = some place') :
  place'.IsOutside
  := by
  cases place <;> grind [Place.IsOutside, Place.step, Place.next?]

theorem Unquoted.isOutside (h : Unquoted text) (hpasses : Passes place text place')
    (houtside : place.IsOutside) :
  place'.IsOutside
  := by
  induction h generalizing place with
  | nil =>
    obtain rfl := passes_nil.mp hpasses
    apply houtside
  | @char c rest hc _ ih =>
    obtain ⟨middle, hstep, hrest⟩ := passes_cons.mp hpasses
    apply ih hrest (houtside.step hc hstep)
  | @string content rest hcontent _ ih =>
    obtain ⟨middle, hstep, hrest⟩ := passes_cons.mp hpasses
    obtain rfl := houtside.step_quote hstep
    rw [← List.singleton_append, ← List.append_assoc, passes_append] at hrest
    obtain ⟨after, hcontent', hrest⟩ := hrest
    obtain rfl := (passes_content hcontent).unique hcontent'
    apply ih hrest
    simp [Place.IsOutside]

/-- The place after a part of a document that ends outside strings. -/
theorem exists_outside {written : List MemberText} (h : IsDocumentOf written (front ++ rest))
    (hfront : Unquoted front) :
  ∃ place place', place.IsOutside ∧ Passes place rest place'
  := by
  obtain ⟨place', hpasses⟩ := passes_document h
  obtain ⟨place, hplace, hrest⟩ := passes_append.mp hpasses
  use place, place'
  constructor
  · apply hfront.isOutside hplace
    simp [Place.IsOutside]
  · apply hrest

/-- Whether a character is an opening bracket or a comma, after which an item may come. -/
def isItemStart (c : Char) : Bool :=
  c == '{' || c == '[' || c == ','

theorem Place.IsOutside.step_itemStart (h : place.IsOutside) (hc : isItemStart c = true)
    (hstep : place.step c = some place') :
  place' = .awaiting
  := by
  have hstart : c = '{' ∨ c = '[' ∨ c = ',' := by
    simpa [isItemStart, or_assoc] using hc
  cases place with
  | quoted => apply (h.1 rfl).elim
  | shielded => apply (h.2 rfl).elim
  | _ =>
    rcases hstart with rfl | rfl | rfl <;> first
    | contradiction
    | apply (Option.some.inj hstep).symm

theorem next?_scalar (h : isScalarChar c = true) :
  Place.next? c = none
  := by
  have hblank := isBlank_of_isScalarChar h
  have hmark : c ≠ '}' ∧ c ≠ ']' ∧ c ≠ ',' ∧ c ≠ ':' := by
    refine ⟨?_, ?_, ?_, ?_⟩ <;>
    · rintro rfl
      contradiction
  simp [Place.next?, hblank, isCloser, hmark]

theorem Place.IsOutside.step_scalar (h : place.IsOutside) (hc : isScalarChar c = true)
    (hstep : place.step c = some place') :
  place' = .word
  := by
  cases place with
  | quoted => apply (h.1 rfl).elim
  | shielded => apply (h.2 rfl).elim
  | awaiting =>
    rw [step_awaiting_scalar hc] at hstep
    apply (Option.some.inj hstep).symm
  | word =>
    rw [Place.step, if_pos hc] at hstep
    apply (Option.some.inj hstep).symm
  | ended =>
    rw [Place.step, next?_scalar hc] at hstep
    contradiction

/-- No comma comes right after an opening bracket or a comma. -/
theorem not_stray_comma {written : List MemberText}
    (h : IsDocumentOf written (front ++ c :: (gap ++ ',' :: rest))) (hfront : Unquoted front)
    (hc : isItemStart c = true) (hgap : IsGap gap) :
  False
  := by
  obtain ⟨place, place', houtside, hpasses⟩ := exists_outside h hfront
  obtain ⟨middle, hstep, hrest⟩ := passes_cons.mp hpasses
  obtain ⟨after, hafter, hrest⟩ := passes_append.mp hrest
  obtain ⟨next, hnext, -⟩ := passes_cons.mp hrest
  obtain rfl := houtside.step_itemStart hc hstep
  obtain rfl := (passes_gap hgap).unique hafter
  contradiction

/-- No white space stands between two scalars. -/
theorem not_parted_scalars {written : List MemberText} {d : Char}
    (h : IsDocumentOf written (front ++ c :: (gap ++ d :: rest))) (hfront : Unquoted front)
    (hc : isScalarChar c = true) (hgap : IsGap gap) (hd : isScalarChar d = true) :
  gap = []
  := by
  obtain ⟨place, place', houtside, hpasses⟩ := exists_outside h hfront
  obtain ⟨middle, hstep, hrest⟩ := passes_cons.mp hpasses
  obtain ⟨after, hafter, hrest⟩ := passes_append.mp hrest
  obtain ⟨next, hnext, -⟩ := passes_cons.mp hrest
  obtain rfl := houtside.step_scalar hc hstep
  by_contra hne
  obtain ⟨later, hlater, -, heq⟩ := Place.MayEnd.passes_gap (.inl rfl) hgap
  obtain rfl := hlater.unique hafter
  rw [heq hne, Place.step, next?_scalar hd] at hnext
  contradiction

end LumpRules.Document
