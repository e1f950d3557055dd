import LumpRules.Proofs.Document.Grammar
import LumpRules.Proofs.Outcome
import Mathlib.Data.List.TakeDrop
import Mathlib.Data.List.TakeWhile

/-!
# The scanner recognises the grammar

Each reader of the scanner is related to the texts of the grammar in both directions.  If it
succeeds, then it has taken such a text off the front (`scanValue_sound`); and if such a text
stands at the front, and what comes after it does not prolong it, then the reader takes exactly
that text (`scanValue_complete`).
-/

namespace LumpRules.Document

open Text

variable {α : Type} {c : Char} {text gap rest left used : List Char}

/-! ### White space -/

/-- Skipping white space takes a gap off the front. -/
theorem exists_gap (text : List Char) :
  ∃ gap, IsGap gap ∧ text = gap ++ skipBlanks text
  := by
  use text.takeWhile isBlank
  constructor
  · intro c hc
    apply List.mem_takeWhile_imp hc
  · symm
    apply List.takeWhile_append_dropWhile

theorem skipBlanks_append (h : IsGap gap) :
  skipBlanks (gap ++ rest) = skipBlanks rest
  := List.dropWhile_append_of_pos h

theorem skipBlanks_cons (h : isBlank c = false) :
  skipBlanks (c :: rest) = c :: rest
  := by
  simp [skipBlanks, h]

/-! ### Strings -/

/-- The name that the content of a string stands for. -/
def decoded : List Char → List Char
  | [] => []
  | '\\' :: c :: rest => unescape c ++ decoded rest
  | c :: rest => c :: decoded rest

theorem decoded_cons (h : c ≠ '\\') :
  decoded (c :: rest) = c :: decoded rest
  := by
  rw [decoded]
  intro _ _ hc
  apply (h hc).elim

theorem stringBody_cons (hquote : c ≠ '"') (hslash : c ≠ '\\') :
  stringBody (c :: rest) = (stringBody rest).map fun (body, left) => (c :: body, left)
  := by
  rw [stringBody]
  · apply hquote
  · intro hc
    apply (hslash hc).elim
  · intro _ _ hc
    apply (hslash hc).elim

theorem stringBody_sound {name : List Char} (h : stringBody text = some (name, left)) :
  ∃ content, IsContent content ∧ name = decoded content ∧ text = content ++ '"' :: left
  := by
  fun_induction stringBody text generalizing name with
  | case1 => simp at h
  | case2 rest =>
    obtain ⟨rfl, rfl⟩ := Prod.mk.inj (Option.some.inj h)
    use [], .nil
    simp [decoded]
  | case3 => simp at h
  | case4 c rest ih =>
    obtain ⟨⟨body, left⟩, hbody, heq⟩ := Option.map_eq_some_iff.mp h
    obtain ⟨rfl, rfl⟩ := Prod.mk.inj heq
    obtain ⟨content, hcontent, rfl, rfl⟩ := ih hbody
    use '\\' :: c :: content, .escape hcontent
    simp [decoded]
  | case5 c rest hquote hlast hslash ih =>
    obtain ⟨⟨body, left⟩, hbody, heq⟩ := Option.map_eq_some_iff.mp h
    obtain ⟨rfl, rfl⟩ := Prod.mk.inj heq
    obtain ⟨content, hcontent, rfl, rfl⟩ := ih hbody
    have hc : c ≠ '\\' := by
      rintro rfl
      cases content with
      | nil => apply hslash '"' left rfl rfl
      | cons d content => apply hslash d (content ++ '"' :: left) rfl rfl
    use c :: content, .plain hquote hc hcontent
    simp [decoded_cons hc]

theorem stringBody_complete {content : List Char} (h : IsContent content) :
  stringBody (content ++ '"' :: left) = some (decoded content, left)
  := by
  induction h with
  | nil => rfl
  | plain hquote hslash _ ih =>
    rw [List.cons_append, stringBody_cons hquote hslash, ih, decoded_cons hslash]
    rfl
  | escape _ ih =>
    rw [List.cons_append, List.cons_append, stringBody, ih]
    rfl

/-! ### Members -/

/-- The member that was read has the name and the value of a member as it is written. -/
def Member.Reads (member : Member) (written : MemberText) : Prop :=
  member.name = String.ofList (decoded written.name) ∧
    member.start = written.value ++ member.after

theorem Member.Reads.raw_eq {member : Member} {written : MemberText} (h : member.Reads written) :
  member.raw = String.ofList written.value
  := by
  rw [Member.raw, h.2]
  simp

theorem Member.Reads.head?_start {member : Member} {written : MemberText}
    (h : member.Reads written) (hvalue : written.value ≠ []) :
  member.start.head? = written.value.head?
  := by
  rw [h.2]
  apply List.head?_append_of_ne_nil _ hvalue

/-- Whether a member is a container is seen at the first character of its value. -/
theorem isContainer_eq_any {member : Member} :
  member.isContainer = member.start.head?.any fun c => c == '{' || c == '['
  := by
  rw [Member.isContainer]
  split
  · next h => simp [h]
  · next h => simp [h]
  · next hbrace hbracket =>
    cases hstart : member.start with
    | nil => rfl
    | cons c rest =>
      have hc : c ≠ '{' ∧ c ≠ '[' := by
        constructor
        · rintro rfl
          apply hbrace rest hstart
        · rintro rfl
          apply hbracket rest hstart
      simp [hc]

/-! ### Soundness -/

/-- A reader that takes only texts of a language off the front. -/
def Recognizer.Sound (reader : Recognizer) (P : List Char → Prop) : Prop :=
  ∀ text left, reader text = .ok left → ∃ used, P used ∧ text = used ++ left

theorem expectChar_sound (h : expectChar c text = .ok left) :
  text = c :: left
  := by
  cases text with
  | nil => simp [expectChar] at h
  | cons d rest =>
    by_cases hd : d = c
    · simp_all [expectChar]
    · simp [expectChar, hd] at h

theorem memberName_sound {name : String} (h : memberName text = .ok (name, left)) :
  ∃ content, IsContent content ∧ name = String.ofList (decoded content) ∧
    text = '"' :: content ++ '"' :: left
  := by
  fun_cases memberName text with
  | case1 rest body rest' hbody =>
    obtain ⟨content, hcontent, rfl, rfl⟩ := stringBody_sound hbody
    simp only [memberName, hbody, Except.ok.injEq, Prod.mk.injEq] at h
    obtain ⟨rfl, rfl⟩ := h
    use content, hcontent
    simp
  | case2 rest hbody => simp [memberName, hbody] at h
  | case3 text hquote =>
    rw [memberName] at h
    · simp at h
    · apply hquote

variable {value : Recognizer} {P : List Char → Prop} {rounds : Nat}

theorem scanElements_sound (hvalue : value.Sound P)
    (h : scanElements value rounds text = .ok left) :
  ∃ elements used, IsListing (fun element text => P element ∧ text = element) ']' elements used ∧
    text = used ++ left
  := by
  induction rounds generalizing text with
  | zero => simp [scanElements] at h
  | succ rounds ih =>
    by_cases hclose : ∃ rest, text = ']' :: rest
    · obtain ⟨rest, rfl⟩ := hclose
      rw [scanElements] at h
      obtain rfl := Except.ok.inj h
      use [], [']'], .empty
      rfl
    · rw [scanElements] at h
      · obtain ⟨after, hafter, htail⟩ := bind_eq_ok.mp h
        obtain ⟨element, helement, rfl⟩ := hvalue _ _ hafter
        obtain ⟨gap, hgap, hskip⟩ := exists_gap after
        split at htail
        · next rest hrest =>
          obtain ⟨gap', hgap', hskip'⟩ := exists_gap rest
          obtain ⟨elements, used, hused, hrest'⟩ := ih htail
          use element :: elements, element ++ gap ++ ',' :: gap' ++ used,
            .more ⟨helement, rfl⟩ hgap hgap' hused
          rw [hskip, hrest, hskip', hrest']
          simp
        · next rest hrest =>
          obtain rfl := Except.ok.inj htail
          use [element], element ++ gap ++ [']'], .last ⟨helement, rfl⟩ hgap
          rw [hskip, hrest]
          simp
        · simp at htail
      · intro rest hrest
        apply hclose ⟨rest, hrest⟩

theorem scanMembers_sound {members : List Member} (hvalue : value.Sound P)
    (h : scanMembers value rounds text = .ok (members, left)) :
  ∃ written used, IsListing (IsMember P) '}' written used ∧
    List.Forall₂ Member.Reads members written ∧ text = used ++ left
  := by
  induction rounds generalizing text members with
  | zero => simp [scanMembers] at h
  | succ rounds ih =>
    by_cases hclose : ∃ rest, text = '}' :: rest
    · obtain ⟨rest, rfl⟩ := hclose
      rw [scanMembers] at h
      obtain ⟨rfl, rfl⟩ := Prod.mk.inj (Except.ok.inj h)
      use [], ['}'], .empty, .nil
      rfl
    · rw [scanMembers] at h
      · obtain ⟨⟨name, afterName⟩, hname, htail⟩ := bind_eq_ok.mp h
        obtain ⟨content, hcontent, rfl, rfl⟩ := memberName_sound hname
        obtain ⟨afterColon, hcolon, htail⟩ := bind_eq_ok.mp htail
        obtain ⟨after, hafter, htail⟩ := bind_eq_ok.mp htail
        obtain ⟨raw, hraw, hstart⟩ := hvalue _ _ hafter
        obtain ⟨gap₁, hgap₁, hskip₁⟩ := exists_gap afterName
        obtain ⟨gap₂, hgap₂, hskip₂⟩ := exists_gap afterColon
        obtain ⟨gap₃, hgap₃, hskip₃⟩ := exists_gap after
        rw [expectChar_sound hcolon, hskip₂, hstart] at hskip₁
        have hmember : IsMember P ⟨content, raw⟩
            ('"' :: content ++ '"' :: gap₁ ++ ':' :: gap₂ ++ raw) :=
          ⟨hcontent, hraw, gap₁, gap₂, hgap₁, hgap₂, rfl⟩
        have hreads : Member.Reads ⟨String.ofList (decoded content), skipBlanks afterColon, after⟩
            ⟨content, raw⟩ :=
          ⟨rfl, hstart⟩
        split at htail
        · next rest hrest =>
          obtain ⟨⟨members, left⟩, hmembers, heq⟩ := bind_eq_ok.mp htail
          obtain ⟨rfl, rfl⟩ := Prod.mk.inj (Except.ok.inj heq)
          obtain ⟨gap₄, hgap₄, hskip₄⟩ := exists_gap rest
          obtain ⟨written, used, hused, hall, hrest'⟩ := ih hmembers
          refine ⟨_, _, .more hmember hgap₃ hgap₄ hused, .cons hreads hall, ?_⟩
          rw [hskip₁, hskip₃, hrest, hskip₄, hrest']
          simp
        · next rest hrest =>
          obtain ⟨rfl, rfl⟩ := Prod.mk.inj (Except.ok.inj htail)
          refine ⟨_, _, .last hmember hgap₃, .cons hreads .nil, ?_⟩
          rw [hskip₁, hskip₃, hrest]
          simp
        · simp at htail
      · intro rest hrest
        apply hclose ⟨rest, hrest⟩

theorem isValue_string {levels : Nat} (h : IsString text) :
  IsValue levels text
  := by
  cases levels with
  | zero => apply Or.inl h
  | succ levels => apply Or.inl h

theorem isValue_scalar {levels : Nat} (h : IsScalar text) :
  IsValue levels text
  := by
  cases levels with
  | zero => apply Or.inr h
  | succ levels => apply Or.inr (Or.inl h)

/-- What a value other than an object or an array has to be in order to be read. -/
theorem scanValue_flat {rounds levels : Nat} (h : scanValue rounds levels text = .ok left)
    (hobject : ∀ rest, text ≠ '{' :: rest) (harray : ∀ rest, text ≠ '[' :: rest) :
  ∃ used, (IsString used ∨ IsScalar used) ∧ text = used ++ left
  := by
  rw [scanValue.eq_def] at h
  split at h
  · next rest => apply (hobject rest rfl).elim
  · next rest => apply (harray rest rfl).elim
  · next rest =>
    cases hbody : stringBody rest with
    | none => simp [hbody] at h
    | some found =>
      obtain ⟨name, left⟩ := found
      obtain ⟨content, hcontent, -, rfl⟩ := stringBody_sound hbody
      simp only [hbody, Except.ok.injEq] at h
      use '"' :: content ++ ['"'], .inl ⟨content, hcontent, rfl⟩
      simp [h]
  · rw [List.span_eq_takeWhile_dropWhile] at h
    split at h
    · simp at h
    · next c word rest hspan =>
      obtain ⟨hword, hrest⟩ := Prod.mk.inj hspan
      obtain rfl := Except.ok.inj h
      use c :: word
      constructor
      · right
        constructor
        · simp
        · intro d hd
          rw [← hword] at hd
          apply List.mem_takeWhile_imp hd
      · rw [← hword, ← hrest, List.takeWhile_append_dropWhile]

theorem scanValue_sound (rounds levels : Nat) :
  Recognizer.Sound (scanValue rounds levels) (IsValue levels)
  := by
  induction levels with
  | zero =>
    intro text left h
    have hobject : ∀ rest, text ≠ '{' :: rest := by
      rintro rest rfl
      simp [scanValue] at h
    have harray : ∀ rest, text ≠ '[' :: rest := by
      rintro rest rfl
      simp [scanValue] at h
    apply scanValue_flat h hobject harray
  | succ levels ih =>
    intro text left h
    by_cases hobject : ∃ rest, text = '{' :: rest
    · obtain ⟨rest, rfl⟩ := hobject
      rw [scanValue] at h
      split at h
      · next members left' hmembers =>
        obtain rfl := Except.ok.inj h
        obtain ⟨written, used, hused, -, hrest⟩ := scanMembers_sound ih hmembers
        obtain ⟨gap, hgap, hskip⟩ := exists_gap rest
        use '{' :: gap ++ used,
          .inr (.inr (.inl ⟨written, gap, used, hgap, hused, rfl⟩))
        rw [hskip, hrest]
        simp
      · simp at h
    by_cases harray : ∃ rest, text = '[' :: rest
    · obtain ⟨rest, rfl⟩ := harray
      rw [scanValue] at h
      split at h
      · next left' helements =>
        obtain rfl := Except.ok.inj h
        obtain ⟨elements, used, hused, hrest⟩ := scanElements_sound ih helements
        obtain ⟨gap, hgap, hskip⟩ := exists_gap rest
        use '[' :: gap ++ used,
          .inr (.inr (.inr ⟨elements, gap, used, hgap, hused, rfl⟩))
        rw [hskip, hrest]
        simp
      · simp at h
    obtain ⟨used, hused | hused, rfl⟩ :=
      scanValue_flat h (fun rest hrest => hobject ⟨rest, hrest⟩)
        (fun rest hrest => harray ⟨rest, hrest⟩)
    · use used, isValue_string hused
    · use used, isValue_scalar hused

/-! ### Completeness -/

/-- No character of a kind comes next. -/
def Lacks (p : Char → Bool) (text : List Char) : Prop :=
  ∀ c ∈ text.head?, p c = false

/-- What comes next does not prolong a scalar before it. -/
def Stops (text : List Char) : Prop :=
  Lacks isScalarChar text

/-- A reader that takes a text of a language off the front, if the text is not longer than
`rounds` and nothing prolongs it. -/
def Recognizer.Complete (reader : Recognizer) (rounds : Nat) (P : List Char → Prop) : Prop :=
  ∀ used left, P used → used.length ≤ rounds → Stops left → reader (used ++ left) = .ok left

/-- The texts of a language start with neither white space nor the end of an array. -/
def Starts (P : List Char → Prop) : Prop :=
  ∀ text, P text → ∃ c rest, text = c :: rest ∧ isBlank c = false ∧ c ≠ ']'

theorem toNat_of_isScalarChar (h : isScalarChar c = true) :
  43 ≤ c.toNat ∧ c.toNat ≤ 122
  := by
  simp only [isScalarChar, Char.isAlphanum, Char.isDigit, Bool.or_eq_true, Bool.and_eq_true,
    isAlpha_iff, decide_eq_true_eq, beq_iff_eq, ge_iff_le, UInt32.le_iff_toNat_le] at h
  rcases h with ((((hcapital | hsmall) | hdigit) | rfl) | rfl) | rfl
  · omega
  · omega
  · change 48 ≤ c.toNat ∧ c.toNat ≤ 57 at hdigit
    omega
  · decide
  · decide
  · decide

theorem isBlank_of_isScalarChar (h : isScalarChar c = true) :
  isBlank c = false
  := by
  have hrange := toNat_of_isScalarChar h
  simp [isBlank, blankRanges]
  omega

theorem isScalarChar_of_isBlank (h : isBlank c = true) :
  isScalarChar c = false
  := by
  by_contra hscalar
  simp [isBlank_of_isScalarChar (Bool.of_not_eq_false hscalar)] at h

theorem lacks_cons {p : Char → Bool} (h : p c = false) :
  Lacks p (c :: rest)
  := by
  simp [Lacks, h]

/-- What lacks characters of a kind lacks those of every narrower kind. -/
theorem Lacks.mono {p q : Char → Bool} (h : Lacks q rest) (hpq : ∀ c, p c = true → q c = true) :
  Lacks p rest
  := by
  intro c hc
  by_contra hp
  have hq := h c hc
  rw [hpq c (Bool.of_not_eq_false hp)] at hq
  contradiction

/-- A run of characters of a kind is taken off the front as a whole. -/
theorem takeWhile_lacks {p : Char → Bool} (hused : ∀ c ∈ used, p c = true) (h : Lacks p left) :
  (used ++ left).takeWhile p = used ∧ (used ++ left).dropWhile p = left
  := by
  rw [List.takeWhile_append_of_pos hused, List.dropWhile_append_of_pos hused]
  cases left with
  | nil => simp
  | cons d left => simp [h d rfl]

theorem stops_cons (h : isScalarChar c = false) :
  Stops (c :: rest)
  := lacks_cons h

theorem stops_append (hgap : IsGap gap) (h : Stops rest) :
  Stops (gap ++ rest)
  := by
  cases gap with
  | nil => apply h
  | cons c gap =>
    apply stops_cons
    apply isScalarChar_of_isBlank
    apply hgap c (List.mem_cons_self ..)

theorem isValue_starts (levels : Nat) :
  Starts (IsValue levels)
  := by
  have hstring : Starts IsString := by
    rintro text ⟨content, -, rfl⟩
    use '"', content ++ ['"'], rfl, by decide, by decide
  have hscalar : Starts IsScalar := by
    rintro (_ | ⟨c, rest⟩) ⟨hne, hall⟩
    · apply (hne rfl).elim
    · have hc : isScalarChar c = true := hall c (List.mem_cons_self ..)
      use c, rest, rfl, isBlank_of_isScalarChar hc
      rintro rfl
      simp [isScalarChar] at hc
  intro text h
  cases levels with
  | zero =>
    rcases h with h | h
    · apply hstring text h
    · apply hscalar text h
  | succ levels =>
    rcases h with h | h | ⟨members, gap, rest, -, -, rfl⟩ | ⟨elements, gap, rest, -, -, rfl⟩
    · apply hstring text h
    · apply hscalar text h
    · use '{', gap ++ rest, rfl, by decide, by decide
    · use '[', gap ++ rest, rfl, by decide, by decide

/-- White space before a listing is skipped up to the listing. -/
theorem IsListing.skipBlanks_append {item : α → List Char → Prop} {close : Char} {items : List α}
    (h : IsListing item close items used) (hclose : isBlank close = false)
    (hitem : ∀ a text, item a text → ∃ c rest, text = c :: rest ∧ isBlank c = false)
    (hgap : IsGap gap) :
  skipBlanks (gap ++ (used ++ left)) = used ++ left
  := by
  rw [Document.skipBlanks_append hgap]
  cases h with
  | empty => apply skipBlanks_cons hclose
  | last ha hgap =>
    obtain ⟨c, rest, rfl, hc⟩ := hitem _ _ ha
    apply skipBlanks_cons hc
  | more ha hgap hgap' htail =>
    obtain ⟨c, rest, rfl, hc⟩ := hitem _ _ ha
    apply skipBlanks_cons hc

/-- An element that is the last of its array. -/
theorem scanElements_last {after : List Char} (hclose : ∀ rest, text ≠ ']' :: rest)
    (hvalue : value text = .ok after) (hskip : skipBlanks after = ']' :: left) :
  scanElements value (rounds + 1) text = .ok left
  := by
  rw [scanElements, hvalue]
  · simp only [bind, Except.bind, hskip]
  · intro rest hrest
    apply hclose rest hrest

/-- An element and the comma after it. -/
theorem scanElements_more {after : List Char} (hclose : ∀ rest, text ≠ ']' :: rest)
    (hvalue : value text = .ok after) (hskip : skipBlanks after = ',' :: rest) :
  scanElements value (rounds + 1) text = scanElements value rounds (skipBlanks rest)
  := by
  rw [scanElements, hvalue]
  · simp only [bind, Except.bind, hskip]
  · intro rest hrest
    apply hclose rest hrest

variable {limit : Nat}

theorem scanElements_complete (left : List Char) {elements : List (List Char)}
    (hvalue : value.Complete limit P) (hstarts : Starts P)
    (h : IsListing (fun element text => P element ∧ text = element) ']' elements used)
    (hrounds : used.length ≤ rounds) (hlimit : used.length ≤ limit) :
  scanElements value rounds (used ++ left) = .ok left
  := by
  have hclose : ∀ {text}, P text → ∀ left rest, text ++ left ≠ ']' :: rest := by
    intro text htext left rest heq
    obtain ⟨c, tail, rfl, -, hc⟩ := hstarts text htext
    apply hc (List.cons.inj heq).1
  induction h generalizing rounds with
  | empty =>
    cases rounds with
    | zero => simp at hrounds
    | succ rounds => rfl
  | @last element text gap ha hgap =>
    obtain ⟨helement, rfl⟩ := ha
    simp only [List.length_append, List.length_singleton] at hrounds hlimit
    cases rounds with
    | zero => simp at hrounds
    | succ rounds =>
      simp only [List.append_assoc, List.singleton_append]
      apply scanElements_last (hclose helement _)
      · apply hvalue _ _ helement (by omega)
        apply stops_append hgap
        apply stops_cons (by decide)
      · rw [skipBlanks_append hgap, skipBlanks_cons (by decide)]
  | @more element elements text gap gap' used ha hgap hgap' htail ih =>
    obtain ⟨helement, rfl⟩ := ha
    simp only [List.length_append, List.length_cons] at hrounds hlimit
    cases rounds with
    | zero => simp at hrounds
    | succ rounds =>
      simp only [List.append_assoc, List.cons_append]
      rw [scanElements_more (hclose helement _)]
      · rw [htail.skipBlanks_append (by decide) _ hgap']
        · apply ih <;> omega
        · rintro _ text ⟨htext, rfl⟩
          obtain ⟨c, rest, hrest, hc, -⟩ := hstarts text htext
          use c, rest
      · apply hvalue _ _ helement (by omega)
        apply stops_append hgap
        apply stops_cons (by decide)
      · rw [skipBlanks_append hgap, skipBlanks_cons (by decide)]

theorem memberName_complete {content : List Char} (h : IsContent content) :
  memberName ('"' :: (content ++ '"' :: left)) = .ok (String.ofList (decoded content), left)
  := by
  simp only [memberName, stringBody_complete h]

theorem IsMember.starts {written : MemberText} (h : IsMember P written text) :
  ∃ c rest, text = c :: rest ∧ isBlank c = false
  := by
  obtain ⟨-, -, gap, gap', -, -, rfl⟩ := h
  refine ⟨'"', _, rfl, by decide⟩

/-- The member that a round of `scanMembers` finds at the front of a text. -/
def Member.IsAt (value : Recognizer) (text : List Char) (member : Member) : Prop :=
  ∃ afterName rest, memberName text = .ok (member.name, afterName) ∧
    expectChar ':' (skipBlanks afterName) = .ok rest ∧ skipBlanks rest = member.start ∧
    value member.start = .ok member.after

theorem IsMember.isAt {written : MemberText} (h : IsMember P written text)
    (hvalue : value.Complete limit P) (hstarts : Starts P) (hlimit : text.length ≤ limit)
    (hstop : Stops left) :
  ∃ member, Member.IsAt value (text ++ left) member ∧ Member.Reads member written ∧
    member.after = left
  := by
  obtain ⟨hcontent, hraw, gap, gap', hgap, hgap', rfl⟩ := h
  obtain ⟨c, rest, hrest, hc, -⟩ := hstarts _ hraw
  simp only [List.cons_append, List.length_cons, List.append_assoc, List.length_append] at hlimit
  use ⟨String.ofList (decoded written.name), written.value ++ left, left⟩
  constructor
  · use gap ++ ':' :: (gap' ++ (written.value ++ left)), gap' ++ (written.value ++ left)
    refine ⟨?_, ?_, ?_, ?_⟩
    · simp only [List.append_assoc, List.cons_append, memberName_complete hcontent]
    · rw [skipBlanks_append hgap, skipBlanks_cons (by decide)]
      rfl
    · rw [skipBlanks_append hgap', hrest, List.cons_append, skipBlanks_cons hc]
    · apply hvalue _ _ hraw (by omega) hstop
  · constructor
    · constructor <;> rfl
    · rfl

/-- A member that is the last of its object. -/
theorem scanMembers_last {member : Member} (h : member.IsAt value text)
    (hskip : skipBlanks member.after = '}' :: left) :
  scanMembers value (rounds + 1) text = .ok ([member], left)
  := by
  obtain ⟨afterName, rest, hname, hcolon, hstart, hafter⟩ := h
  rw [scanMembers, hname]
  · simp only [bind, Except.bind, hcolon, hstart, hafter, hskip]
  · rintro rest rfl
    simp [memberName] at hname

/-- A member and the comma after it. -/
theorem scanMembers_more {member : Member} {members : List Member} {after : List Char}
    (h : member.IsAt value text) (hskip : skipBlanks member.after = ',' :: after)
    (hmembers : scanMembers value rounds (skipBlanks after) = .ok (members, left)) :
  scanMembers value (rounds + 1) text = .ok (member :: members, left)
  := by
  obtain ⟨afterName, rest, hname, hcolon, hstart, hafter⟩ := h
  rw [scanMembers, hname]
  · simp only [bind, Except.bind, hcolon, hstart, hafter, hskip, hmembers]
  · rintro rest rfl
    simp [memberName] at hname

theorem scanMembers_complete (left : List Char) {written : List MemberText}
    (hvalue : value.Complete limit P) (hstarts : Starts P)
    (h : IsListing (IsMember P) '}' written used)
    (hrounds : used.length ≤ rounds) (hlimit : used.length ≤ limit) :
  ∃ members, scanMembers value rounds (used ++ left) = .ok (members, left) ∧
    List.Forall₂ Member.Reads members written
  := by
  induction h generalizing rounds with
  | empty =>
    cases rounds with
    | zero => simp at hrounds
    | succ rounds => use [], rfl, .nil
  | @last written text gap ha hgap =>
    simp only [List.length_append, List.length_singleton] at hrounds hlimit
    cases rounds with
    | zero => simp at hrounds
    | succ rounds =>
      simp only [List.append_assoc, List.singleton_append]
      have hstop : Stops (gap ++ '}' :: left) := stops_append hgap (stops_cons (by decide))
      obtain ⟨member, hat, hreads, hafter⟩ := ha.isAt hvalue hstarts (by omega) hstop
      use [member]
      constructor
      · apply scanMembers_last hat
        rw [hafter, skipBlanks_append hgap, skipBlanks_cons (by decide)]
      · apply List.Forall₂.cons hreads .nil
  | @more written items text gap gap' used ha hgap hgap' htail ih =>
    simp only [List.length_append, List.length_cons] at hrounds hlimit
    cases rounds with
    | zero => simp at hrounds
    | succ rounds =>
      simp only [List.append_assoc, List.cons_append]
      obtain ⟨members, hmembers, hall⟩ := @ih rounds (by omega) (by omega)
      have hstop : Stops (gap ++ ',' :: (gap' ++ (used ++ left))) :=
        stops_append hgap (stops_cons (by decide))
      obtain ⟨member, hat, hreads, hafter⟩ := ha.isAt hvalue hstarts (by omega) hstop
      use member :: members
      constructor
      · apply scanMembers_more hat
        · rw [hafter, skipBlanks_append hgap, skipBlanks_cons (by decide)]
        · rw [htail.skipBlanks_append (by decide) (fun _ _ h => h.starts) hgap', hmembers]
      · apply List.Forall₂.cons hreads hall

theorem scanValue_string {rounds levels : Nat} (h : IsString used) :
  scanValue rounds levels (used ++ left) = .ok left
  := by
  obtain ⟨content, hcontent, rfl⟩ := h
  simp only [List.cons_append, List.append_assoc]
  simp [scanValue, stringBody_complete hcontent]

theorem scanValue_scalar {rounds levels : Nat} (h : IsScalar used) (hstop : Stops left) :
  scanValue rounds levels (used ++ left) = .ok left
  := by
  have hspan : (used ++ left).span isScalarChar = (used, left) := by
    obtain ⟨htake, hdrop⟩ := takeWhile_lacks h.2 hstop
    rw [List.span_eq_takeWhile_dropWhile, htake, hdrop]
  obtain ⟨hne, hall⟩ := h
  cases used with
  | nil => apply (hne rfl).elim
  | cons c used =>
    have hc : isScalarChar c = true := hall c (List.mem_cons_self ..)
    have hstart : ∀ d rest, isScalarChar d = false → c :: (used ++ left) ≠ d :: rest := by
      rintro d rest hd heq
      simp [(List.cons.inj heq).1, hd] at hc
    rw [List.cons_append, scanValue]
    · rw [← List.cons_append, hspan]
    · intro rest
      apply hstart _ rest (by decide)
    · intro rest
      apply hstart _ rest (by decide)
    · intro rest
      apply hstart _ rest (by decide)

/-- The members of an object, from after its brace. -/
theorem scanMembers_object (left : List Char) {members : List MemberText}
    (hvalue : value.Complete limit P) (hstarts : Starts P) (h : IsObject P members used)
    (hlen : used.length ≤ limit) :
  ∃ rest found, used ++ left = '{' :: rest ∧
    scanMembers value limit (skipBlanks rest) = .ok (found, left) ∧
    List.Forall₂ Member.Reads found members
  := by
  obtain ⟨gap, listing, hgap, hlisting, rfl⟩ := h
  simp only [List.cons_append, List.length_cons, List.length_append] at hlen
  have hlisting_len : listing.length ≤ limit := by omega
  obtain ⟨found, hfound, hall⟩ :=
    scanMembers_complete left hvalue hstarts hlisting hlisting_len hlisting_len
  use gap ++ (listing ++ left), found, by simp
  rw [hlisting.skipBlanks_append (by decide) (fun _ _ h => h.starts) hgap]
  apply And.intro hfound hall

theorem scanValue_object (left : List Char) {rounds levels : Nat} {members : List MemberText}
    (hvalue : Recognizer.Complete (scanValue rounds levels) rounds (IsValue levels))
    (h : IsObject (IsValue levels) members used) (hlen : used.length ≤ rounds) :
  scanValue rounds (levels + 1) (used ++ left) = .ok left
  := by
  obtain ⟨rest, found, hused, hfound, -⟩ :=
    scanMembers_object left hvalue (isValue_starts levels) h hlen
  rw [hused, scanValue, hfound]

theorem scanValue_array (left : List Char) {rounds levels : Nat} {elements : List (List Char)}
    (hvalue : Recognizer.Complete (scanValue rounds levels) rounds (IsValue levels))
    (h : IsArray (IsValue levels) elements used) (hlen : used.length ≤ rounds) :
  scanValue rounds (levels + 1) (used ++ left) = .ok left
  := by
  have hstarts := isValue_starts levels
  obtain ⟨gap, listing, hgap, hlisting, rfl⟩ := h
  simp only [List.cons_append, List.length_cons, List.length_append] at hlen
  have hitem : ∀ element text, IsValue levels element ∧ text = element →
      ∃ c rest, text = c :: rest ∧ isBlank c = false := by
    rintro element _ ⟨helement, rfl⟩
    obtain ⟨c, rest, hrest, hc, -⟩ := hstarts _ helement
    use c, rest
  have hlisting_len : listing.length ≤ rounds := by omega
  have hscan := scanElements_complete left hvalue hstarts hlisting hlisting_len hlisting_len
  simp only [List.cons_append, List.append_assoc]
  rw [scanValue, hlisting.skipBlanks_append (by decide) hitem hgap, hscan]

theorem scanValue_complete (rounds levels : Nat) :
  Recognizer.Complete (scanValue rounds levels) rounds (IsValue levels)
  := by
  induction levels with
  | zero =>
    rintro used left (h | h) hlen hstop
    · apply scanValue_string h
    · apply scanValue_scalar h hstop
  | succ levels ih =>
    rintro used left (h | h | ⟨members, hobject⟩ | ⟨elements, harray⟩) hlen hstop
    · apply scanValue_string h
    · apply scanValue_scalar h hstop
    · apply scanValue_object left ih hobject hlen
    · apply scanValue_array left ih harray hlen

/-! ### Documents -/

theorem skipBlanks_eq_nil :
  skipBlanks text = [] ↔ IsGap text
  := List.dropWhile_eq_nil_iff

/-- The members that the scanner finds are those of the document. -/
theorem scanDocument_sound {members : List Member} (h : scanDocument text = .ok members) :
  (IsGap text ∧ members = []) ∨ ∃ before written object after,
    IsGap before ∧ IsObject (IsValue 127) written object ∧ IsGap after ∧
      text = before ++ object ++ after ∧ List.Forall₂ Member.Reads members written
  := by
  simp only [scanDocument] at h
  split at h
  · next hblank =>
    left
    apply And.intro (skipBlanks_eq_nil.mp hblank) (Except.ok.inj h).symm
  · right
    obtain ⟨inside, hinside, h⟩ := bind_eq_ok.mp h
    obtain ⟨⟨found, left⟩, hfound, h⟩ := bind_eq_ok.mp h
    obtain ⟨written, used, hused, hall, hskip⟩ :=
      scanMembers_sound (scanValue_sound _ _) hfound
    obtain ⟨before, hbefore, htext⟩ := exists_gap text
    obtain ⟨gap, hgap, hgap_text⟩ := exists_gap inside
    split at h
    · next hend =>
      obtain rfl := Except.ok.inj h
      use before, written, '{' :: gap ++ used, left
      refine ⟨hbefore, ⟨gap, used, hgap, hused, rfl⟩, skipBlanks_eq_nil.mp hend, ?_, hall⟩
      rw [htext, expectChar_sound hinside, hgap_text, hskip]
      simp
    · simp at h

/-- The scanner finds the members of every document. -/
theorem scanDocument_complete {before object after : List Char} {written : List MemberText}
    (hbefore : IsGap before) (hobject : IsObject (IsValue 127) written object)
    (hafter : IsGap after) :
  ∃ members, scanDocument (before ++ object ++ after) = .ok members ∧
    List.Forall₂ Member.Reads members written
  := by
  have hlen : object.length ≤ (before ++ object ++ after).length + 1 := by
    simp only [List.length_append]
    omega
  obtain ⟨rest, members, hrest, hmembers, hall⟩ := scanMembers_object after
    (scanValue_complete _ _) (isValue_starts 127) hobject hlen
  use members
  constructor
  · have hstart : skipBlanks (before ++ object ++ after) = '{' :: rest := by
      rw [List.append_assoc, skipBlanks_append hbefore, hrest, skipBlanks_cons (by decide)]
    simp only [scanDocument, hstart]
    rw [bind_eq_ok]
    use rest, rfl
    rw [bind_eq_ok]
    use (members, after), hmembers
    simp only [skipBlanks_eq_nil.mpr hafter]
  · apply hall

theorem scanDocument_gap (h : IsGap text) :
  scanDocument text = .ok []
  := by
  simp only [scanDocument, skipBlanks_eq_nil.mpr h]

/-- The scanner accepts the documents of the grammar and no other text. -/
theorem scan_isOk_iff (text : String) :
  (scan text).isOk = true ↔ IsDocument text.toList
  := by
  constructor
  · intro h
    cases hscan : scanDocument text.toList with
    | error error => simp [scan, hscan, Except.isOk, Except.toBool] at h
    | ok members =>
      rcases scanDocument_sound hscan with ⟨hgap, -⟩ | hobject
      · apply Or.inl hgap
      · obtain ⟨before, written, object, after, hbefore, hobject, hafter, htext, -⟩ := hobject
        right
        use before, written, object, after
  · intro h
    have hok : ∃ members, scanDocument text.toList = .ok members := by
      rcases h with hgap | ⟨before, written, object, after, hbefore, hobject, hafter, htext⟩
      · use [], scanDocument_gap hgap
      · obtain ⟨members, hmembers, -⟩ := scanDocument_complete hbefore hobject hafter
        use members
        rw [htext, hmembers]
    obtain ⟨members, hmembers⟩ := hok
    simp [scan, hmembers, Except.isOk, Except.toBool]

end LumpRules.Document
