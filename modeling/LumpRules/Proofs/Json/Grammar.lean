import LumpRules.Proofs.Json.Token

/-!
# The grammar of JSON texts

The texts that the JSON standard allows, said without any reader of them, with space between tokens
as `IsSpace` has it.

    text    ::= space value space
    value   ::= string | number | 'false' | 'null' | 'true' | array | object
    array   ::= '[' space [ value { space ',' space value } space ] ']'
    object  ::= '{' space [ member { space ',' space member } space ] '}'
    member  ::= string space ':' space value
    string  ::= '"' { char } '"'
    number  ::= [ '-' ] whole [ '.' digits ] [ ( 'e' | 'E' ) [ '+' | '-' ] digits ]

A string ends on its line, as control characters have to be written as escapes (`IsChars.line`), and
a number is a scalar of a document (`IsNumber.isScalar`).
-/

namespace LumpRules.Json

open Text Document

variable {text : List Char}

/-! ### Strings -/

/-- What may stand between the quotes of a string: characters from the space on other than quotes
and backslashes, and escapes of one character or of four digits of base sixteen. -/
inductive IsChars : List Char → Prop where
  | nil : IsChars []
  | plain {c : Char} {rest : List Char} :
      ' ' ≤ c → c ≠ '"' → c ≠ '\\' → IsChars rest → IsChars (c :: rest)
  | escape {c : Char} {rest : List Char} :
      c ∈ ['"', '\\', '/', 'b', 'f', 'n', 'r', 't'] → IsChars rest → IsChars ('\\' :: c :: rest)
  | unit {digits rest : List Char} :
      digits.length = 4 → (∀ c ∈ digits, (hexValue? c).isSome = true) → IsChars rest →
      IsChars ('\\' :: 'u' :: (digits ++ rest))

/-! ### Numbers -/

/-- At least one digit. -/
def IsDigits (text : List Char) : Prop :=
  text ≠ [] ∧ ∀ c ∈ text, c.isDigit = true

/-- Digits of which the first one is a zero only if it stands alone. -/
def IsWhole (text : List Char) : Prop :=
  IsDigits text ∧ (text.head? = some '0' → text = ['0'])

/-- Nothing, or a point and digits. -/
def IsFraction (text : List Char) : Prop :=
  text = [] ∨ ∃ digits, IsDigits digits ∧ text = '.' :: digits

/-- Nothing, or a letter, perhaps a sign, and digits. -/
def IsExponent (text : List Char) : Prop :=
  text = [] ∨ ∃ letter sign digits, letter ∈ ['e', 'E'] ∧ sign ∈ [[], ['+'], ['-']] ∧
    IsDigits digits ∧ text = letter :: (sign ++ digits)

/-- A number. -/
def IsNumber (text : List Char) : Prop :=
  ∃ sign whole fraction exponent, sign ∈ [[], ['-']] ∧ IsWhole whole ∧ IsFraction fraction ∧
    IsExponent exponent ∧ text = sign ++ (whole ++ (fraction ++ exponent))

/-! ### Values -/

/-- Items separated by commas, at least one. -/
inductive IsSequence (item : List Char → Prop) : List Char → Prop where
  | one {text : List Char} : item text → IsSequence item text
  | more {text before after rest : List Char} :
      item text → IsSpace before → IsSpace after → IsSequence item rest →
      IsSequence item (text ++ before ++ ',' :: after ++ rest)

/-- Brackets with space or items between them. -/
def IsWrapped (first close : Char) (item : List Char → Prop) (text : List Char) : Prop :=
  (∃ space, IsSpace space ∧ text = first :: space ++ [close]) ∨
  ∃ before items after, IsSpace before ∧ IsSequence item items ∧ IsSpace after ∧
    text = first :: before ++ items ++ after ++ [close]

/-- A value other than an array or an object. -/
def IsLeaf (text : List Char) : Prop :=
  (∃ content, IsChars content ∧ text = '"' :: content ++ ['"']) ∨ IsNumber text ∨
    text ∈ [['f', 'a', 'l', 's', 'e'], ['n', 'u', 'l', 'l'], ['t', 'r', 'u', 'e']]

/-- A name and a value. -/
def IsPair (value : List Char → Prop) (text : List Char) : Prop :=
  ∃ name before after rest, IsChars name ∧ IsSpace before ∧ IsSpace after ∧ value rest ∧
    text = '"' :: name ++ '"' :: before ++ ':' :: after ++ rest

/-- A value whose arrays and objects nest at most `levels` deep. -/
def IsNested : (levels : Nat) → List Char → Prop
  | 0, text => IsLeaf text
  | levels + 1, text =>
    IsLeaf text ∨ IsWrapped '[' ']' (IsNested levels) text ∨
      IsWrapped '{' '}' (IsPair (IsNested levels)) text

/-- A JSON text, of any nesting. -/
def IsText (text : List Char) : Prop :=
  ∃ levels before value after, IsSpace before ∧ IsNested levels value ∧ IsSpace after ∧
    text = before ++ value ++ after

/-! ### Strings and scalars of documents -/

/-- A digit of base sixteen is neither a quote nor a backslash nor a line break. -/
theorem plain_of_hexValue? {c : Char} (h : (hexValue? c).isSome = true) :
  c ≠ '"' ∧ c ≠ '\\' ∧ c ≠ '\n'
  := by
  refine ⟨?_, ?_, ?_⟩ <;>
  · rintro rfl
    contradiction

theorem isContent_of_plain {rest : List Char} (h : ∀ c ∈ text, c ≠ '"' ∧ c ≠ '\\' ∧ c ≠ '\n')
    (hrest : IsContent rest) :
  IsContent (text ++ rest)
  := by
  induction text with
  | nil => apply hrest
  | cons c text ih =>
    rw [List.forall_mem_cons] at h
    obtain ⟨⟨hquote, hslash, -⟩, htext⟩ := h
    apply IsContent.plain hquote hslash (ih htext)

/-- Characters that stand for themselves. -/
theorem isChars_plain {rest : List Char}
    (h : (text.all fun c => ' ' ≤ c && c != '"' && c != '\\') = true) (hrest : IsChars rest) :
  IsChars (text ++ rest)
  := by
  induction text with
  | nil => apply hrest
  | cons c text ih =>
    simp only [List.all_cons, Bool.and_eq_true, decide_eq_true_eq, bne_iff_ne] at h
    obtain ⟨⟨⟨hspace, hquote⟩, hslash⟩, htext⟩ := h
    apply IsChars.plain hspace hquote hslash (ih htext)

theorem IsChars.isContent (h : IsChars text) :
  IsContent text
  := by
  induction h with
  | nil => apply IsContent.nil
  | plain _ hquote hslash _ ih => apply IsContent.plain hquote hslash ih
  | escape _ _ ih => apply IsContent.escape ih
  | unit _ hdigits _ ih =>
    apply IsContent.escape
    apply isContent_of_plain (fun c hc => plain_of_hexValue? (hdigits c hc)) ih

theorem IsChars.line (h : IsChars text) :
  '\n' ∉ text
  := by
  induction h with
  | nil => apply List.not_mem_nil
  | plain hspace _ _ _ ih =>
    rw [List.mem_cons]
    rintro (rfl | hline)
    · contradiction
    · apply ih hline
  | escape hc _ ih =>
    rw [List.mem_cons, List.mem_cons]
    rintro (hline | rfl | hline)
    · contradiction
    · contradiction
    · apply ih hline
  | unit _ hdigits _ ih =>
    rw [List.mem_cons, List.mem_cons, List.mem_append]
    rintro (hline | hline | hline | hline)
    · contradiction
    · contradiction
    · apply (plain_of_hexValue? (hdigits _ hline)).2.2 rfl
    · apply ih hline

/-- Whether all characters of a text may stand in a scalar. -/
abbrev IsScalarText (text : List Char) : Prop :=
  ∀ c ∈ text, isScalarChar c = true

theorem IsDigits.scalarText (h : IsDigits text) :
  IsScalarText text
  := by
  intro c hc
  simp [isScalarChar, Char.isAlphanum, h.2 c hc]

theorem IsFraction.scalarText (h : IsFraction text) :
  IsScalarText text
  := by
  rcases h with rfl | ⟨digits, hdigits, rfl⟩
  · apply List.forall_mem_nil
  · rw [IsScalarText, List.forall_mem_cons]
    exact ⟨by decide, hdigits.scalarText⟩

theorem IsExponent.scalarText (h : IsExponent text) :
  IsScalarText text
  := by
  rcases h with rfl | ⟨letter, sign, digits, hletter, hsign, hdigits, rfl⟩
  · apply List.forall_mem_nil
  · rw [IsScalarText, List.forall_mem_cons, List.forall_mem_append]
    simp only [List.mem_cons, List.not_mem_nil, or_false] at hletter hsign
    refine ⟨?_, ?_, hdigits.scalarText⟩
    · rcases hletter with rfl | rfl <;> decide
    · rcases hsign with rfl | rfl | rfl <;> exact List.all_eq_true.mp rfl

theorem IsNumber.isScalar (h : IsNumber text) :
  IsScalar text
  := by
  obtain ⟨sign, whole, fraction, exponent, hsign, hwhole, hfraction, hexponent, rfl⟩ := h
  constructor
  · simp [hwhole.1.1]
  · simp only [List.forall_mem_append]
    refine ⟨?_, hwhole.1.scalarText, hfraction.scalarText, hexponent.scalarText⟩
    simp only [List.mem_cons, List.not_mem_nil, or_false] at hsign
    rcases hsign with rfl | rfl <;> exact List.all_eq_true.mp rfl

/-- A leaf is a string or a scalar of a document. -/
theorem IsLeaf.cases (h : IsLeaf text) :
  (∃ content, IsChars content ∧ text = '"' :: content ++ ['"']) ∨ IsScalar text
  := by
  rcases h with hstring | hnumber | hname
  · apply Or.inl hstring
  · apply Or.inr hnumber.isScalar
  · right
    simp only [List.mem_cons, List.not_mem_nil, or_false] at hname
    rcases hname with rfl | rfl | rfl
    all_goals
      constructor
      · apply List.cons_ne_nil
      · apply List.all_eq_true.mp rfl

end LumpRules.Json
