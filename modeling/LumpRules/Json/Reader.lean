import LumpRules.Json.Basic
import LumpRules.Decimal.Numeral

/-!
# Reading JSON

`Json.read` reads a whole text strictly, as one value with nothing but spaces, tabs and line
breaks around it.  It stops at the first thing that is wrong, and the error is the cause.
Objects and arrays nest at most `maxNesting` deep.  Values that are only passed over are checked
with less care: there, a number may be out of range and a surrogate may stand alone.

A number keeps as many digits of its significand as fit into 64 bits, and is that significand
multiplied or divided by one power of ten.
-/

namespace LumpRules.Json

open Decimal

/-- Why a text is not a JSON value. -/
inductive ReadError where
  | expectedValue
  | expectedWord
  | expectedColon
  | expectedElementEnd
  | expectedMemberEnd
  | nameNotString
  | trailingComma
  | trailingCharacters
  | invalidNumber
  | numberOutOfRange
  | invalidEscape
  | unfinishedSurrogatePair
  | loneSurrogate
  | controlCharacter
  | nestedTooDeeply
  | endInValue
  | endInString
  | endInArray
  | endInObject
  deriving DecidableEq, Repr

/-- The wording of a cause. -/
def ReadError.message : ReadError → String
  | .expectedValue => "expected value"
  | .expectedWord => "expected ident"
  | .expectedColon => "expected `:`"
  | .expectedElementEnd => "expected `,` or `]`"
  | .expectedMemberEnd => "expected `,` or `\x7d`"
  | .nameNotString => "key must be a string"
  | .trailingComma => "trailing comma"
  | .trailingCharacters => "trailing characters"
  | .invalidNumber => "invalid number"
  | .numberOutOfRange => "number out of range"
  | .invalidEscape => "invalid escape"
  | .unfinishedSurrogatePair => "unexpected end of hex escape"
  | .loneSurrogate => "lone leading surrogate in hex escape"
  | .controlCharacter => "control character (\\u0000-\\u001F) found while parsing a string"
  | .nestedTooDeeply => "recursion limit exceeded"
  | .endInValue => "EOF while parsing a value"
  | .endInString => "EOF while parsing a string"
  | .endInArray => "EOF while parsing a list"
  | .endInObject => "EOF while parsing an object"

/-- Whether a value is wanted, or only passed over. -/
inductive Care where
  | full
  | passing
  deriving DecidableEq, Repr

/-- The deepest nesting of objects and arrays. -/
def maxNesting : Nat := 127

/-- Whether a character may stand between tokens. -/
def isSpace (c : Char) : Bool :=
  c == ' ' || c == '\t' || c == '\n' || c == '\r'

/-- The text after any space. -/
def skipSpace (text : List Char) : List Char :=
  text.dropWhile isSpace

theorem skipSpace_skipSpace (text : List Char) :
  skipSpace (skipSpace text) = skipSpace text
  := by
  induction text with
  | nil => rfl
  | cons c text ih =>
    by_cases hspace : isSpace c = true
    · have hskip : skipSpace (c :: text) = skipSpace text := List.dropWhile_cons_of_pos hspace
      rw [hskip, ih]
    · have hskip : skipSpace (c :: text) = c :: text := List.dropWhile_cons_of_neg hspace
      rw [hskip, hskip]

/-! ### Strings -/

/-- The value of a digit of base sixteen. -/
def hexValue? (c : Char) : Option Nat :=
  if c.isDigit then some (c.toNat - '0'.toNat)
  else if 'a' ≤ c && c ≤ 'f' then some (c.toNat - 'a'.toNat + 10)
  else if 'A' ≤ c && c ≤ 'F' then some (c.toNat - 'A'.toNat + 10)
  else none

/-- The number that four digits of base sixteen write. -/
def hexUnit? (a b c d : Char) : Option Nat := do
  some ((((← hexValue? a) * 16 + (← hexValue? b)) * 16 + (← hexValue? c)) * 16 + (← hexValue? d))

/-- Whether a 16-bit unit is the first of a surrogate pair. -/
def isHighSurrogate (unit : Nat) : Bool :=
  0xd800 ≤ unit && unit ≤ 0xdbff

/-- Whether a 16-bit unit is the second of a surrogate pair. -/
def isLowSurrogate (unit : Nat) : Bool :=
  0xdc00 ≤ unit && unit ≤ 0xdfff

/-- The character that a surrogate pair encodes. -/
def ofSurrogates (high low : Nat) : Char :=
  Char.ofNat (0x10000 + (high - 0xd800) * 0x400 + (low - 0xdc00))

/-- The fault of an escape that lacks four digits: the text ends within the next four bytes, or
they are no digits. -/
def shortEscape (text : List Char) : ReadError :=
  if (String.ofList text).utf8ByteSize < 4 then .endInString else .invalidEscape

/-- The character written by a backslash and one letter. -/
def simpleEscape? (c : Char) : Option Char :=
  match c with
  | '"' => some '"'
  | '\\' => some '\\'
  | '/' => some '/'
  | 'b' => some '\x08'
  | 'f' => some '\x0c'
  | 'n' => some '\n'
  | 'r' => some '\r'
  | 't' => some '\t'
  | _ => none

/-- A character before the content of a string. -/
def consChar (c : Char) :
    Except ReadError (List Char × List Char) → Except ReadError (List Char × List Char)
  | .ok (body, rest) => .ok (c :: body, rest)
  | .error error => .error error

/-- The content of a string and the text after its closing quote, from after the opening
quote. -/
def readString (care : Care) : List Char → Except ReadError (List Char × List Char)
  | [] => .error .endInString
  | '"' :: rest => .ok ([], rest)
  | '\\' :: 'u' :: a :: b :: c :: d :: rest =>
    match hexUnit? a b c d with
    | none => .error (shortEscape (a :: b :: c :: d :: rest))
    | some unit =>
      if care = .passing then consChar '\ufffd' (readString care rest)
      else if isLowSurrogate unit then .error .loneSurrogate
      else if isHighSurrogate unit then
        match rest with
        | '\\' :: 'u' :: e :: f :: g :: h :: rest =>
          match hexUnit? e f g h with
          | none => .error (shortEscape (e :: f :: g :: h :: rest))
          | some low =>
            if isLowSurrogate low then consChar (ofSurrogates unit low) (readString care rest)
            else .error .loneSurrogate
        | '\\' :: 'u' :: rest => .error (shortEscape rest)
        | [] => .error .endInString
        | ['\\'] => .error .endInString
        | _ => .error .unfinishedSurrogatePair
      else consChar (Char.ofNat unit) (readString care rest)
  | '\\' :: 'u' :: rest => .error (shortEscape rest)
  | '\\' :: c :: rest =>
    match simpleEscape? c with
    | some c => consChar c (readString care rest)
    | none => .error .invalidEscape
  | c :: rest =>
    if c.toNat < 0x20 then .error .controlCharacter
    else if c = '\\' then .error .endInString
    else consChar c (readString care rest)

/-- Quotes, backslashes and control characters apart, a character stands for itself. -/
theorem readString_cons {care : Care} {c : Char} {rest : List Char} (hcontrol : ¬ c.toNat < 0x20)
    (hquote : c ≠ '"') (hslash : c ≠ '\\') :
  readString care (c :: rest) = consChar c (readString care rest)
  := by
  rw [readString, if_neg hcontrol, if_neg hslash]
  · apply hquote
  · intro _ _ _ _ _ hc
    apply (hslash hc).elim
  · intro _ hc
    apply (hslash hc).elim
  · intro _ _ hc
    apply (hslash hc).elim

/-! ### Numbers -/

/-- The greatest significand. -/
def maxSignificand : Nat := 0xffffffffffffffff

/-- A significand with more digits put after it as long as they fit, and the number of digits
that were left out. -/
def takeDigits (significand : Nat) : List Char → Nat × Nat
  | [] => (significand, 0)
  | c :: rest =>
    let next := significand * 10 + (c.toNat - '0'.toNat)
    if next ≤ maxSignificand then takeDigits next rest else (significand, rest.length + 1)

/-- At least one digit, as long as they go. -/
def readDigits (text : List Char) : Except ReadError (List Char × List Char) :=
  match text.span Char.isDigit with
  | ([], []) => .error .endInValue
  | ([], _ :: _) => .error .invalidNumber
  | (digits, rest) => .ok (digits, rest)

/-- The digits before the point: a zero stands there alone. -/
def readWhole (text : List Char) : Except ReadError (List Char × List Char) := do
  let (digits, rest) ← readDigits text
  match digits with
  | '0' :: _ :: _ => .error .invalidNumber
  | _ => .ok (digits, rest)

/-- The digits after a point, if there is one. -/
def readFraction : List Char → Except ReadError (List Char × List Char)
  | '.' :: rest => readDigits rest
  | text => .ok ([], text)

/-- The exponent, if there is one. -/
def readExponent (text : List Char) : Except ReadError (Option Int × List Char) :=
  match text with
  | [] => .ok (none, [])
  | c :: rest => do
    if c = 'e' || c = 'E' then
      let (negative, rest) := signed rest
      let (digits, rest) ← readDigits rest
      let magnitude : Int := digitsFrom 0 digits
      .ok (some (if negative then -magnitude else magnitude), rest)
    else
      .ok (none, text)

/-- The value of a number with the given digits, or nothing if it is out of range.  Without a
point, an exponent or digits left out it is an integer; negative zero and integers below the
64-bit range are not. -/
def numberOf? (negative : Bool) (whole fraction : List Char) (exponent : Option Int) :
    Option JsonNumber :=
  let (high, wholeLeft) := takeDigits 0 whole
  if fraction.isEmpty && exponent.isNone && wholeLeft == 0 then
    if !negative then some (.integer high)
    else if high == 0 || (high : Int) > -minInteger then some (.double (-(Float.ofNat high)))
    else some (.integer (-high))
  else
    let (significand, fractionLeft) := takeDigits high fraction
    let shift : Int := wholeLeft - (fraction.length - fractionLeft : Nat)
    (scale? (Float.ofNat significand) (shift + exponent.getD 0)).map fun x =>
      .double (if negative then -x else x)

/-- A number without its sign. -/
def readNumber (care : Care) (negative : Bool) (text : List Char) :
    Except ReadError (JsonNumber × List Char) := do
  let (whole, rest) ← readWhole text
  let (fraction, rest) ← readFraction rest
  let (exponent, rest) ← readExponent rest
  match numberOf? negative whole fraction exponent with
  | some n => .ok (n, rest)
  | none =>
    match care with
    | .full => .error .numberOutOfRange
    | .passing => .ok (.integer 0, rest)

/-! ### Values -/

/-- A reader: the value, and the text after it. -/
abbrev Reader (α : Type) := List Char → Except ReadError (α × List Char)

/-- The rest of a bare word. -/
def readWord (value : α) : List Char → Reader α
  | [], text => .ok (value, text)
  | _ :: _, [] => .error .endInValue
  | c :: word, d :: rest => if c = d then readWord value word rest else .error .expectedWord

/-- The elements of an array, from the start of one, in at most the given number of rounds; each
round takes at least one character. -/
def readElements (value : Reader α) : Nat → Reader (List α)
  | 0, _ => .error .endInArray
  | rounds + 1, text => do
    let (item, rest) ← value text
    match skipSpace rest with
    | [] => .error .endInArray
    | ']' :: rest => .ok ([item], rest)
    | ',' :: rest =>
      match skipSpace rest with
      | [] => .error .endInValue
      | ']' :: _ => .error .trailingComma
      | next =>
        let (items, rest) ← readElements value rounds next
        .ok (item :: items, rest)
    | _ => .error .expectedElementEnd

/-- The members of an object, from after the quote that opens a name, in at most the given
number of rounds; each round takes at least one character.  How a value is read may depend on
its name. -/
def readMembers (care : Care) (value : String → Reader α) : Nat → Reader (List (String × α))
  | 0, _ => .error .endInObject
  | rounds + 1, text => do
    let (body, rest) ← readString care text
    let name := String.ofList body
    match skipSpace rest with
    | [] => .error .endInObject
    | ':' :: rest =>
      let (item, rest) ← value name rest
      match skipSpace rest with
      | [] => .error .endInObject
      | '}' :: rest => .ok ([(name, item)], rest)
      | ',' :: rest =>
        match skipSpace rest with
        | [] => .error .endInValue
        | '"' :: next =>
          let (members, rest) ← readMembers care value rounds next
          .ok ((name, item) :: members, rest)
        | '}' :: _ => .error .trailingComma
        | _ => .error .nameNotString
      | _ => .error .expectedMemberEnd
    | _ => .error .expectedColon

/-- An array, from after its opening bracket. -/
def readArray (value : Reader α) (rounds : Nat) : Reader (List α) := fun text =>
  match skipSpace text with
  | [] => .error .endInArray
  | ']' :: rest => .ok ([], rest)
  | next => readElements value rounds next

/-- An object, from after its opening brace. -/
def readObject (care : Care) (value : String → Reader α) (rounds : Nat) :
    Reader (List (String × α)) :=
  fun text =>
    match skipSpace text with
    | [] => .error .endInObject
    | '}' :: rest => .ok ([], rest)
    | '"' :: next => readMembers care value rounds next
    | _ => .error .nameNotString

/-- A value whose objects and arrays nest at most `levels` deep.  `rounds` bounds the number of
members or elements of each of them. -/
def readValue (care : Care) (rounds : Nat) (levels : Nat) : Reader Json := fun text =>
  match skipSpace text with
  | [] => .error .endInValue
  | 'n' :: rest => readWord .null ['u', 'l', 'l'] rest
  | 't' :: rest => readWord (.bool true) ['r', 'u', 'e'] rest
  | 'f' :: rest => readWord (.bool false) ['a', 'l', 's', 'e'] rest
  | '-' :: rest => do
    let (n, rest) ← readNumber care true rest
    .ok (.number n, rest)
  | '"' :: rest => do
    let (body, rest) ← readString care rest
    .ok (.string (String.ofList body), rest)
  | '[' :: rest =>
    match levels with
    | 0 => .error .nestedTooDeeply
    | levels + 1 => do
      let (items, rest) ← readArray (readValue care rounds levels) rounds rest
      .ok (.array items, rest)
  | '{' :: rest =>
    match levels with
    | 0 => .error .nestedTooDeeply
    | levels + 1 => do
      let (members, rest) ← readObject care (fun _ => readValue care rounds levels) rounds rest
      .ok (ofMembers members, rest)
  | c :: rest =>
    if c.isDigit then do
      let (n, rest) ← readNumber care false (c :: rest)
      .ok (.number n, rest)
    else
      .error .expectedValue

/-- Space before a value does not matter. -/
theorem readValue_skipSpace {care : Care} {rounds levels : Nat} (text : List Char) :
  readValue care rounds levels (skipSpace text) = readValue care rounds levels text
  := by
  rw [readValue.eq_def, skipSpace_skipSpace, ← readValue.eq_def]

/-- Nothing but space may follow a value. -/
def finish (value : α) (rest : List Char) : Except ReadError α :=
  match skipSpace rest with
  | [] => .ok value
  | _ => .error .trailingCharacters

/-- The value that a text writes. -/
def read (text : String) : Except ReadError Json := do
  let chars := text.toList
  let (value, rest) ← readValue .full (chars.length + 1) maxNesting chars
  finish value rest

end LumpRules.Json
