import LumpRules.Text.Blank

/-!
# The structure of a document

A document is blank or one object.  The scanner recognises its members without building any
value below the top level: it checks that brackets, strings and separators fit together, allows
one comma before a closing bracket, and hands back each top-level member with the text of its
value as it stands.  Objects and arrays nest at most `maxLevels` deep, the document itself
being the first level.

Every reader takes the text that is left and returns what is left after it.  A `ScanError`
says what was expected where, innermost first, and keeps the text that was left there.
-/

namespace LumpRules.Document

open Text

/-- Something the scanner looks for. -/
inductive Expected where
  | character (c : Char)
  | value
  | propertyName
  | fewerLevels
  deriving DecidableEq, Repr

/-- The deepest nesting of objects and arrays, the document being level one. -/
def maxLevels : Nat := 128

/-- How an expectation is named in messages. -/
def Expected.describe : Expected → String
  | .character c => "`" ++ c.toString ++ "`"
  | .value => "value"
  | .propertyName => "property name"
  | .fewerLevels => "at most " ++ toString maxLevels ++ " levels of nesting"

/-- What was expected, innermost first, and the text left where it was not found. -/
structure ScanError where
  expected : List Expected
  rest : List Char
  deriving DecidableEq, Repr

/-- The error as seen from an enclosing expectation. -/
def ScanError.within (outer : Expected) (error : ScanError) : ScanError :=
  { error with expected := error.expected ++ [outer] }

/-- A reader that only recognises: what is left after it, or why it stopped. -/
abbrev Recognizer := List Char → Except ScanError (List Char)

/-! ### Tokens -/

/-- The text after any white space. -/
def skipBlanks (text : List Char) : List Char :=
  text.dropWhile isBlank

/-- The text after a given character. -/
def expectChar (c : Char) : Recognizer
  | [] => .error ⟨[.character c], []⟩
  | d :: rest => if d = c then .ok rest else .error ⟨[.character c], d :: rest⟩

/-- The characters written by a backslash and `c` in a member's name; an escape that is not
known stands for itself. -/
def unescape (c : Char) : List Char :=
  match c with
  | '"' => ['"']
  | '\\' => ['\\']
  | '/' => ['/']
  | 'n' => ['\n']
  | 't' => ['\t']
  | 'r' => ['\r']
  | other => ['\\', other]

/-- The content of a string and what is left after its closing quote, from after the opening
quote; nothing if the string does not end. -/
def stringBody : List Char → Option (List Char × List Char)
  | [] => none
  | '"' :: rest => some ([], rest)
  | ['\\'] => none
  | '\\' :: c :: rest => (stringBody rest).map fun (body, left) => (unescape c ++ body, left)
  | c :: rest => (stringBody rest).map fun (body, left) => (c :: body, left)

/-- Whether a character may stand in a number or a bare word. -/
def isScalarChar (c : Char) : Bool :=
  c.isAlphanum || c == '-' || c == '+' || c == '.'

/-- The name of a member.  A name that does not end is missed at the end of the text. -/
def memberName : List Char → Except ScanError (String × List Char)
  | '"' :: rest =>
    match stringBody rest with
    | some (name, left) => .ok (String.ofList name, left)
    | none => .error ⟨[.propertyName], []⟩
  | text => .error ⟨[.character '"', .propertyName], text⟩

/-! ### Values -/

/-- A member of an object: its name, and the text from its value on and after its value. -/
structure Member where
  name : String
  start : List Char
  after : List Char
  deriving DecidableEq, Repr

/-- The text of a member's value. -/
def Member.raw (member : Member) : String :=
  String.ofList (member.start.take (member.start.length - member.after.length))

/-- The members of an object, from after its opening brace, in at most the given number of
rounds; each round takes at least one character. -/
def scanMembers (value : Recognizer) : Nat → List Char →
    Except ScanError (List Member × List Char)
  | 0, text => .error ⟨[], text⟩
  | _ + 1, '}' :: rest => .ok ([], rest)
  | rounds + 1, text => do
    let (name, afterName) ← memberName text
    let start := skipBlanks (← expectChar ':' (skipBlanks afterName))
    let after ← value start
    match skipBlanks after with
    | ',' :: rest =>
      let (members, left) ← scanMembers value rounds (skipBlanks rest)
      .ok (⟨name, start, after⟩ :: members, left)
    | '}' :: left => .ok ([⟨name, start, after⟩], left)
    | text => .error ⟨[.character '}'], text⟩

/-- The elements of an array, from after its opening bracket, in at most the given number of
rounds; each round takes at least one character. -/
def scanElements (value : Recognizer) : Nat → Recognizer
  | 0, text => .error ⟨[], text⟩
  | _ + 1, ']' :: rest => .ok rest
  | rounds + 1, text => do
    let after ← value text
    match skipBlanks after with
    | ',' :: rest => scanElements value rounds (skipBlanks rest)
    | ']' :: left => .ok left
    | text => .error ⟨[.character ']'], text⟩

/-- A value whose objects and arrays nest at most `levels` deep.  `rounds` bounds the number
of members or elements of each of them.  An unfinished string and a character that starts no
value are missed at the start of the value. -/
def scanValue (rounds : Nat) : (levels : Nat) → Recognizer
  | levels, '{' :: rest =>
    match levels with
    | 0 => .error ⟨[.fewerLevels, .value], rest⟩
    | levels + 1 =>
      match scanMembers (scanValue rounds levels) rounds (skipBlanks rest) with
      | .ok (_, left) => .ok left
      | .error error => .error (error.within .value)
  | levels, '[' :: rest =>
    match levels with
    | 0 => .error ⟨[.fewerLevels, .value], rest⟩
    | levels + 1 =>
      match scanElements (scanValue rounds levels) rounds (skipBlanks rest) with
      | .ok left => .ok left
      | .error error => .error (error.within .value)
  | _, '"' :: rest =>
    match stringBody rest with
    | some (_, left) => .ok left
    | none => .error ⟨[.value], '"' :: rest⟩
  | _, text =>
    match text.span isScalarChar with
    | ([], _) => .error ⟨[.value], text⟩
    | (_ :: _, left) => .ok left

/-! ### Documents -/

/-- The members of the object that makes up a document, in order; a blank document has none. -/
def scanDocument (text : List Char) : Except ScanError (List Member) := do
  let rounds := text.length + 1
  match skipBlanks text with
  | [] => .ok []
  | start =>
    let inside ← expectChar '{' start
    let (members, left) ←
      scanMembers (scanValue rounds (maxLevels - 1)) rounds (skipBlanks inside)
    match skipBlanks left with
    | [] => .ok members
    | rest => .error ⟨[], rest⟩

end LumpRules.Document
