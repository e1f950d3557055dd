import LumpRules.Regex.Expr
import LumpRules.Regex.Folding

/-!
# Reading expressions

`Expr.read?` reads the notation of regular expressions: literals, classes in brackets with set
operations, named properties, groups with flags, counted repetition, alternation and assertions.
There is no look-around and no back-reference.  Case is ignored and Unicode respected unless
flags in the text say otherwise.  A text that is no expression, or that nests deeper than
`maxHeight`, has none.

The readers below share an `Input`: the text that is left, the flags in force and the names of
groups already taken.
-/

namespace LumpRules.Regex

open Text

/-- The flags in force at a place in an expression. -/
structure Flags where
  ignoreCase : Bool := true
  multiLine : Bool := false
  dotAll : Bool := false
  unicode : Bool := true
  crlf : Bool := false
  /-- Space and comments in the expression do not count. -/
  extended : Bool := false
  deriving DecidableEq, Repr

/-- What a reader works on. -/
structure Input where
  text : List Char
  flags : Flags := {}
  groupNames : List (List Char) := []

/-- A reader of part of an expression. -/
abbrev Read := StateT Input Option

/-! ### Characters -/

/-- The text after space and comments, from inside a comment or not. -/
def dropIgnored (inComment : Bool) : List Char → List Char
  | [] => []
  | c :: rest =>
    if inComment then dropIgnored (c != '\n') rest
    else if isBlank c then dropIgnored false rest
    else if c == '#' then dropIgnored true rest
    else c :: rest

/-- Passes over space and comments where they do not count. -/
def space : Read Unit :=
  modify fun input =>
    if input.flags.extended then { input with text := dropIgnored false input.text } else input

/-- The next character, which stays where it is. -/
def peek : Read (Option Char) := do
  return (← get).text.head?

/-- The next character. -/
def next : Read Char := do
  match (← get).text with
  | [] => failure
  | c :: rest =>
    modify ({ · with text := rest })
    return c

/-- The next character, with space after it passed over. -/
def nextSpaced : Read Char := do
  let c ← next
  space
  return c

/-- Passes over the given characters if they come next. -/
def skip? (start : List Char) : Read Bool := do
  let input ← get
  if start.isPrefixOf input.text then
    set { input with text := input.text.drop start.length }
    return true
  else
    return false

/-- Goes on only if a condition holds. -/
def require (condition : Bool) : Read Unit :=
  if condition then pure () else failure

/-- Reads characters up to a given one, and that one. -/
def readUntil (stop : Char) : Read (List Char) := do
  let input ← get
  match input.text.span (· != stop) with
  | (_, []) => failure
  | (before, _ :: rest) =>
    set { input with text := rest }
    return before

/-! ### Numbers -/

/-- Digits of a base, with space between them where it does not count, in at most the given
number of rounds. -/
def readDigits (isDigit : Char → Bool) : Nat → Read (List Char)
  | 0 => return []
  | rounds + 1 => do
    match ← peek with
    | some c =>
      if isDigit c then
        let _ ← nextSpaced
        return c :: (← readDigits isDigit rounds)
      else
        return []
    | none => return []

/-- Passes over white space. -/
def skipBlank : Read Unit :=
  modify fun input => { input with text := input.text.dropWhile isBlank }

/-- The greatest count of a repetition. -/
def maxCount : Nat := 0xffffffff

/-- A decimal number with white space around it. -/
def readCount : Read Nat := do
  skipBlank
  let digits ← readDigits Char.isDigit (← get).text.length
  skipBlank
  let n := digits.foldl (fun n c => n * 10 + (c.toNat - '0'.toNat)) 0
  require (!digits.isEmpty && n ≤ maxCount)
  return n

/-- The value of a digit of base sixteen. -/
def hexDigitValue? (c : Char) : Option Nat :=
  if c.isDigit then some (c.toNat - '0'.toNat)
  else if 'a' ≤ c.toLower && c.toLower ≤ 'f' then some (c.toLower.toNat - 'a'.toNat + 10)
  else none

/-- The character of a code point written in base sixteen. -/
def charOfHex (digits : List Char) : Read Char := do
  let values ← digits.mapM fun c => (hexDigitValue? c : Option Nat)
  let n := values.foldl (fun n value => n * 16 + value) 0
  require (!digits.isEmpty && n.isValidChar)
  return Char.ofNat n

/-- A given number of digits of base sixteen. -/
def readHexDigits : Nat → Read (List Char)
  | 0 => return []
  | n + 1 => do
    let c ← nextSpaced
    return c :: (← readHexDigits n)

/-- A character written by its code point: in braces, or with the number of digits that belongs
to the letter before it. -/
def readHexChar (width : Nat) : Read Char := do
  if ← skip? ['{'] then
    space
    let digits ← readDigits (· != '}') (← get).text.length
    let _ ← nextSpaced
    charOfHex digits
  else
    charOfHex (← readHexDigits width)

/-! ### Classes of characters -/

/-- The set with all variants in case, where case is ignored. -/
def Flags.fold (flags : Flags) (set : CharSet) : CharSet :=
  if !flags.ignoreCase then set
  else if flags.unicode then set.foldCase
  else set.foldAsciiCase

/-- The set of a literal character. -/
def Flags.literal (flags : Flags) (c : Char) : CharSet :=
  flags.fold (.single c)

/-- A set, or its complement; without Unicode it must stay within ASCII. -/
def negatable (negated : Bool) (set : CharSet) : Read CharSet := do
  let set := if negated then set.complement else set
  require ((← get).flags.unicode || set.isAscii)
  return set

/-- White space in ASCII. -/
def asciiBlanks : CharSet := ⟨[⟨9, 13⟩, ⟨32, 32⟩]⟩

/-- Digits in ASCII. -/
def asciiDigits : CharSet := ⟨[⟨'0'.toNat, '9'.toNat⟩]⟩

/-- The set of a class written as a backslash and one letter. -/
def letterClass (letter : Char) : Read CharSet := do
  let unicode := (← get).flags.unicode
  let set :=
    match letter.toLower with
    | 'd' => if unicode then digits else asciiDigits
    | 's' => if unicode then blanks else asciiBlanks
    | _ => if unicode then wordChars else asciiWordChars
  negatable letter.isUpper set

/-- The set of a class named between colons. -/
def namedClass? (name : List Char) : Option CharSet :=
  let range (first last : Char) : CodeRange := ⟨first.toNat, last.toNat⟩
  match String.ofList name with
  | "alnum" => some ⟨[range '0' '9', range 'A' 'Z', range 'a' 'z']⟩
  | "alpha" => some ⟨[range 'A' 'Z', range 'a' 'z']⟩
  | "ascii" => some .ascii
  | "blank" => some ⟨[range '\t' '\t', range ' ' ' ']⟩
  | "cntrl" => some ⟨[⟨0, 31⟩, ⟨127, 127⟩]⟩
  | "digit" => some asciiDigits
  | "graph" => some ⟨[range '!' '~']⟩
  | "lower" => some ⟨[range 'a' 'z']⟩
  | "print" => some ⟨[range ' ' '~']⟩
  | "punct" => some ⟨[range '!' '/', range ':' '@', range '[' '\x60', range '\x7b' '~']⟩
  | "space" => some asciiBlanks
  | "upper" => some ⟨[range 'A' 'Z']⟩
  | "word" => some asciiWordChars
  | "xdigit" => some ⟨[range '0' '9', range 'A' 'F', range 'a' 'f']⟩
  | _ => none

/-- The part of a text before a separator and the part after it, if it occurs. -/
def splitAt? (separator : List Char) : List Char → Option (List Char × List Char)
  | [] => none
  | c :: rest =>
    if separator.isPrefixOf (c :: rest) then
      some ([], (c :: rest).drop separator.length)
    else
      (splitAt? separator rest).map fun (before, after) => (c :: before, after)

/-- The set that a property in braces names, and whether its complement is meant. -/
def bracedProperty? (text : List Char) : Option (Bool × CharSet) :=
  match splitAt? ['!', '='] text with
  | some (name, value) => (propertyValueSet? name value).map (true, ·)
  | none =>
    match (splitAt? [':'] text).or (splitAt? ['='] text) with
    | some (name, value) => (propertyValueSet? name value).map (false, ·)
    | none => (propertySet? text).map (false, ·)

/-- A class of characters with a property, from after the letter that announces it. -/
def propertyClass (negated : Bool) : Read CharSet := do
  let flags := (← get).flags
  space
  let (inverse, set) ←
    if ← skip? ['{'] then do
      space
      let name ← readDigits (· != '}') (← get).text.length
      let _ ← next
      (bracedProperty? name : Option (Bool × CharSet))
    else do
      let c ← next
      require (c != '\\')
      space
      let set ← (propertySet? [c] : Option CharSet)
      pure (false, set)
  require flags.unicode
  let set := flags.fold set
  return if negated != inverse then set.complement else set

/-! ### Escapes -/

/-- What a backslash and the characters after it mean. -/
inductive Escape where
  | char (c : Char)
  | chars (set : CharSet)
  | look (assertion : Assertion)

/-- Characters with a meaning of their own in expressions. -/
def isMeta (c : Char) : Bool :=
  "\\.+*?()|[]\x7b\x7d^$#&-~".toList.contains c

/-- Whether a backslash before the character means the character. -/
def isEscapable (c : Char) : Bool :=
  isMeta c || (c.toNat < 128 && !c.isAlphanum && c != '<' && c != '>')

/-- The boundary of a word that a name in braces stands for, or any boundary if there is no such
name. -/
def wordBoundary (ascii : Bool) : Read Assertion := do
  let start ← get
  let isNameChar (c : Char) := c.isAlpha || c == '-'
  if ← skip? ['{'] then
    space
    match ← peek with
    | none => failure
    | some c =>
      if isNameChar c then
        let name ← readDigits isNameChar (← get).text.length
        require ((← next) == '}')
        match String.ofList name with
        | "start" => return .wordStart ascii
        | "end" => return .wordEnd ascii
        | "start-half" => return .wordStartHalf ascii
        | "end-half" => return .wordEndHalf ascii
        | _ => failure
      else
        set start
        return .wordBoundary ascii
  else
    return .wordBoundary ascii

/-- An escape, from after its backslash. -/
def readEscape : Read Escape := do
  let flags := (← get).flags
  let ascii := !flags.unicode
  let c ← next
  match c with
  | 'x' | 'u' | 'U' =>
    space
    let isByte := c == 'x' && (← peek) != some '{'
    let d ← readHexChar (if c == 'x' then 2 else if c == 'u' then 4 else 8)
    require (flags.unicode || !isByte || d.toNat < 128)
    return .char d
  | 'p' => return .chars (← propertyClass false)
  | 'P' => return .chars (← propertyClass true)
  | 'd' | 's' | 'w' | 'D' | 'S' | 'W' => return .chars (← letterClass c)
  | 'a' => return .char '\x07'
  | 'f' => return .char '\x0c'
  | 't' => return .char '\t'
  | 'n' => return .char '\n'
  | 'r' => return .char '\r'
  | 'v' => return .char '\x0b'
  | 'A' => return .look .textStart
  | 'z' => return .look .textEnd
  | 'b' => return .look (← wordBoundary ascii)
  | 'B' => return .look (.noWordBoundary ascii)
  | '<' => return .look (.wordStart ascii)
  | '>' => return .look (.wordEnd ascii)
  | c =>
    require (isEscapable c)
    return .char c

/-! ### Classes in brackets -/

/-- An operation on two sets. -/
inductive SetOp where
  | inter
  | diff
  | symmDiff

/-- The result of an operation on sets. -/
def SetOp.apply : SetOp → CharSet → CharSet → CharSet
  | .inter => CharSet.inter
  | .diff => CharSet.diff
  | .symmDiff => CharSet.symmDiff

/-- A part of a class: its characters, how deep it nests and of how many items it is made. -/
structure ClassPart where
  set : CharSet := .none
  height : Nat := 0
  items : Nat := 0

/-- The part with one more item. -/
def ClassPart.add (part : ClassPart) (set : CharSet) (height : Nat) : ClassPart :=
  ⟨part.set.union set, max part.height height, part.items + 1⟩

/-- How deep a part nests when it stands for itself. -/
def ClassPart.total (part : ClassPart) : Nat :=
  if part.items ≤ 1 then part.height else part.height + 1

/-- Hyphens at the start of a class, in at most the given number of rounds. -/
def leadingHyphens : Nat → ClassPart → Read ClassPart
  | 0, part => return part
  | rounds + 1, part => do
    if ← skip? ['-'] then
      space
      leadingHyphens rounds (part.add (.single '-') 0)
    else
      return part

/-- The start of a class after its bracket: whether it is negated, and the hyphens or the
closing bracket that stand for themselves. -/
def openClass : Read (Bool × ClassPart) := do
  space
  let negated ← skip? ['^']
  if negated then space
  let part ← leadingHyphens (← get).text.length {}
  if part.items == 0 && (← skip? [']']) then
    space
    return (negated, part.add (.single ']') 0)
  else
    return (negated, part)

/-- A class named between colons, if one follows the bracket. -/
def namedClass : Read (Option CharSet) := do
  let start ← get
  let flags := start.flags
  let attempt : Read CharSet := do
    require (← skip? ['[', ':'])
    let negated ← skip? ['^']
    let name ← readUntil ':'
    require (← skip? [']'])
    let set ← (namedClass? name : Option CharSet)
    let set := flags.fold set
    return if negated then set.complement else set
  match attempt.run start with
  | some (found, rest) =>
    set rest
    return some found
  | none => return none

/-- A single item of a class. -/
def readClassItem : Read Escape := do
  let c ← next
  if c == '\\' then readEscape else return .char c

/-- A character of a class; without Unicode it must be ASCII. -/
def classChar : Escape → Read Char
  | .char c => do
    require ((← get).flags.unicode || c.toNat < 128)
    return c
  | _ => failure

/-- A range of characters, or a single item. -/
def readClassRange : Read CharSet := do
  let first ← readClassItem
  space
  let input ← get
  let rest := if input.flags.extended then dropIgnored false (input.text.drop 1)
    else input.text.drop 1
  require (!input.text.isEmpty)
  if input.text.head? != some '-' || rest.head? == some ']' || rest.head? == some '-' then
    match first with
    | .chars set => return set
    | item => return .single (← classChar item)
  else
    let _ ← nextSpaced
    let last ← readClassItem
    let first ← classChar first
    let last ← classChar last
    require (first ≤ last)
    return ⟨[⟨first.toNat, last.toNat⟩]⟩

/-- The operation that comes next, if one does. -/
def readSetOp : Read (Option SetOp) := do
  if ← skip? ['&', '&'] then return some .inter
  else if ← skip? ['-', '-'] then return some .diff
  else if ← skip? ['~', '~'] then return some .symmDiff
  else return none

/-- A class after what opens it, in at most the given number of rounds: its characters and how
deep it nests.  `left` holds what stands before the last operation. -/
def readClass (negated : Bool) : Nat → Option (SetOp × ClassPart) → ClassPart →
    Read (CharSet × Nat)
  | 0, _, _ => failure
  | rounds + 1, left, part => do
    let flags := (← get).flags
    let joined : ClassPart :=
      match left with
      | none => { part with height := part.total, items := 1 }
      | some (op, before) =>
        ⟨op.apply (flags.fold before.set) (flags.fold part.set),
          max before.height part.total + 1, 1⟩
    space
    match ← peek with
    | none => failure
    | some ']' =>
      let _ ← next
      let set ← negatable negated (flags.fold joined.set).normal
      return (set, joined.height + 1)
    | some '[' =>
      match ← namedClass with
      | some set => readClass negated rounds left (part.add (← negatable false set) 0)
      | none =>
        let _ ← next
        let (innerNegated, inner) ← openClass
        let (set, height) ← readClass innerNegated rounds none inner
        readClass negated rounds left (part.add set height)
    | some _ =>
      match ← readSetOp with
      | some op => readClass negated rounds (some (op, joined)) {}
      | none => readClass negated rounds left (part.add (← readClassRange) 0)

/-! ### Groups and flags -/

/-- The flags with one set or unset by its letter. -/
def Flags.update? (flags : Flags) (letter : Char) (value : Bool) : Option Flags :=
  match letter with
  | 'i' => some { flags with ignoreCase := value }
  | 'm' => some { flags with multiLine := value }
  | 's' => some { flags with dotAll := value }
  | 'u' => some { flags with unicode := value }
  | 'R' => some { flags with crlf := value }
  | 'x' => some { flags with extended := value }
  | 'U' => some flags
  | _ => none

/-- The flags that a group sets, and the text from the character that ends them.  No flag may
occur twice, and a hyphen must be followed by one. -/
def readFlags (seen : List Char) (flags : Flags) : List Char → Option (Flags × List Char)
  | [] => none
  | c :: rest =>
    if c == ':' || c == ')' then
      if seen.head? == some '-' then none else some (flags, c :: rest)
    else if seen.contains c then none
    else if c == '-' then readFlags ('-' :: seen) flags rest
    else
      match flags.update? c (!seen.contains '-') with
      | some flags => readFlags (c :: seen) flags rest
      | none => none

/-- Whether a character may stand in the name of a group, in its first place or a later one. -/
def isGroupNameChar (isFirst : Bool) (c : Char) : Bool :=
  c == '_' || alphabetic.contains c ||
    (!isFirst && (numeric.contains c || c == '.' || c == '[' || c == ']'))

/-- The name of a group, which no earlier group may have. -/
def readGroupName : Read Unit := do
  let name ← readUntil '>'
  let isName :=
    match name with
    | [] => false
    | c :: rest => isGroupNameChar true c && rest.all (isGroupNameChar false)
  require (isName && !(← get).groupNames.contains name)
  modify fun input => { input with groupNames := name :: input.groupNames }

/-- How a group begins. -/
inductive GroupStart where
  | capture
  | plain
  /-- No group: only flags for what follows. -/
  | flags
  deriving DecidableEq

/-- The start of a group after its parenthesis; flags take force at once. -/
def readGroupStart : Read GroupStart := do
  space
  let lookAround ← ["?=", "?!", "?<=", "?<!"].anyM fun start => skip? start.toList
  require !lookAround
  if (← skip? ['?', 'P', '<']) || (← skip? ['?', '<']) then
    readGroupName
    return .capture
  else if ← skip? ['?'] then
    let input ← get
    let (flags, rest) ← (readFlags [] input.flags input.text : Option (Flags × List Char))
    let isEmpty := rest.length == input.text.length
    set { input with flags := flags, text := rest }
    if (← next) == ':' then
      return .plain
    else
      require !isEmpty
      return .flags
  else
    return .capture

/-! ### Expressions -/

/-- A part of an expression and how deep it nests; flags alone are a part that cannot be
repeated. -/
structure Piece where
  expr : Expr
  height : Nat := 0
  isFlags : Bool := false

/-- Pieces one after the other, given in reverse. -/
def Piece.concat : List Piece → Piece
  | [] => ⟨.empty, 0, true⟩
  | [piece] => piece
  | pieces =>
    ⟨pieces.foldl (fun rest piece => .seq piece.expr rest) .empty,
      pieces.foldl (fun height piece => max height piece.height) 0 + 1, false⟩

/-- Alternatives, given in reverse. -/
def Piece.alternatives : List Piece → Piece
  | [] => ⟨.empty, 0, false⟩
  | [piece] => piece
  | piece :: pieces =>
    ⟨pieces.foldl (fun rest piece => .alt piece.expr rest) piece.expr,
      pieces.foldl (fun height piece => max height piece.height) piece.height + 1, false⟩

/-- Whether an expression matches no more than places. -/
def Expr.isPlace : Expr → Bool
  | .empty => true
  | .look _ => true
  | .chars _ => false
  | .seq a b => a.isPlace && b.isPlace
  | .alt a b => a.isPlace && b.isPlace
  | .repeated body _ _ => body.isPlace
  | .capture body => body.isPlace

/-- A repetition; what matches no more than places is repeated at most once. -/
def Expr.times (body : Expr) (least : Nat) (most : Option Nat) : Expr :=
  if body.isPlace then .repeated body (min least 1) (some (min (most.getD 1) 1))
  else .repeated body least most

/-- The repetition that comes next: its bounds. -/
def readBounds (c : Char) : Read (Nat × Option Nat) := do
  match c with
  | '?' => return (0, some 1)
  | '*' => return (0, none)
  | '+' => return (1, none)
  | _ =>
    space
    let least ← readCount
    let most ←
      if ← skip? [','] then do
        space
        if (← peek) == some '}' then pure none else pure (some (← readCount))
      else
        pure (some least)
    require ((← next) == '}')
    space
    require (most.all (least ≤ ·))
    return (least, most)

/-- The characters that a dot stands for. -/
def Flags.dot (flags : Flags) : CharSet :=
  if flags.dotAll then .all
  else if flags.crlf then CharSet.complement ⟨[⟨'\n'.toNat, '\n'.toNat⟩, ⟨'\r'.toNat, '\r'.toNat⟩]⟩
  else CharSet.complement (.single '\n')

/-- A single character, class or assertion. -/
def readAtom (c : Char) : Read Piece := do
  let flags := (← get).flags
  match c with
  | '\\' =>
    match ← readEscape with
    | .char c => return ⟨.chars (flags.literal c), 0, false⟩
    | .chars set => return ⟨.chars set.normal, 0, false⟩
    | .look assertion => return ⟨.look assertion, 0, false⟩
  | '.' =>
    require flags.unicode
    return ⟨.chars flags.dot, 0, false⟩
  | '^' =>
    return ⟨.look (if flags.multiLine then .lineStart flags.crlf else .textStart), 0, false⟩
  | '$' =>
    return ⟨.look (if flags.multiLine then .lineEnd flags.crlf else .textEnd), 0, false⟩
  | '[' =>
    let (negated, part) ← openClass
    let (set, height) ← readClass negated ((← get).text.length + 1) none part
    return ⟨.chars set, height, false⟩
  | c => return ⟨.chars (flags.literal c), 0, false⟩

/-- The rest of an expression or of a group, in at most the given number of rounds.  `branches`
are the alternatives already read and `pieces` the pieces of the present one, both in
reverse. -/
def readPieces (inGroup : Bool) : Nat → List Piece → List Piece → Read Piece
  | 0, _, _ => failure
  | rounds + 1, branches, pieces => do
    space
    match ← peek with
    | none =>
      require !inGroup
      return .alternatives (.concat pieces :: branches)
    | some ')' =>
      require inGroup
      let _ ← next
      return .alternatives (.concat pieces :: branches)
    | some '|' =>
      let _ ← next
      readPieces inGroup rounds (.concat pieces :: branches) []
    | some '(' =>
      let _ ← next
      let before := (← get).flags
      match ← readGroupStart with
      | .flags => readPieces inGroup rounds branches (⟨.empty, 0, true⟩ :: pieces)
      | start =>
        let body ← readPieces true rounds [] []
        modify fun input => { input with flags := before }
        let expr := if start = .capture then .capture body.expr else body.expr
        readPieces inGroup rounds branches (⟨expr, body.height + 1, false⟩ :: pieces)
    | some c =>
      let _ ← next
      if c == '?' || c == '*' || c == '+' || c == '{' then
        match pieces with
        | [] => failure
        | piece :: pieces =>
          require !piece.isFlags
          let (least, most) ← readBounds c
          let _ ← skip? ['?']
          let expr := piece.expr.times least most
          readPieces inGroup rounds branches (⟨expr, piece.height + 1, false⟩ :: pieces)
      else
        readPieces inGroup rounds branches ((← readAtom c) :: pieces)

/-- The deepest nesting of an expression. -/
def maxHeight : Nat := 250

/-- The expression that a text writes. -/
def Expr.read? (text : List Char) : Option Expr := do
  let (piece, _) ← (readPieces false (text.length + 1) [] []).run { text := text }
  if piece.height ≤ maxHeight then some piece.expr else none

end LumpRules.Regex
