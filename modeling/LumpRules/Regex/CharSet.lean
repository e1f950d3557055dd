/-!
# Sets of characters

A set of characters is a list of ranges of code points.  `normal` brings it into the form with
ascending ranges that neither overlap nor touch, from which complements are read off.
-/

namespace LumpRules.Regex

/-- The code points from `first` to `last`. -/
structure CodeRange where
  first : Nat
  last : Nat
  deriving DecidableEq, Repr

/-- A set of characters, as ranges of code points. -/
structure CharSet where
  ranges : List CodeRange := []
  deriving DecidableEq, Repr

/-- The greatest code point. -/
def maxCodePoint : Nat := 0x10ffff

namespace CharSet

/-- No character. -/
def none : CharSet := ⟨[]⟩

/-- Every character. -/
def all : CharSet := ⟨[⟨0, maxCodePoint⟩]⟩

/-- The characters of ASCII. -/
def ascii : CharSet := ⟨[⟨0, 127⟩]⟩

/-- A single character. -/
def single (c : Char) : CharSet := ⟨[⟨c.toNat, c.toNat⟩]⟩

/-- Whether a code point lies in the set. -/
def hasCode (set : CharSet) (n : Nat) : Bool :=
  set.ranges.any fun range => range.first ≤ n && n ≤ range.last

/-- Whether a character lies in the set. -/
def contains (set : CharSet) (c : Char) : Bool :=
  set.hasCode c.toNat

/-- The characters of either set. -/
def union (a b : CharSet) : CharSet :=
  ⟨a.ranges ++ b.ranges⟩

/-- A range merged into ascending ranges that all start at or after it. -/
def mergeRange (range : CodeRange) : List CodeRange → List CodeRange
  | [] => [range]
  | next :: rest =>
    if next.first ≤ range.last + 1 then
      mergeRange ⟨range.first, max range.last next.last⟩ rest
    else range :: next :: rest

/-- The same set with ascending ranges that neither overlap nor touch. -/
def normal (set : CharSet) : CharSet :=
  ⟨(set.ranges.mergeSort (fun a b => a.first ≤ b.first)).foldr mergeRange []⟩

/-- The gaps from a code point on between ascending ranges. -/
def gaps (start : Nat) : List CodeRange → List CodeRange
  | [] => if start ≤ maxCodePoint then [⟨start, maxCodePoint⟩] else []
  | range :: rest =>
    if start < range.first then ⟨start, range.first - 1⟩ :: gaps (range.last + 1) rest
    else gaps (range.last + 1) rest

/-- The characters outside the set. -/
def complement (set : CharSet) : CharSet :=
  ⟨gaps 0 set.normal.ranges⟩

/-- The characters of both sets. -/
def inter (a b : CharSet) : CharSet :=
  (a.complement.union b.complement).complement

/-- The characters of the first set that are not in the second. -/
def diff (a b : CharSet) : CharSet :=
  a.inter b.complement

/-- The characters of exactly one of the sets. -/
def symmDiff (a b : CharSet) : CharSet :=
  (a.diff b).union (b.diff a)

/-- Whether all characters of the set are ASCII. -/
def isAscii (set : CharSet) : Bool :=
  set.ranges.all fun range => range.last < 128

/-- The value of a digit of base sixteen, as tables write it. -/
def tableDigit (c : Char) : Nat :=
  if c.isDigit then c.toNat - '0'.toNat else c.toNat - 'a'.toNat + 10

/-- The code point that a table entry writes. -/
def tableCode (digits : List Char) : Nat :=
  digits.foldl (fun n c => n * 16 + tableDigit c) 0

/-- The set that a table writes as code points and ranges of code points in base sixteen. -/
def ofTable (table : String) : CharSet :=
  let entries := table.toList.splitBy fun a b => !a.isWhitespace && !b.isWhitespace
  let words := entries.filter fun word => word.any (!·.isWhitespace)
  ⟨words.map fun word =>
    match word.span (· != '-') with
    | (first, []) => ⟨tableCode first, tableCode first⟩
    | (first, _ :: last) => ⟨tableCode first, tableCode last⟩⟩

end CharSet

end LumpRules.Regex
