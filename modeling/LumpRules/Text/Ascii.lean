/-!
# Names that ignore the case of ASCII letters

Attribute names, section names and keywords are compared with the twenty-six ASCII letters
folded to lower case and every other character taken as it is.  `lowerAscii` is the folded
spelling of a name and `sameName` the comparison, an equivalence because it is equality of
folded spellings.
-/

namespace LumpRules.Text

/-- The spelling of a name with its ASCII capital letters made small. -/
def lowerAscii (name : String) : String :=
  String.ofList (name.toList.map Char.toLower)

/-- Whether two names are equal up to the case of ASCII letters. -/
def sameName (a b : String) : Bool :=
  lowerAscii a == lowerAscii b

@[simp]
theorem sameName_iff {a b : String} :
  sameName a b = true ↔ lowerAscii a = lowerAscii b
  := by
  simp [sameName]

theorem sameName_refl (a : String) :
  sameName a a = true
  := by
  simp

/-- Whether every character of a text is ASCII. -/
def isAscii (text : String) : Bool :=
  text.toList.all fun c => c.toNat < 128

/-- The code points of the ASCII letters. -/
theorem isAlpha_iff {c : Char} :
  c.isAlpha = true ↔ 65 ≤ c.toNat ∧ c.toNat ≤ 90 ∨ 97 ≤ c.toNat ∧ c.toNat ≤ 122
  := by
  change (decide (65 ≤ c.val ∧ c.val ≤ 90) ||
    decide (97 ≤ c.val) && decide (c.val ≤ 122)) = true ↔ _
  simp [UInt32.le_iff_toNat_le]

end LumpRules.Text
