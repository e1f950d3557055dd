import LumpRules.Regex.CharSet
import LumpRules.Regex.Property.Category
import LumpRules.Regex.Property.Script
import LumpRules.Regex.Property.Extension
import LumpRules.Regex.Property.Binary
import LumpRules.Regex.Property.Version
import LumpRules.Text.Blank
import LumpRules.Text.Lowercase.Letters

/-!
# Properties of characters by name

`propertySet?` finds the characters of a property named in an expression: a binary property, a
general category or a script.  `propertyValueSet?` finds those for which a property has a value:
the general category, the script, the extensions of a script or the version that added them.
Names are compared loosely: case, spaces, hyphens and low lines do not count, nor does `is` at
the front.
-/

namespace LumpRules.Regex

open Text

/-- The entry of a table under a name. -/
def findTable? (table : List (List String × String)) (name : String) : Option CharSet :=
  (table.find? fun entry => entry.1.contains name).map fun entry => .ofTable entry.2

/-- The union of the general categories of the given short names. -/
def categoryUnion (names : List String) : CharSet :=
  names.foldl (fun set name => set.union ((findTable? generalCategories name).getD .none)) .none

/-! ### Sets with a definition of their own -/

/-- Letters. -/
def letters : CharSet := categoryUnion ["lu", "ll", "lt", "lm", "lo"]

/-- Marks. -/
def marks : CharSet := categoryUnion ["mn", "mc", "me"]

/-- Decimal digits of any script. -/
def digits : CharSet := (categoryUnion ["nd"]).normal

/-- White space. -/
def blanks : CharSet := ⟨blankRanges.map fun (first, last) => ⟨first, last⟩⟩

/-- The characters of a binary property that is listed in full. -/
def listedProperty (name : String) : CharSet :=
  (findTable? binaryProperties name).getD .none

/-- Alphabetic characters. -/
def alphabetic : CharSet :=
  ((letters.union (categoryUnion ["nl"])).union (.ofTable otherAlphabetic)).normal

/-- Characters that are numeric in some way. -/
def numeric : CharSet := (categoryUnion ["nd", "nl", "no"]).normal

/-- The characters of words: alphabetic ones, marks, digits, connectors and joiners. -/
def wordChars : CharSet :=
  (((alphabetic.union marks).union (categoryUnion ["nd", "pc"])).union
    (listedProperty "joincontrol")).normal

/-- Characters that are lower case. -/
def lowercaseChars : CharSet := (categoryUnion ["ll"]).union (.ofTable otherLowercase)

/-- Characters that are upper case. -/
def uppercaseChars : CharSet := (categoryUnion ["lu"]).union (.ofTable otherUppercase)

/-- Characters that may start an identifier. -/
def identifierStart : CharSet :=
  ((letters.union (categoryUnion ["nl"])).union (.ofTable otherIdStart)).diff
    (listedProperty "patternsyntax")

/-- Characters that may continue an identifier. -/
def identifierContinue : CharSet :=
  (identifierStart.union (categoryUnion ["mn", "mc", "nd", "pc"])).union (.ofTable otherIdContinue)

/-- Characters that are passed over when the case of their neighbours is asked for. -/
def caseIgnorable : CharSet :=
  ⟨caseIgnorableRanges.map fun (first, last) => ⟨first, last⟩⟩

/-- Characters that extend a grapheme. -/
def graphemeExtend : CharSet :=
  (categoryUnion ["mn", "me"]).union (.ofTable otherGraphemeExtend)

/-- Every character with a general category. -/
def assigned : CharSet :=
  generalCategories.foldl (fun set entry => set.union (.ofTable entry.2)) .none

/-- Characters that stand for themselves in a grapheme. -/
def graphemeBase : CharSet :=
  assigned.diff ((categoryUnion ["cc", "cf", "co", "zl", "zp"]).union graphemeExtend)

/-! ### Look-up by name -/

/-- The characters of a binary property. -/
def binaryProperty? (name : String) : Option CharSet :=
  match name with
  | "alphabetic" | "alpha" => some alphabetic
  | "lowercase" | "lower" => some lowercaseChars
  | "uppercase" | "upper" => some uppercaseChars
  | "cased" => some ((lowercaseChars.union uppercaseChars).union (categoryUnion ["lt"]))
  | "caseignorable" | "ci" => some caseIgnorable
  | "changeswhencasemapped" | "cwcm" =>
    some (((listedProperty "cwl").union (listedProperty "cwt")).union (listedProperty "cwu"))
  | "whitespace" | "wspace" | "space" => some blanks
  | "math" => some ((categoryUnion ["sm"]).union (.ofTable otherMath))
  | "idstart" | "ids" => some identifierStart
  | "idcontinue" | "idc" => some identifierContinue
  | "xidstart" | "xids" => some (identifierStart.diff (.ofTable notXidStart))
  | "xidcontinue" | "xidc" => some (identifierContinue.diff (.ofTable notXidContinue))
  | "graphemeextend" | "grext" => some graphemeExtend
  | "graphemebase" | "grbase" => some graphemeBase
  | "asciihexdigit" | "ahex" => some ((listedProperty "hexdigit").inter .ascii)
  | _ => findTable? binaryProperties name

/-- The general categories that make up a group of them. -/
def categoryGroup? (name : String) : Option (List String) :=
  match name with
  | "l" | "letter" => some ["lu", "ll", "lt", "lm", "lo"]
  | "lc" | "casedletter" => some ["lu", "ll", "lt"]
  | "m" | "mark" | "combiningmark" => some ["mn", "mc", "me"]
  | "n" | "number" => some ["nd", "nl", "no"]
  | "p" | "punctuation" | "punct" => some ["pc", "pd", "ps", "pe", "pi", "pf", "po"]
  | "s" | "symbol" => some ["sm", "sc", "sk", "so"]
  | "z" | "separator" => some ["zs", "zl", "zp"]
  | _ => none

/-- The characters of a general category or of a group of them. -/
def category? (name : String) : Option CharSet :=
  match name with
  | "any" => some .all
  | "assigned" => some assigned
  | "ascii" => some .ascii
  | "cn" | "unassigned" => some assigned.complement
  | "c" | "other" => some ((categoryUnion ["cc", "cf", "co"]).union assigned.complement)
  | _ =>
    match categoryGroup? name with
    | some names => some (categoryUnion names)
    | none => findTable? generalCategories name

/-- The characters of a script. -/
def script? (name : String) : Option CharSet :=
  findTable? scripts name

/-- The characters used with a script.  Common and inherited characters that are used with
certain scripts only do not count as such. -/
def scriptExtensions? (name : String) : Option CharSet :=
  (script? name).map fun set =>
    match name with
    | "common" | "zyyy" | "inherited" | "zinh" | "qaai" =>
      set.diff (scriptAdditions.foldl (fun all entry => all.union (.ofTable entry.2)) .none)
    | _ => set.union ((findTable? scriptAdditions name).getD .none)

/-- The characters that there are in a version of Unicode. -/
def charactersOfVersion? (name : String) : Option CharSet :=
  (versionAdditions.findIdx? fun entry => entry.1.contains name).map fun last =>
    (versionAdditions.take (last + 1)).foldl (fun set entry => set.union (.ofTable entry.2)) .none

/-! ### Loose comparison -/

/-- A name without case, spaces, hyphens, low lines and a leading `is`; `isc` stands for
itself. -/
def looseName (name : List Char) : String :=
  let (isShortened, rest) :=
    match name with
    | i :: s :: rest =>
      if i.toLower == 'i' && s.toLower == 's' then (true, rest) else (false, name)
    | _ => (false, name)
  let kept := rest.filter fun c => c != ' ' && c != '_' && c != '-' && c.toNat < 128
  let folded := String.ofList (kept.map Char.toLower)
  if isShortened && folded == "c" then "isc" else folded

/-- The characters of the property, category or script of a name. -/
def propertySet? (name : List Char) : Option CharSet :=
  let name := looseName name
  ((binaryProperty? name).or (category? name)).or (script? name)

/-- The characters whose named property has a named value. -/
def propertyValueSet? (name value : List Char) : Option CharSet :=
  let value := looseName value
  match looseName name with
  | "generalcategory" | "gc" => category? value
  | "script" | "sc" => script? value
  | "scriptextensions" | "scx" => scriptExtensions? value
  | "age" => charactersOfVersion? value
  | _ => none

end LumpRules.Regex
