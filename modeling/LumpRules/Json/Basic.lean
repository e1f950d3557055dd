import LumpRules.Entries
import LumpRules.Precision

/-!
# JSON values

Objects keep their members in the order in which they were written.  A number is an integer, or
a number of double or single precision; a number that was read is never of single precision.
-/

namespace LumpRules

/-- A number in a JSON value. -/
inductive JsonNumber where
  | integer (n : Int)
  | double (x : Float)
  | single (x : Float32)

/-- A JSON value. -/
inductive Json where
  | null
  | bool (b : Bool)
  | number (n : JsonNumber)
  | string (s : String)
  | array (items : List Json)
  | object (members : List (String × Json))

instance : Inhabited Json := ⟨.null⟩

/-- The kind of a JSON value. -/
inductive JsonKind where
  | null
  | boolean
  | number
  | string
  | array
  | object
  deriving DecidableEq, Repr

/-- How a kind is named in messages. -/
def JsonKind.describe : JsonKind → String
  | .null => "null"
  | .boolean => "boolean"
  | .number => "number"
  | .string => "string"
  | .array => "array"
  | .object => "object"

/-- The number as one of double precision. -/
def JsonNumber.toDouble : JsonNumber → Float
  | .integer n => Float.ofInt n
  | .double x => x
  | .single x => Precision.widen x

namespace Json

/-- The kind of a value. -/
def kind : Json → JsonKind
  | .null => .null
  | .bool _ => .boolean
  | .number _ => .number
  | .string _ => .string
  | .array _ => .array
  | .object _ => .object

/-- The object of the given members, each name with the last value given to it. -/
def ofMembers (members : List (String × Json)) : Json :=
  .object (members.foldl (fun object (name, value) => Entries.put id name value object) [])

end Json

end LumpRules
