import LumpRules.Json.Reader
import LumpRules.Json.Writer

/-!
# Options of a run

A run may log every change it makes, and may leave out replacements.  Options are read from a
JSON object with the two names, or from an array with the two values in order; what is missing
keeps its default, and members of other names are passed over.
-/

namespace LumpRules

/-- The options of a run. -/
structure Options where
  /-- Every change is logged. -/
  verbose : Bool := false
  /-- Replacements are made. -/
  replaceEnabled : Bool := true
  deriving DecidableEq, Repr

namespace Options

open Json

/-- The options in JSON. -/
def toJson (options : Options) : Json :=
  .object [("verbose", .bool options.verbose), ("replace_enabled", .bool options.replaceEnabled)]

/-- A truth value. -/
def readBool : Reader Bool := fun text =>
  match skipSpace text with
  | 't' :: rest => readWord true ['r', 'u', 'e'] rest
  | 'f' :: rest => readWord false ['a', 'l', 's', 'e'] rest
  | _ => .error .expectedValue

/-- The value of a member: a truth value under the name of an option, anything under another. -/
def readMember (rounds : Nat) (name : String) : Reader (Option Bool) := fun text =>
  if name = "verbose" || name = "replace_enabled" then
    (readBool text).map fun (b, rest) => (some b, rest)
  else
    (readValue .passing rounds rounds text).map fun (_, rest) => (none, rest)

/-- The value of an option among the members of an object; it may be given once. -/
def uniqueMember? (name : String) (default : Bool) (members : List (String × Option Bool)) :
    Option Bool :=
  match members.filter fun member => member.1 = name with
  | [] => some default
  | [(_, value)] => value
  | _ => none

/-- The options that the members of an object give. -/
def ofMembers? (members : List (String × Option Bool)) : Option Options := do
  let verbose ← uniqueMember? "verbose" ({} : Options).verbose members
  let replaceEnabled ← uniqueMember? "replace_enabled" ({} : Options).replaceEnabled members
  return { verbose, replaceEnabled }

/-- The options that the elements of an array give. -/
def ofElements? : List Bool → Option Options
  | [] => some {}
  | [verbose] => some { verbose }
  | [verbose, replaceEnabled] => some { verbose, replaceEnabled }
  | _ => none

/-- The options that a text writes, with what is left after them. -/
def readOptions? (rounds : Nat) (text : List Char) : Option (Options × List Char) :=
  match skipSpace text with
  | '{' :: rest => do
    let (members, rest) ← (readObject .full (readMember rounds) rounds rest).toOption
    return (← ofMembers? members, rest)
  | '[' :: rest => do
    let (elements, rest) ← (readArray readBool rounds rest).toOption
    return (← ofElements? elements, rest)
  | _ => none

/-- The options that a whole text writes. -/
def read? (text : String) : Option Options := do
  let (options, rest) ← readOptions? (text.length + 1) text.toList
  (finish options rest).toOption

end Options

end LumpRules
