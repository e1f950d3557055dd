import LumpRules.Document
import LumpRules.Event
import LumpRules.Rule.CompileError

/-!
# From sections to rules

`compileSections` turns the sections of a document into rules: the removals, then the additions,
then the modifications, each in the order in which they are written.  A section is an object or
an array of objects, one for each rule.  Rules that could do no harm and no good are left out:
those without conditions, and additions of nothing.  The first error ends it all.  Which texts are
patterns is up to a `PatternReader`.
-/

namespace LumpRules

open Text Document

/-- A step of compilation: a result or an error, and the events on the way. -/
abbrev Compilation := ExceptT CompileError Logged

/-- The members of an object. -/
abbrev Members := Entries Json

variable [PatternReader]

namespace Compilation

/-- An event on the way. -/
def event (e : Event) : Compilation Unit :=
  ExceptT.lift (Logged.event e)

/-- The error of a value that is not of the expected type. -/
def mismatch (key : String) (expected : ExpectedType) (found : Json) : Compilation α :=
  throw (.invalidValueType key expected found.kind)

/-! ### Values -/

/-- The value that a text of a document stands for: a pattern if it is written as one, or a
literal. -/
def ruleValue (text : String) : Compilation RuleValue :=
  match patternSource? text with
  | none => return .literal text
  | some source =>
    match Pattern.ofSource? source with
    | none => throw (.invalidPattern text)
    | some pattern => do
      event (.patternRegistered source)
      return .pattern pattern

/-- What a member of a block expects of an attribute.  An integer beyond 64 bits is a number. -/
def expectedValue (key : String) (value : Json) : Compilation RuleValue :=
  match value with
  | .string text => ruleValue text
  | .number (.integer n) =>
    if Decimal.minInteger ≤ n ∧ n ≤ Decimal.maxInteger then return .integer n
    else return .number (Float.ofInt n)
  | .number n => return .number n.toDouble
  | .bool b => return .boolean b
  | value => mismatch key .scalar value

/-- The text that a member of a block assigns.  A text written as a pattern must be one, but is
assigned as it stands; what is no text is written in JSON. -/
def assignedText (value : Json) : Compilation String :=
  match value with
  | .string text => do
    let _ ← ruleValue text
    return text
  | value => return value.render

/-- The text of a member. -/
def textOf (key : String) (value : Json) : Compilation String :=
  match value with
  | .string text => return text
  | value => mismatch key .text value

/-- The delay of a member, rounded to single precision. -/
def delayOf (key : String) (value : Json) : Compilation Float32 :=
  match value with
  | .number n => return Precision.narrow n.toDouble
  | value => mismatch key .number value

/-- The limit of a member, an integer of 32 bits. -/
def limitOf (key : String) (value : Json) : Compilation Int :=
  match value with
  | .number (.integer n) =>
    if -0x80000000 ≤ n ∧ n < 0x80000000 then return n else mismatch key .integer32 value
  | value => mismatch key .integer32 value

/-- The members of an object. -/
def membersOf (key : String) (value : Json) : Compilation Members :=
  match value with
  | .object members => return members
  | value => mismatch key .object value

/-! ### Connections -/

/-- A part of a connection, by its name in a document. -/
inductive ConnectionField where
  | output
  | target
  | input
  | param
  | delay
  | limit
  deriving DecidableEq, Repr

/-- The part of a connection that a name stands for, in its short or its long form. -/
def ConnectionField.ofName? (name : String) : Option ConnectionField :=
  match lowerAscii name with
  | "output" | "outputname" => some .output
  | "target" | "targetname" => some .target
  | "input" | "inputname" => some .input
  | "param" | "overrideparam" => some .param
  | "delay" => some .delay
  | "limit" | "timestofire" => some .limit
  | _ => none

/-- The members of an object that are parts of a connection; other members are passed over. -/
def foldFields (set : β → ConnectionField → String → Json → Compilation β) (start : β)
    (key : String) (value : Json) : Compilation β := do
  (← membersOf key value).foldlM (fun state (name, value) =>
    match ConnectionField.ofName? name with
    | some field => set state field name value
    | none => do
      event (.connectionFieldIgnored name)
      return state) start

/-- The pattern with one of its parts set. -/
def setPatternField (pattern : ConnectionPattern) (field : ConnectionField) (name : String)
    (value : Json) : Compilation ConnectionPattern :=
  match field with
  | .output => return { pattern with output := ← ruleValue (← textOf name value) }
  | .target => return { pattern with target := ← ruleValue (← textOf name value) }
  | .input => return { pattern with input := ← ruleValue (← textOf name value) }
  | .param => return { pattern with param := ← ruleValue (← textOf name value) }
  | .delay => return { pattern with delay := ← delayOf name value }
  | .limit => return { pattern with limit := ← limitOf name value }

/-- The pattern of connections that an object under a key describes. -/
def connectionPattern (key : String) (value : Json) : Compilation ConnectionPattern :=
  foldFields setPatternField {} key value

/-- The template with one of its parts set. -/
def setTemplateField (template : ConnectionTemplate) (field : ConnectionField) (name : String)
    (value : Json) : Compilation ConnectionTemplate :=
  match field with
  | .output => return { template with output := ← assignedText value }
  | .target => return { template with target := ← assignedText value }
  | .input => return { template with input := ← assignedText value }
  | .param => return { template with param := ← assignedText value }
  | .delay => return { template with delay := ← delayOf name value }
  | .limit => return { template with limit := ← limitOf name value }

/-- The template of a connection that an object under a key describes. -/
def connectionTemplate (key : String) (value : Json) : Compilation ConnectionTemplate :=
  foldFields setTemplateField {} key value

/-- Whether a member of a block holds connections and not an attribute. -/
def isConnectionsKey (key : String) : Bool :=
  sameName key "connections" || sameName key "io"

/-- The elements of an array of connections. -/
def connectionList (each : String → Json → Compilation α) (key : String) (value : Json) :
    Compilation (List α) :=
  match value with
  | .array items => items.mapM (each key)
  | value => mismatch key .connectionList value

/-! ### Blocks -/

/-- The conditions that a block describes. -/
def conditions (members : Members) : Compilation Conditions :=
  members.foldlM (fun (block : Conditions) (key, value) => do
    if isConnectionsKey key then
      return { block with
        connections := block.connections ++ (← connectionList connectionPattern key value) }
    else
      return { block with attributes := block.attributes ++ [(key, ← expectedValue key value)] })
    {}

/-- The replacements that a block describes, with at most one connection. -/
def replacements (members : Members) : Compilation Replacements :=
  members.foldlM (fun (block : Replacements) (key, value) => do
    if isConnectionsKey key then
      if block.connection.isSome then
        throw (.duplicateReplacement key)
      else
        return { block with connection := ← connectionTemplate key value }
    else
      return { block with attributes := block.attributes ++ [(key, ← assignedText value)] })
    {}

/-- The insertions that a block describes. -/
def insertions (members : Members) : Compilation Insertions :=
  members.foldlM (fun (block : Insertions) (key, value) => do
    if isConnectionsKey key then
      return { block with
        connections := block.connections ++ (← connectionList connectionTemplate key value) }
    else
      return { block with attributes := block.attributes ++ [(key, ← assignedText value)] })
    {}

/-- The first member of a name, ignoring the case of ASCII letters. -/
def member? (members : Members) (name : String) : Option Json :=
  Entries.get? lowerAscii name members

/-- A block that may be missing. -/
def block? (members : Members) (name : String) (compile : Members → Compilation α) :
    Compilation (Option α) :=
  match member? members name with
  | none => return none
  | some value => do
    return some (← compile (← membersOf name value))

/-! ### Rules -/

/-- The removal that an object describes, unless it has no conditions. -/
def removeRule? (members : Members) : Compilation (Option Rule) := do
  let conditions ← conditions members
  if conditions.isEmpty then
    event .removeRuleDropped
    return none
  else
    return some (.remove conditions)

/-- The addition that an object describes, unless it adds nothing. -/
def addRule? (members : Members) : Compilation (Option Rule) := do
  let insertions ← insertions members
  if insertions.isEmpty then
    event .addRuleDropped
    return none
  else
    return some (.add insertions)

/-- The modification that an object describes, unless it has no conditions; then nothing else of
it is looked at. -/
def modifyRule? (members : Members) : Compilation (Option Rule) := do
  match member? members "match" with
  | none => throw .missingMatchBlock
  | some value =>
    let matching ← conditions (← membersOf "match" value)
    if matching.isEmpty then
      event .modifyRuleDropped
      return none
    else
      let delete ← block? members "delete" conditions
      let replace ← block? members "replace" replacements
      let insert ← block? members "insert" insertions
      return some (.modify matching { delete, replace, insert })

/-! ### Sections -/

/-- The members of an object in a section. -/
def sectionObject (kind : RuleKind) : Json → Compilation Members
  | .object members => return members
  | value => throw (.invalidSection kind value.kind)

/-- The objects in a text of a section. -/
def sectionObjects (kind : RuleKind) (fragment : String) : Compilation (List Members) :=
  match Json.read fragment with
  | .error reason => throw (.invalidJson (preview fragment) reason)
  | .ok (.array items) => items.mapM (sectionObject kind)
  | .ok value => return [← sectionObject kind value]

/-- The rules in a text of a section. -/
def fragmentRules (kind : RuleKind) (each : Members → Compilation (Option Rule))
    (fragment : String) : Compilation (List Rule) := do
  let objects ← sectionObjects kind fragment
  return (← objects.mapM each).filterMap id

/-- The rules of a section. -/
def sectionRules (sections : Sections) (kind : RuleKind)
    (each : Members → Compilation (Option Rule)) : Compilation (List Rule) := do
  return (← (sections.fragments kind.name).mapM (fragmentRules kind each)).flatten

end Compilation

/-- The rules of all sections, in the order in which they are applied. -/
def compileSections (sections : Sections) : Compilation (List Rule) := do
  let removals ← Compilation.sectionRules sections .remove Compilation.removeRule?
  let additions ← Compilation.sectionRules sections .add Compilation.addRule?
  let modifications ← Compilation.sectionRules sections .modify Compilation.modifyRule?
  return removals ++ additions ++ modifications

end LumpRules
