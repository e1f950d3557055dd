import LumpRules.Rule.Basic

/-!
# Rules in JSON

The JSON form of connections, conditions and rules, as reports and logs show them.  Parts that
are absent or empty are left out, and a repeated attribute is written as often as it occurs.
-/

namespace LumpRules

namespace Json

/-- A member if there is a value for it. -/
def optional (name : String) (value : Option Json) : List (String × Json) :=
  match value with
  | some value => [(name, value)]
  | none => []

/-- A member if the list for it is not empty. -/
def nonempty (name : String) (items : List α) (value : List α → Json) : List (String × Json) :=
  if items.isEmpty then [] else [(name, value items)]

/-- An object with a member for each pair of a list. -/
def attributes (value : α → Json) (pairs : List (String × α)) : Json :=
  .object (pairs.map fun (key, x) => (key, value x))

/-- A delay. -/
def delay (x : Float32) : Json :=
  .number (.single x)

/-- A limit. -/
def limit (n : Int) : Json :=
  .number (.integer n)

end Json

/-- A connection in JSON. -/
def Connection.toJson (connection : Connection) : Json :=
  .object [
    ("output", .string connection.output),
    ("target_type", .string connection.targetType.name),
    ("target", .string connection.target),
    ("input", .string connection.input),
    ("param", .string connection.param),
    ("delay", Json.delay connection.delay),
    ("limit", Json.limit connection.limit)]

/-- A pattern of connections in JSON. -/
def ConnectionPattern.toJson (pattern : ConnectionPattern) : Json :=
  .object (
    Json.optional "output" (pattern.output.map RuleValue.toJson) ++
    Json.optional "target" (pattern.target.map RuleValue.toJson) ++
    Json.optional "input" (pattern.input.map RuleValue.toJson) ++
    Json.optional "param" (pattern.param.map RuleValue.toJson) ++
    Json.optional "delay" (pattern.delay.map Json.delay) ++
    Json.optional "limit" (pattern.limit.map Json.limit))

/-- A template of connections in JSON. -/
def ConnectionTemplate.toJson (template : ConnectionTemplate) : Json :=
  .object (
    Json.optional "output" (template.output.map Json.string) ++
    Json.optional "target" (template.target.map Json.string) ++
    Json.optional "input" (template.input.map Json.string) ++
    Json.optional "param" (template.param.map Json.string) ++
    Json.optional "delay" (template.delay.map Json.delay) ++
    Json.optional "limit" (template.limit.map Json.limit))

/-- Conditions in JSON. -/
def Conditions.toJson (conditions : Conditions) : Json :=
  .object (
    Json.nonempty "attributes" conditions.attributes (Json.attributes RuleValue.toJson) ++
    Json.nonempty "connections" conditions.connections
      (.array <| ·.map ConnectionPattern.toJson))

/-- Replacements in JSON. -/
def Replacements.toJson (replacements : Replacements) : Json :=
  .object (
    Json.nonempty "attributes" replacements.attributes (Json.attributes Json.string) ++
    Json.optional "connection" (replacements.connection.map ConnectionTemplate.toJson))

/-- Insertions in JSON. -/
def Insertions.toJson (insertions : Insertions) : Json :=
  .object (
    Json.nonempty "attributes" insertions.attributes (Json.attributes Json.string) ++
    Json.nonempty "connections" insertions.connections
      (.array <| ·.map ConnectionTemplate.toJson))

/-- The members that show a mutation. -/
def Mutation.members (mutation : Mutation) : List (String × Json) :=
  Json.optional "delete" (mutation.delete.map Conditions.toJson) ++
  Json.optional "replace" (mutation.replace.map Replacements.toJson) ++
  Json.optional "insert" (mutation.insert.map Insertions.toJson)

/-- A mutation in JSON. -/
def Mutation.toJson (mutation : Mutation) : Json :=
  .object mutation.members

/-- A rule in JSON, under the name of what it does. -/
def Rule.toJson : Rule → Json
  | .remove conditions => .object [("filter", .object [("matches", conditions.toJson)])]
  | .add insertions => .object [("add", .object [("insertions", insertions.toJson)])]
  | .modify conditions mutation =>
    .object [("modify", .object (("matches", conditions.toJson) :: mutation.members))]

end LumpRules
