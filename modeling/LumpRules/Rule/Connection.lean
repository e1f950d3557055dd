import LumpRules.Rule.Value

/-!
# Connections

A connection wires an output of an entity to an input of its target.  A `ConnectionPattern` is a
condition on a connection and a `ConnectionTemplate` a description of one to be made; both leave
out what they do not care about.  `ConnectionTemplate.build` makes the connection if its output,
input and target are given.
-/

namespace LumpRules

open Text

/-- How the target of a connection is looked up. -/
inductive TargetType where
  | invalid
  | classname
  | classnameDerivesFrom
  | entityName
  | containsComponent
  | specialActivator
  | specialCaller
  | entityHandle
  | entityNameOrClassName
  deriving DecidableEq, Repr

namespace TargetType

/-- All ways to look up a target, in the order of their numbers. -/
def all : List TargetType :=
  [.invalid, .classname, .classnameDerivesFrom, .entityName, .containsComponent,
    .specialActivator, .specialCaller, .entityHandle, .entityNameOrClassName]

/-- The number of a way to look up a target. -/
def code : TargetType → Int
  | .invalid => -1
  | .classname => 0
  | .classnameDerivesFrom => 1
  | .entityName => 2
  | .containsComponent => 3
  | .specialActivator => 4
  | .specialCaller => 5
  | .entityHandle => 6
  | .entityNameOrClassName => 7

/-- The way to look up a target that has a number. -/
def ofCode? (n : Int) : Option TargetType :=
  all.find? fun type => type.code == n

/-- The name of a way to look up a target. -/
def name : TargetType → String
  | .invalid => "Invalid"
  | .classname => "Classname"
  | .classnameDerivesFrom => "ClassnameDerivesFrom"
  | .entityName => "EntityName"
  | .containsComponent => "ContainsComponent"
  | .specialActivator => "SpecialActivator"
  | .specialCaller => "SpecialCaller"
  | .entityHandle => "EntityHandle"
  | .entityNameOrClassName => "EntityNameOrClassName"

end TargetType

/-- The delay of a connection that is made without one. -/
def defaultDelay : Float32 := 0.0

/-- The limit of a connection that is made without one: it may fire any number of times. -/
def defaultLimit : Int := -1

/-- A connection from an output to an input of a target. -/
structure Connection where
  output : String
  target : String
  input : String
  param : String := ""
  delay : Float32 := defaultDelay
  limit : Int := defaultLimit
  targetType : TargetType := .entityNameOrClassName

/-- Whether two connections are equal, their delays compared as numbers. -/
def Connection.same (a b : Connection) : Bool :=
  a.output == b.output && a.target == b.target && a.input == b.input && a.param == b.param &&
    a.delay == b.delay && a.limit == b.limit && a.targetType == b.targetType

/-- A condition on a connection; what is absent puts no condition. -/
structure ConnectionPattern where
  output : Option RuleValue := none
  target : Option RuleValue := none
  input : Option RuleValue := none
  param : Option RuleValue := none
  delay : Option Float32 := none
  limit : Option Int := none

namespace ConnectionPattern

/-- Whether the pattern puts no condition at all. -/
def isEmpty (pattern : ConnectionPattern) : Bool :=
  pattern.output.isNone && pattern.target.isNone && pattern.input.isNone &&
    pattern.param.isNone && pattern.delay.isNone && pattern.limit.isNone

/-- Whether a connection satisfies the pattern.  Only outputs and parameters may be given by
their beginning. -/
def accepts (pattern : ConnectionPattern) (connection : Connection) : Bool :=
  pattern.output.all (·.accepts connection.output true) &&
    pattern.target.all (·.accepts connection.target false) &&
    pattern.input.all (·.accepts connection.input false) &&
    pattern.param.all (·.accepts connection.param true) &&
    pattern.delay.all
      (fun delay => isNear (Precision.widen delay) (Precision.widen connection.delay)) &&
    pattern.limit.all (· == connection.limit)

end ConnectionPattern

/-- A part of a connection that must be given. -/
inductive RequiredField where
  | output
  | input
  | target
  deriving DecidableEq, Repr

/-- The name of a required part. -/
def RequiredField.name : RequiredField → String
  | .output => "output"
  | .input => "input"
  | .target => "target"

/-- Why a rule could not change an entity. -/
inductive ApplyError where
  | incompleteConnection (field : RequiredField)
  deriving DecidableEq, Repr

/-- The wording of an error. -/
def ApplyError.message : ApplyError → String
  | .incompleteConnection field =>
    "connection is missing required field '" ++ field.name ++ "'"

/-- A description of a connection to be made. -/
structure ConnectionTemplate where
  output : Option String := none
  target : Option String := none
  input : Option String := none
  param : Option String := none
  delay : Option Float32 := none
  limit : Option Int := none

namespace ConnectionTemplate

/-- A required part, which must be there and not blank. -/
def required (field : RequiredField) (value : Option String) : Except ApplyError String :=
  match value with
  | some text =>
    if text.toList.all isBlank then .error (.incompleteConnection field) else .ok text
  | none => .error (.incompleteConnection field)

/-- The connection that a template describes. -/
def build (template : ConnectionTemplate) : Except ApplyError Connection := do
  let output ← required .output template.output
  let input ← required .input template.input
  let target ← required .target template.target
  return {
    output, target, input
    param := template.param.getD ""
    delay := template.delay.getD defaultDelay
    limit := template.limit.getD defaultLimit }

end ConnectionTemplate

end LumpRules
