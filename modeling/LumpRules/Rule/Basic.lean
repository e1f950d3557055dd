import LumpRules.Entries
import LumpRules.Rule.Connection

/-!
# Rules

A rule removes the entities that satisfy its conditions, adds one new entity, or modifies the
entities that satisfy its conditions by a mutation.
-/

namespace LumpRules

open Text

/-- The names of the attributes whose expected values may end in a wildcard. -/
def wildcardKeys : List String := ["targetname", "classname"]

/-- Whether the expected value of an attribute may end in a wildcard. -/
def isWildcardKey (key : String) : Bool :=
  wildcardKeys.any (sameName key)

/-- Conditions on the attributes and on the connections of an entity. -/
structure Conditions where
  attributes : Entries RuleValue := []
  connections : List ConnectionPattern := []

/-- Whether there are no conditions. -/
def Conditions.isEmpty (conditions : Conditions) : Bool :=
  conditions.attributes.isEmpty && conditions.connections.isEmpty

/-- Attributes to be set, and at most one connection to be added. -/
structure Replacements where
  attributes : Entries String := []
  connection : Option ConnectionTemplate := none

/-- Attributes to be set, and connections to be added. -/
structure Insertions where
  attributes : Entries String := []
  connections : List ConnectionTemplate := []

/-- Whether there is nothing to set or to add. -/
def Insertions.isEmpty (insertions : Insertions) : Bool :=
  insertions.attributes.isEmpty && insertions.connections.isEmpty

/-- A change to an entity, made in the order of its parts.  Every attribute and every connection
that satisfies one of the conditions of `delete` goes. -/
structure Mutation where
  delete : Option Conditions := none
  replace : Option Replacements := none
  insert : Option Insertions := none

/-- A rule. -/
inductive Rule where
  | remove (conditions : Conditions)
  | add (insertions : Insertions)
  | modify (conditions : Conditions) (mutation : Mutation)

/-- The kinds of rules, in the order in which they are applied. -/
inductive RuleKind where
  | remove
  | add
  | modify
  deriving DecidableEq, Repr

/-- The name of a kind, which is also that of its section. -/
def RuleKind.name : RuleKind → String
  | .remove => "remove"
  | .add => "add"
  | .modify => "modify"

/-- The place of a kind in the order of application. -/
def RuleKind.rank : RuleKind → Nat
  | .remove => 0
  | .add => 1
  | .modify => 2

/-- The kind of a rule. -/
def Rule.kind : Rule → RuleKind
  | .remove _ => .remove
  | .add _ => .add
  | .modify _ _ => .modify

end LumpRules
