import LumpRules.Entity.View
import LumpRules.Rule.Basic

/-!
# Entities that satisfy conditions

An entity satisfies conditions if it has every attribute with a value as expected and, for every
pattern, shows some connection that satisfies it.
-/

namespace LumpRules

variable {ε : Type} [EntityView ε]

/-- Whether an attribute is there and has a value as expected. -/
def hasAttribute (entity : ε) (key : String) (expected : RuleValue) (allowWildcard : Bool) :
    Bool :=
  (EntityView.attribute? entity key).any (expected.accepts · allowWildcard)

/-- The connections that the host shows, in order. -/
def shownConnections (entity : ε) : List Connection :=
  (List.range (EntityView.connectionCount entity)).filterMap (EntityView.connection? entity)

/-- Whether an entity satisfies conditions. -/
def Conditions.holds (conditions : Conditions) (entity : ε) : Bool :=
  (conditions.attributes.all fun (key, expected) =>
    hasAttribute entity key expected (isWildcardKey key)) &&
  conditions.connections.all fun pattern => (shownConnections entity).any pattern.accepts

end LumpRules
