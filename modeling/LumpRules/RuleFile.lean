import LumpRules.Rule.Application
import LumpRules.Rule.Compilation

/-!
# Rule files

A rule file is a list of rules that are applied together.  It is put together from rules, which
are brought into the order of application, or compiled from a document.
-/

namespace LumpRules

/-- A list of rules that are applied together. -/
structure RuleFile where
  rules : List Rule := []

/-- Why a document gives no rules. -/
inductive DocumentError where
  | parse (error : Document.ParseError)
  | compile (error : CompileError)
  deriving DecidableEq, Repr

/-- The wording of an error. -/
def DocumentError.message : DocumentError → String
  | .parse error => "parse error: " ++ error.message
  | .compile error => error.message

namespace RuleFile

/-- The rules in the order of application; rules of one kind keep their order. -/
def ofRules (rules : List Rule) : RuleFile :=
  ⟨rules.mergeSort fun a b => a.kind.rank ≤ b.kind.rank⟩

/-- The rules that a document describes. -/
def ofDocument [PatternReader] (text : String) : ExceptT DocumentError Logged RuleFile :=
  match Document.parse text with
  | .error error => throw (.parse error)
  | .ok sections => do
    let rules ← (compileSections sections).adapt DocumentError.compile
    return ⟨rules⟩

/-- Whether there are no rules. -/
def isEmpty (file : RuleFile) : Bool :=
  file.rules.isEmpty

/-- The lump after the rules have been applied, and the report. -/
def apply {ε σ : Type} [EntityView ε] [LumpView σ ε] (file : RuleFile) (options : Options)
    (lump : σ) : Logged (σ × Report) :=
  applyRules file.rules options lump

end RuleFile

end LumpRules
