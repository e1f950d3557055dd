import LumpRules.Rule.Application
import Mathlib.Tactic.Common

/-!
# The parts of a mutation

A mutation is made in three steps, each of which may be missing: `Mutation.applyDelete`,
`Mutation.applyReplace` and `Mutation.applyInsert`.  `applyMutation_eq` says that they follow one
another, and that the errors of the last two are put together.
-/

namespace LumpRules

variable {ε : Type} [EntityView ε]

/-- The entity after the deletions of a mutation. -/
def Mutation.applyDelete (mutation : Mutation) (entity : ε) : Logged ε :=
  match mutation.delete with
  | some deletions => LumpRules.applyDelete deletions entity
  | none => pure entity

/-- The entity after the replacements of a mutation, if they are enabled, and the errors met. -/
def Mutation.applyReplace (enabled : Bool) (lump : String) (mutation : Mutation) (entity : ε) :
    Logged (ε × List ApplyError) :=
  match mutation.replace with
  | some replacements =>
    if enabled then
      attempt (.replacementSkipped lump) entity (LumpRules.applyReplace replacements entity)
    else
      pure (entity, [])
  | none => pure (entity, [])

/-- The entity after the insertions of a mutation, and the errors met. -/
def Mutation.applyInsert (lump : String) (mutation : Mutation) (entity : ε) :
    Logged (ε × List ApplyError) :=
  match mutation.insert with
  | some insertions =>
    attempt (.insertionSkipped lump) entity (LumpRules.applyInsert insertions entity)
  | none => pure (entity, [])

theorem applyMutation_eq (options : Options) (lump : String) (mutation : Mutation) (entity : ε) :
  applyMutation options lump mutation entity = do
    let deleted ← mutation.applyDelete entity
    let replaced ← mutation.applyReplace options.replaceEnabled lump deleted
    let inserted ← mutation.applyInsert lump replaced.1
    return (inserted.1, replaced.2 ++ inserted.2)
  := by
  obtain ⟨delete, replace, insert⟩ := mutation
  cases henabled : options.replaceEnabled <;> cases delete <;> cases replace <;> cases insert <;>
    simp [applyMutation, Mutation.applyDelete, Mutation.applyReplace, Mutation.applyInsert,
      henabled]

end LumpRules
