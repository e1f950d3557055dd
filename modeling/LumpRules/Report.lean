import LumpRules.Rule.Connection

/-!
# Reports

A report counts the entities that a run removed, added and modified, and lists the errors it met.
Reports of consecutive runs are put together with `merge`.
-/

namespace LumpRules

/-- What a run did. -/
structure Report where
  removed : Nat := 0
  added : Nat := 0
  modified : Nat := 0
  errors : List ApplyError := []
  deriving DecidableEq, Repr

namespace Report

/-- The report of one run followed by another. -/
def merge (first second : Report) : Report :=
  ⟨first.removed + second.removed, first.added + second.added,
    first.modified + second.modified, first.errors ++ second.errors⟩

/-- Merging reports is associative, so a run of runs may be put together in any grouping. -/
theorem merge_assoc (a b c : Report) :
  (a.merge b).merge c = a.merge (b.merge c)
  := by
  simp [merge, Nat.add_assoc]

@[simp]
theorem merge_empty (a : Report) :
  a.merge {} = a
  := by
  simp [merge]

@[simp]
theorem empty_merge (a : Report) :
  merge {} a = a
  := by
  simp [merge]

/-- Whether no entity was removed, added or modified. -/
def isUnchanged (report : Report) : Bool :=
  report.removed == 0 && report.added == 0 && report.modified == 0

/-- The report in one line; errors are counted if there are any. -/
def display (report : Report) : String :=
  "removed: " ++ toString report.removed ++ ", added: " ++ toString report.added ++
    ", modified: " ++ toString report.modified ++
    if report.errors.isEmpty then "" else ", errors: " ++ toString report.errors.length

end Report

end LumpRules
