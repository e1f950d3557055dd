import LumpRules.Entries
import LumpRules.Text.Ascii

/-!
# Sections

The sections of a document are its top-level objects and arrays, grouped by name.  A section's
name ignores the case of ASCII letters, `filter` is another name for `remove`, and the texts of
one section stay in the order in which they were written.
-/

namespace LumpRules.Document

open Text

/-- The name under which a section is stored. -/
def canonicalName (name : String) : String :=
  let lower := lowerAscii name
  if lower = "filter" then "remove" else lower

/-- Section names in order of first appearance, each with the texts given to it. -/
structure Sections where
  entries : Entries (List String) := []
  deriving DecidableEq, Repr

namespace Sections

/-- The sections with one more text under a name. -/
def push (sections : Sections) (name text : String) : Sections :=
  ⟨sections.entries.alter id (canonicalName name) fun texts => texts.getD [] ++ [text]⟩

/-- The texts of the section of the given name, in order. -/
def fragments (sections : Sections) (name : String) : List String :=
  (sections.entries.get? id (canonicalName name)).getD []

/-- The canonical names of the sections, in order of first appearance. -/
def names (sections : Sections) : List String :=
  sections.entries.map Prod.fst

/-- A text is added at the end of its own section and nowhere else. -/
@[simp]
theorem fragments_push {sections : Sections} {name text other : String} :
  (sections.push name text).fragments other =
    sections.fragments other ++ if canonicalName name = canonicalName other then [text] else []
  := by
  by_cases h : canonicalName name = canonicalName other <;>
    simp [fragments, push, Entries.get?_alter, h]

end Sections

end LumpRules.Document
