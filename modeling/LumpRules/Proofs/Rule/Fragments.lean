import LumpRules.Proofs.Outcome
import LumpRules.RuleFile
import Mathlib.Data.List.Forall2

/-!
# Compilation reads the values of fragments

A section enters compilation through the JSON values of its fragments only, so two documents
whose sections hold the same values give the same rules, the same errors and the same events
(`compileSections_congr`).  `Agree` is that relation on the whole of the sections, and
`agree_ofMembers` shows that it is kept while the sections are collected.
-/

namespace LumpRules

open Document

/-- Two fragments that are read as the same value. -/
def SameValue (fragment fragment' : String) : Prop :=
  ∃ value, Json.read fragment = .ok value ∧ Json.read fragment' = .ok value

variable {fragment fragment' name : String} {sections sections' : Sections}

/-! ### Compilation -/

theorem sectionObjects_congr (h : SameValue fragment fragment') (kind : RuleKind) :
  Compilation.sectionObjects kind fragment = Compilation.sectionObjects kind fragment'
  := by
  obtain ⟨value, hvalue, hvalue'⟩ := h
  rw [Compilation.sectionObjects, Compilation.sectionObjects, hvalue, hvalue']
  cases value <;> rfl

theorem fragmentRules_congr (h : SameValue fragment fragment') (kind : RuleKind)
    (each : Members → Compilation (Option Rule)) :
  Compilation.fragmentRules kind each fragment = Compilation.fragmentRules kind each fragment'
  := by
  rw [Compilation.fragmentRules, Compilation.fragmentRules, sectionObjects_congr h]

/-- Steps that agree on related items agree on lists of them. -/
theorem mapM_congr_forall₂ {m : Type → Type} [Monad m] [LawfulMonad m] {α β γ : Type}
    {R : α → β → Prop} {f : α → m γ} {g : β → m γ} {as : List α} {bs : List β}
    (h : List.Forall₂ R as bs) (hfg : ∀ a b, R a b → f a = g b) :
  as.mapM f = bs.mapM g
  := by
  induction h with
  | nil => rfl
  | cons hab _ ih => rw [List.mapM_cons, List.mapM_cons, hfg _ _ hab, ih]

/-- The rules are those of the values that the fragments of the three sections are read as. -/
theorem compileSections_congr [PatternReader]
    (h : ∀ kind : RuleKind, List.Forall₂ SameValue (sections.fragments kind.name)
      (sections'.fragments kind.name)) :
  compileSections sections = compileSections sections'
  := by
  have hsection : ∀ kind each, Compilation.sectionRules sections kind each =
      Compilation.sectionRules sections' kind each := by
    intro kind each
    rw [Compilation.sectionRules, Compilation.sectionRules]
    rw [mapM_congr_forall₂ (h kind) fun _ _ hsame => fragmentRules_congr hsame kind each]
  simp only [compileSections, hsection]

/-! ### Sections -/

theorem canonicalName_kind (kind : RuleKind) :
  canonicalName kind.name = kind.name
  := by
  cases kind <;> rfl

/-- Sections of the same names in the same order, whose fragments are read as the same values. -/
def Agree (sections sections' : Sections) : Prop :=
  List.Forall₂ (fun entry entry' => entry.1 = entry'.1 ∧ List.Forall₂ SameValue entry.2 entry'.2)
    sections.entries sections'.entries

theorem Agree.names_eq (h : Agree sections sections') :
  sections.names = sections'.names
  := by
  obtain ⟨entries⟩ := sections
  obtain ⟨entries'⟩ := sections'
  simp only [Agree, Sections.names] at h ⊢
  induction h with
  | nil => rfl
  | cons hentry _ ih => rw [List.map_cons, List.map_cons, hentry.1, ih]

theorem Agree.fragments (h : Agree sections sections') (name : String) :
  List.Forall₂ SameValue (sections.fragments name) (sections'.fragments name)
  := by
  obtain ⟨entries⟩ := sections
  obtain ⟨entries'⟩ := sections'
  simp only [Agree, Sections.fragments] at h ⊢
  induction h with
  | nil => apply List.Forall₂.nil
  | @cons entry entry' entries entries' hentry _ ih =>
    obtain ⟨hname, htexts⟩ := hentry
    obtain ⟨first, texts⟩ := entry
    obtain ⟨first', texts'⟩ := entry'
    obtain rfl : first = first' := hname
    rw [Entries.get?_cons, Entries.get?_cons]
    split
    · apply htexts
    · apply ih

theorem ofDocument_eq [PatternReader] {text : String} (h : parse text = .ok sections) :
  RuleFile.ofDocument text = do
    let rules ← (compileSections sections).adapt DocumentError.compile
    return ⟨rules⟩
  := by
  unfold RuleFile.ofDocument
  rw [h]

/-- Documents whose sections agree describe the same rules. -/
theorem ofDocument_congr [PatternReader] {text text' : String} (h : parse text = .ok sections)
    (h' : parse text' = .ok sections') (hagree : Agree sections sections') :
  RuleFile.ofDocument text = RuleFile.ofDocument text'
  := by
  have hcompile : compileSections sections = compileSections sections' := by
    apply compileSections_congr
    intro kind
    apply hagree.fragments
  rw [ofDocument_eq h, ofDocument_eq h', hcompile]

theorem Agree.push (h : Agree sections sections') (hsame : SameValue fragment fragment')
    (name : String) :
  Agree (sections.push name fragment) (sections'.push name fragment')
  := by
  obtain ⟨entries⟩ := sections
  obtain ⟨entries'⟩ := sections'
  simp only [Agree, Sections.push] at h ⊢
  induction h with
  | nil =>
    simp only [Entries.alter]
    apply List.Forall₂.cons _ .nil
    constructor
    · rfl
    · apply List.Forall₂.cons hsame .nil
  | @cons entry entry' entries entries' hentry hentries ih =>
    obtain ⟨hname, htexts⟩ := hentry
    obtain ⟨first, texts⟩ := entry
    obtain ⟨first', texts'⟩ := entry'
    obtain rfl : first = first' := hname
    rw [Entries.alter, Entries.alter]
    split
    · apply List.Forall₂.cons _ hentries
      constructor
      · rfl
      · apply List.rel_append htexts (.cons hsame .nil)
    · apply List.Forall₂.cons _ ih
      apply And.intro rfl htexts

/-- Members of the same names and values are collected into sections that agree. -/
theorem agree_ofMembers {members members' : List Member}
    (h : List.Forall₂ (fun member member' => member.name = member'.name ∧
      member.isContainer = member'.isContainer ∧ SameValue member.raw member'.raw)
      members members') :
  Agree (.ofMembers members) (.ofMembers members')
  := by
  have hfold : ∀ sections sections', Agree sections sections' →
      Agree
        ((members.filter Member.isContainer).foldl (fun s m => s.push m.name m.raw) sections)
        ((members'.filter Member.isContainer).foldl (fun s m => s.push m.name m.raw)
          sections') := by
    induction h with
    | nil =>
      intro sections sections' hagree
      apply hagree
    | @cons member member' members members' hmember _ ih =>
      obtain ⟨hname, hcontainer, hraw⟩ := hmember
      intro sections sections' hagree
      rw [List.filter_cons, List.filter_cons, hcontainer]
      split
      · rw [List.foldl_cons, List.foldl_cons, hname]
        apply ih
        apply hagree.push hraw
      · apply ih _ _ hagree
  apply hfold
  apply List.Forall₂.nil

end LumpRules
