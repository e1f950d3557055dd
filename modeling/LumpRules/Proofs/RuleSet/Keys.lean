import LumpRules.Proofs.Text.Lowercase
import LumpRules.RuleSet.Basic
import Mathlib.Data.List.Infix

/-!
# Keys of lumps

The names of a world and of a lump are put into one key, with two colons between them, and the key
is folded to lower case as a whole.  It is the key of the two folded names if no capital sigma
stands next to the colons (`scopeKey_eq`), and it tells the two names if, besides, there are no
two colons in the name of the world nor one at its end (`scopeKey_eq_iff`).
-/

namespace LumpRules

open Text

variable {world lump world' lump' : String} {before after text more text' more' : List Char}
  {c : Char}

/-- No capital sigma stands next to the colons between the names of a world and of a lump. -/
structure FoldApart (world lump : String) : Prop where
  last : firstLetter? world.toList.reverse ≠ some 'Σ'
  first : firstLetter? lump.toList ≠ some 'Σ'

/-- What stands between the names in a key. -/
def colons : List Char := [':', ':']

/-- The colons that end the name of a world in a key are the first two in it. -/
def EndsAtColons (text : List Char) : Prop :=
  ¬ colons <:+: text ++ [':']

/-- The names of a world and of a lump that can be told from their key. -/
structure IsPlain (world lump : String) : Prop extends FoldApart world lump where
  endsAtColons : EndsAtColons world.toList

instance : Decidable (FoldApart world lump) :=
  decidable_of_iff _ ⟨fun h => ⟨h.1, h.2⟩, fun h => And.intro h.last h.first⟩

instance : Decidable (EndsAtColons text) :=
  inferInstanceAs (Decidable (¬ _))

instance : Decidable (IsPlain world lump) :=
  decidable_of_iff _ ⟨fun h => ⟨h.1, h.2⟩, fun h => And.intro h.toFoldApart h.endsAtColons⟩

/-! ### Folding a key -/

theorem firstLetter?_colons :
  firstLetter? colons = none
  := rfl

/-- A key is that of the folded names. -/
theorem scopeKey_eq (h : FoldApart world lump) :
  scopeKey world lump = lowerName world ++ "::" ++ lowerName lump
  := by
  have hrest : firstLetter? (colons ++ lump.toList) ≠ some 'Σ' := by
    rw [firstLetter?_append, firstLetter?_colons, Option.none_or]
    apply h.first
  have hcolons : firstLetter? colons.reverse ≠ some 'Σ' := by
    rw [firstLetter?_reverse_eq_none.mpr firstLetter?_colons]
    apply (Option.some_ne_none _).symm
  have htext : (world ++ "::" ++ lump).toList = world.toList ++ (colons ++ lump.toList) := by
    simp [colons]
  apply String.toList_inj.mp
  rw [scopeKey, String.toList_ofList, htext, lowercase_append h.last hrest,
    lowercase_append hcolons h.first]
  simp only [lowerName, String.toList_append, String.toList_ofList, List.append_assoc]
  rfl

/-- Names in lower case have no capital sigma. -/
theorem FoldApart.lowerName_world (h : FoldApart world lump) :
  FoldApart (lowerName world) lump
  := by
  refine ⟨?_, h.first⟩
  intro hsigma
  have hmem := mem_of_firstLetter? hsigma
  rw [List.mem_reverse, lowerName, String.toList_ofList] at hmem
  apply sigma_notMem_lowerAfter hmem

theorem FoldApart.lowerName_lump (h : FoldApart world lump) :
  FoldApart world (lowerName lump)
  := by
  refine ⟨h.last, ?_⟩
  intro hsigma
  have hmem := mem_of_firstLetter? hsigma
  rw [lowerName, String.toList_ofList] at hmem
  apply sigma_notMem_lowerAfter hmem

/-! ### Colons in lower case -/

theorem lowerBetween_colon :
  lowerBetween before ':' after = [':']
  := rfl

/-- Only a colon has a colon in its lower case. -/
theorem eq_colon_of_mem (h : ':' ∈ lowerBetween before c after) :
  c = ':'
  := eq_of_mem_lowerBetween h (by decide) (by decide)

/-- What begins with a colon in lower case begins with it as it stands. -/
theorem prefix_of_lowerAfter (h : [':'] <+: lowerAfter before text ++ [':']) :
  [':'] <+: text ++ [':']
  := by
  cases text with
  | nil => apply h
  | cons c text =>
    cases hlower : lowerBetween before c text with
    | nil => apply (lowerBetween_ne_nil hlower).elim
    | cons d rest =>
      rw [lowerAfter, hlower, List.cons_append, List.cons_append, List.cons_prefix_cons] at h
      obtain ⟨rfl, -⟩ := h
      obtain rfl : c = ':' := eq_colon_of_mem (hlower ▸ List.mem_cons_self)
      rw [List.cons_append, List.cons_prefix_cons]
      exact ⟨rfl, List.nil_prefix⟩

theorem infix_of_notMem (htext : ':' ∉ text) (h : colons <:+: text ++ more) :
  colons <:+: more
  := by
  induction text with
  | nil => apply h
  | cons c text ih =>
    rw [List.mem_cons, not_or] at htext
    rw [List.cons_append, List.infix_cons_iff] at h
    rcases h with hstart | hrest
    · rw [colons, List.cons_prefix_cons] at hstart
      apply (htext.1 hstart.1).elim
    · apply ih htext.2 hrest

/-- Two colons in lower case are two colons as they stand. -/
theorem infix_of_lowerAfter (h : colons <:+: lowerAfter before text ++ [':']) :
  colons <:+: text ++ [':']
  := by
  induction text generalizing before with
  | nil => apply h
  | cons c text ih =>
    rw [lowerAfter, List.append_assoc] at h
    by_cases hc : c = ':'
    · obtain rfl := hc
      rw [lowerBetween_colon, List.singleton_append, List.infix_cons_iff] at h
      rcases h with hstart | hrest
      · rw [colons, List.cons_prefix_cons] at hstart
        apply List.IsPrefix.isInfix
        rw [colons, List.cons_append, List.cons_prefix_cons]
        exact ⟨rfl, prefix_of_lowerAfter hstart.2⟩
      · apply List.infix_cons (ih hrest)
    · apply List.infix_cons
      apply ih (infix_of_notMem (mt eq_colon_of_mem hc) h)

/-! ### Telling the names in a key -/

/-- Nothing stands between the first two colons and the colons after it. -/
theorem eq_nil_of_colons (h : EndsAtColons (text ++ more))
    (heq : colons ++ text' = more ++ (colons ++ more')) :
  more = []
  := by
  cases more with
  | nil => rfl
  | cons c more =>
    exfalso
    rw [List.cons_append, colons, List.cons_append, List.cons_append, List.cons.injEq] at heq
    obtain ⟨rfl, heq⟩ := heq
    have hnext : [':'] <+: more ++ [':'] := by
      cases more with
      | nil => apply List.prefix_refl
      | cons d more =>
        rw [List.cons_append, List.cons_append, List.cons.injEq] at heq
        rw [List.cons_append, List.cons_prefix_cons]
        exact ⟨heq.1, List.nil_prefix⟩
    apply h
    rw [List.append_assoc]
    apply List.IsInfix.trans _ (List.suffix_append ..).isInfix
    apply List.IsPrefix.isInfix
    rw [colons, List.cons_append, List.cons_prefix_cons]
    exact ⟨rfl, hnext⟩

theorem EndsAtColons.unique (h : EndsAtColons text) (h' : EndsAtColons text')
    (heq : text ++ (colons ++ more) = text' ++ (colons ++ more')) :
  text = text' ∧ more = more'
  := by
  have htext : text = text' := by
    obtain ⟨rest, rfl, hrest⟩ | ⟨rest, rfl, hrest⟩ := List.append_eq_append_iff.mp heq
    · rw [eq_nil_of_colons h' hrest, List.append_nil]
    · rw [eq_nil_of_colons h hrest, List.append_nil]
  rw [htext, List.append_cancel_left_eq, List.append_cancel_left_eq] at heq
  exact ⟨htext, heq⟩

theorem EndsAtColons.lowerName (h : EndsAtColons world.toList) :
  EndsAtColons (Text.lowerName world).toList
  := by
  rw [Text.lowerName, String.toList_ofList]
  apply mt infix_of_lowerAfter h

/-- The key of a lump tells the names of its world and of the lump, up to case. -/
theorem scopeKey_eq_iff (h : IsPlain world lump) (h' : IsPlain world' lump') :
  scopeKey world lump = scopeKey world' lump' ↔
    lowerName world = lowerName world' ∧ lowerName lump = lowerName lump'
  := by
  rw [scopeKey_eq h.toFoldApart, scopeKey_eq h'.toFoldApart]
  constructor
  · intro heq
    have hletters := congrArg String.toList heq
    rw [String.toList_append, String.toList_append, String.toList_append, String.toList_append,
      List.append_assoc, List.append_assoc] at hletters
    have hnames := h.endsAtColons.lowerName.unique h'.endsAtColons.lowerName hletters
    rw [String.toList_inj, String.toList_inj] at hnames
    apply hnames
  · rintro ⟨hworld, hlump⟩
    rw [hworld, hlump]

set_option maxRecDepth 4000 in
/-- Behind the name of a world a capital sigma becomes a final one, by itself it does not. -/
example : scopeKey "a" "Σ" = scopeKey "a" "ς" ∧ lowerName "Σ" ≠ lowerName "ς" := by
  decide

end LumpRules
