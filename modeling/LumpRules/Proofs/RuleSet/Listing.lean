import LumpRules.RuleSet.Loading
import Mathlib.Data.List.Nodup

/-!
# The order of a walk

`Listed` says in which order the files below a directory are met, and the directories that cannot be
opened, without sorting anything: depth first, the entries of every directory in ascending order of
their names.  `listed_met` shows that the walk over a sorted tree is such a listing.  Every listing
has the same members, those that are `Below` the entries, and it is the only one if no directory
has two entries of one name, as `Listed.unique` says.
-/

namespace LumpRules.FileTree

variable {tree reached : FileTree} {directories : List String}
  {entries ordered ordered' : List (String × FileTree)} {items items' : List Met}

/-- The entries of a directory in ascending order of their names. -/
def InOrder (entries ordered : List (String × FileTree)) : Prop :=
  ordered.Perm entries ∧ ordered.Pairwise fun a b => a.1 ≤ b.1

/-- The files and the closed directories among some entries, in the order of the entries, and below
each of them, depth first and in ascending order of the names. -/
inductive Listed : (directories : List String) → List (String × FileTree) → List Met → Prop where
  | nil {directories : List String} : Listed directories [] []
  | file {directories : List String} {name : String} {content : Except ReadFailure ByteArray}
      {rest : List (String × FileTree)} {items : List Met} :
      Listed directories rest items →
      Listed directories ((name, .file content) :: rest) (.file ⟨directories, name⟩ :: items)
  | directory {directories : List String} {name : String}
      {entries ordered rest : List (String × FileTree)} {inside items : List Met} :
      InOrder entries ordered → Listed (directories ++ [name]) ordered inside →
      Listed directories rest items →
      Listed directories ((name, .directory entries) :: rest) (inside ++ items)
  | closed {directories : List String} {name : String} {failure : ReadFailure}
      {rest : List (String × FileTree)} {items : List Met} :
      Listed directories rest items →
      Listed directories ((name, .closed failure) :: rest)
        (.closed (directories ++ [name]) failure :: items)

theorem inOrder_sortEntries (entries : List (String × FileTree)) :
  InOrder entries (sortEntries entries)
  := by
  constructor
  · apply List.mergeSort_perm
  · have hsorted : (sortEntries entries).Pairwise fun a b => decide (a.1 ≤ b.1) = true := by
      apply List.pairwise_mergeSort
      · intro a b c hab hbc
        rw [decide_eq_true_iff] at hab hbc ⊢
        apply String.le_trans hab hbc
      · intro a b
        rw [Bool.or_eq_true, decide_eq_true_iff, decide_eq_true_iff]
        apply String.le_total
    apply hsorted.imp
    intro a b hab
    apply of_decide_eq_true hab

theorem sortedEntries_eq_map (entries : List (String × FileTree)) :
  sortedEntries entries = entries.map fun entry => (entry.1, entry.2.sorted)
  := by
  induction entries with
  | nil => rfl
  | cons entry entries ih => rw [sortedEntries, ih, List.map_cons]

/-- It does not matter whether the entries are sorted before what is below them or after. -/
theorem sortEntries_sortedEntries (entries : List (String × FileTree)) :
  sortEntries (sortedEntries entries) = sortedEntries (sortEntries entries)
  := by
  rw [sortedEntries_eq_map, sortedEntries_eq_map, sortEntries, sortEntries, List.map_mergeSort]
  intro a _ b _
  rfl

/-- The walk over the sorted trees of some entries is their listing.  The size bounds how deep the
entries go. -/
theorem listed_metAmong (size : Nat) (hsize : ∀ entry ∈ entries, sizeOf entry.2 < size)
    (directories : List String) :
  Listed directories entries (metAmong directories (sortedEntries entries))
  := by
  induction size generalizing entries directories with
  | zero =>
    cases entries with
    | nil =>
      rw [sortedEntries, metAmong]
      apply Listed.nil
    | cons entry entries => apply (Nat.not_lt_zero _ (hsize entry (List.mem_cons_self ..))).elim
  | succ size ih =>
    induction entries with
    | nil =>
      rw [sortedEntries, metAmong]
      apply Listed.nil
    | cons entry rest ihrest =>
      rw [List.forall_mem_cons] at hsize
      obtain ⟨hentry, hrest⟩ := hsize
      obtain ⟨name, tree⟩ := entry
      cases tree with
      | file content =>
        rw [sortedEntries, sorted, metAmong]
        apply Listed.file (ihrest hrest)
      | closed failure =>
        rw [sortedEntries, sorted, metAmong]
        apply Listed.closed (ihrest hrest)
      | directory inside =>
        rw [sortedEntries, sorted, metAmong, sortEntries_sortedEntries]
        apply Listed.directory (inOrder_sortEntries inside) _ (ihrest hrest)
        apply ih
        intro inner hinner
        rw [sortEntries, List.mem_mergeSort] at hinner
        have hlt := List.sizeOf_lt_of_mem hinner
        obtain ⟨innerName, innerTree⟩ := inner
        simp only [FileTree.directory.sizeOf_spec, Prod.mk.sizeOf_spec] at hlt hentry ⊢
        omega

/-- The walk over the sorted tree of a directory is its listing. -/
theorem listed_met (entries : List (String × FileTree)) :
  Listed [] (sortEntries entries) ((FileTree.directory entries).sorted.met [])
  := by
  rw [sorted, met, sortEntries_sortedEntries]
  apply listed_metAmong (sizeOf (sortEntries entries))
  intro entry hentry
  have hlt := List.sizeOf_lt_of_mem hentry
  obtain ⟨name, tree⟩ := entry
  simp only [Prod.mk.sizeOf_spec] at hlt ⊢
  omega

/-! ### What is below a directory -/

/-- A file or a closed directory among some entries or below them. -/
inductive Below : (directories : List String) → List (String × FileTree) → Met → Prop where
  | file {directories : List String} {name : String} {content : Except ReadFailure ByteArray}
      {entries : List (String × FileTree)} :
      (name, .file content) ∈ entries → Below directories entries (.file ⟨directories, name⟩)
  | directory {directories : List String} {name : String}
      {entries inside : List (String × FileTree)} {item : Met} :
      (name, .directory inside) ∈ entries → Below (directories ++ [name]) inside item →
      Below directories entries item
  | closed {directories : List String} {name : String} {failure : ReadFailure}
      {entries : List (String × FileTree)} :
      (name, .closed failure) ∈ entries →
      Below directories entries (.closed (directories ++ [name]) failure)

variable {item : Met} {name : String}

/-- It does not matter in which order the entries stand. -/
theorem Below.mono {entries' : List (String × FileTree)} (h : Below directories entries item)
    (hsubset : entries ⊆ entries') :
  Below directories entries' item
  := by
  cases h with
  | file hmem => apply Below.file (hsubset hmem)
  | directory hmem hinside => apply Below.directory (hsubset hmem) hinside
  | closed hmem => apply Below.closed (hsubset hmem)

/-- Something is below some entries if it is below the only one or below the others. -/
theorem below_cons {entry : String × FileTree} :
  Below directories (entry :: entries) item ↔
    Below directories [entry] item ∨ Below directories entries item
  := by
  constructor
  · intro h
    cases h with
    | file hmem =>
      rcases List.mem_cons.mp hmem with heq | hmem
      · exact .inl (.file (List.mem_singleton.mpr heq))
      · exact .inr (.file hmem)
    | directory hmem hinside =>
      rcases List.mem_cons.mp hmem with heq | hmem
      · exact .inl (.directory (List.mem_singleton.mpr heq) hinside)
      · exact .inr (.directory hmem hinside)
    | closed hmem =>
      rcases List.mem_cons.mp hmem with heq | hmem
      · exact .inl (.closed (List.mem_singleton.mpr heq))
      · exact .inr (.closed hmem)
  · rintro (h | h)
    · apply h.mono
      simp
    · apply h.mono (List.subset_cons_self ..)

theorem below_file {content : Except ReadFailure ByteArray} :
  Below directories [(name, .file content)] item ↔ item = .file ⟨directories, name⟩
  := by
  constructor
  · rintro (hmem | ⟨hmem, _⟩ | hmem) <;> simp_all
  · rintro rfl
    apply Below.file (List.mem_singleton_self _)

theorem below_directory {inside : List (String × FileTree)} :
  Below directories [(name, .directory inside)] item ↔ Below (directories ++ [name]) inside item
  := by
  constructor
  · rintro (hmem | ⟨hmem, hinside⟩ | hmem)
    · simp at hmem
    · obtain ⟨rfl, htree⟩ := Prod.mk.inj (List.mem_singleton.mp hmem)
      obtain rfl := FileTree.directory.inj htree
      apply hinside
    · simp at hmem
  · intro h
    apply Below.directory (List.mem_singleton_self _) h

theorem below_closed {failure : ReadFailure} :
  Below directories [(name, .closed failure)] item ↔
    item = .closed (directories ++ [name]) failure
  := by
  constructor
  · rintro (hmem | ⟨hmem, _⟩ | hmem) <;> simp_all
  · rintro rfl
    apply Below.closed (List.mem_singleton_self _)

/-- A listing has exactly the members below the entries. -/
theorem Listed.mem_iff (h : Listed directories entries items) :
  item ∈ items ↔ Below directories entries item
  := by
  induction h with
  | nil =>
    constructor
    · intro h
      contradiction
    · rintro (hmem | hmem | hmem) <;> contradiction
  | file _ ih => rw [List.mem_cons, below_cons, below_file, ih]
  | directory hordered _ _ ihinside ihrest =>
    rw [List.mem_append, below_cons, below_directory, ihinside, ihrest]
    apply or_congr_left
    exact ⟨(·.mono hordered.1.subset), (·.mono hordered.1.symm.subset)⟩
  | closed _ ih => rw [List.mem_cons, below_cons, below_closed, ih]

/-! ### The only listing -/

/-- No directory of a tree has two entries of one name. -/
inductive NamesDistinct : FileTree → Prop where
  | file {content : Except ReadFailure ByteArray} : NamesDistinct (.file content)
  | directory {entries : List (String × FileTree)} :
      (entries.map Prod.fst).Nodup → (∀ entry ∈ entries, NamesDistinct entry.2) →
      NamesDistinct (.directory entries)
  | closed {failure : ReadFailure} : NamesDistinct (.closed failure)

/-- Entries with distinct names have one order. -/
theorem InOrder.unique (h : InOrder entries ordered) (h' : InOrder entries ordered')
    (hnames : (entries.map Prod.fst).Nodup) :
  ordered = ordered'
  := by
  apply List.Perm.eq_of_pairwise _ h.2 h'.2 (h.1.trans h'.1.symm)
  intro a b ha hb hab hba
  apply List.inj_on_of_nodup_map hnames (h.1.mem_iff.mp ha) (h'.1.mem_iff.mp hb)
  apply String.le_antisymm hab hba

/-- A tree with distinct names has one listing. -/
theorem Listed.unique (h : Listed directories entries items)
    (h' : Listed directories entries items')
    (hnames : ∀ entry ∈ entries, NamesDistinct entry.2) :
  items = items'
  := by
  induction h generalizing items' with
  | nil =>
    cases h'
    rfl
  | file _ ih =>
    rw [List.forall_mem_cons] at hnames
    cases h' with
    | file h' => rw [ih h' hnames.2]
  | directory hordered _ _ ihinside ihrest =>
    rw [List.forall_mem_cons] at hnames
    cases h' with
    | directory hordered' hinside' hrest' =>
      obtain ⟨hdirectory, hrest⟩ := hnames
      cases hdirectory with
      | directory hdistinct hbelow =>
        obtain rfl := hordered.unique hordered' hdistinct
        rw [ihrest hrest' hrest, ihinside hinside']
        intro entry hentry
        apply hbelow entry (hordered.1.mem_iff.mp hentry)
  | closed _ ih =>
    rw [List.forall_mem_cons] at hnames
    cases h' with
    | closed h' => rw [ih h' hnames.2]

/-- Names are distinct wherever a path leads to. -/
theorem NamesDistinct.walk {ancestors : List FileTree} {steps : List String}
    (hancestors : ∀ ancestor ∈ ancestors, ancestor.NamesDistinct) (htree : tree.NamesDistinct)
    (h : tree.walk ancestors steps = .ok reached) :
  reached.NamesDistinct
  := by
  induction steps generalizing ancestors tree with
  | nil =>
    obtain rfl := Except.ok.inj h
    apply htree
  | cons step steps ih =>
    cases htree with
    | file => contradiction
    | closed =>
      rw [FileTree.walk.eq_def] at h
      dsimp only at h
      split at h
      · apply ih hancestors .closed h
      · contradiction
    | directory hdistinct hbelow =>
      have htree := NamesDistinct.directory hdistinct hbelow
      rw [FileTree.walk.eq_def] at h
      dsimp only at h
      split at h
      · apply ih hancestors htree h
      · split at h
        · cases ancestors with
          | nil => apply ih hancestors htree h
          | cons parent ancestors =>
            rw [List.forall_mem_cons] at hancestors
            apply ih hancestors.2 hancestors.1 h
        · split at h
          · contradiction
          · next child hchild =>
            obtain ⟨first, hentry, -⟩ := Entries.mem_of_get? hchild
            apply ih _ (hbelow _ hentry) h
            rw [List.forall_mem_cons]
            apply And.intro htree hancestors

theorem NamesDistinct.resolve {path : String} (htree : tree.NamesDistinct)
    (h : tree.resolve path = .ok reached) :
  reached.NamesDistinct
  := htree.walk (List.forall_mem_nil _) h

end LumpRules.FileTree
