import LumpRules.Proofs.RuleSet.Listing
import Mathlib.Data.List.TakeDrop
import Mathlib.Data.List.TakeWhile

/-!
# The files of a level

`SourcesOf` lists the files that are read for a level, each with the place where its rules go:
the two files of the root directory, if they are there, and the files below the directory of the
level that are named after a lump.  A directory that cannot be opened is listed in its place, since
it ends the reading.  `sourcesOf_sources` shows that the walk of the loader meets these in this
order, and `SourcesOf.unique` that there is no other.
-/

namespace LumpRules

open Text

variable {tree : FileTree} {root level directory name lump stem extension : String}
  {found found' : List FileTree.Met} {items items' : List Source}

/-- Where rules go. -/
inductive Place where
  | global
  | globalDefault
  | lump (world name : String)
  deriving DecidableEq, Repr

/-- A file that is read for a level, and the place for its rules, or a directory that cannot be
opened. -/
inductive Source where
  | file (path : String) (place : Place)
  | closed (path : String) (failure : ReadFailure)
  deriving DecidableEq, Repr

/-! ### Names of rule files -/

/-- A file is named after a lump if its name is that of the lump with the extension of rule files,
in any case. -/
def NamedAfter (name lump : String) : Prop :=
  ∃ extension, sameName extension ruleExtension = true ∧ lump ≠ "" ∧
    name = lump ++ "." ++ extension

/-- The extension of rule files has no dot. -/
theorem dot_notMem_of_sameName (h : sameName extension ruleExtension = true) :
  '.' ∉ extension.toList
  := by
  intro hdot
  rw [sameName_iff] at h
  have hmem : '.' ∈ (lowerAscii extension).toList := by
    rw [lowerAscii, String.toList_ofList]
    apply List.mem_map_of_mem hdot
  rw [h] at hmem
  revert hmem
  decide

theorem stemAndExtension_append (hstem : stem ≠ "") (hextension : extension ≠ "")
    (hdot : '.' ∉ extension.toList) :
  Path.stemAndExtension (stem ++ "." ++ extension) = (stem, some extension)
  := by
  have hreverse : (stem ++ "." ++ extension).toList.reverse =
      extension.toList.reverse ++ '.' :: stem.toList.reverse := by
    simp
  have hall : ∀ c ∈ extension.toList.reverse, (c != '.') = true := by
    intro c hc
    rw [bne_iff_ne]
    rintro rfl
    apply hdot (List.mem_reverse.mp hc)
  have hspan : (stem ++ "." ++ extension).toList.reverse.span (· != '.') =
      (extension.toList.reverse, '.' :: stem.toList.reverse) := by
    rw [hreverse, List.span_eq_takeWhile_dropWhile, List.takeWhile_append_of_pos hall,
      List.dropWhile_append_of_pos hall]
    simp
  have hdots : stem ++ "." ++ extension ≠ ".." := by
    intro heq
    have hlength := congrArg String.length heq
    rw [String.length_append, String.length_append] at hlength
    rw [ne_eq, ← String.length_eq_zero_iff] at hstem hextension
    change stem.length + 1 + extension.length = 2 at hlength
    omega
  rw [Path.stemAndExtension, hspan]
  cases hletters : stem.toList.reverse with
  | nil =>
    rw [List.reverse_eq_nil_iff, String.toList_eq_nil_iff] at hletters
    contradiction
  | cons c letters =>
    rw [← beq_eq_false_iff_ne] at hdots
    simp only [hdots]
    rw [← hletters, List.reverse_reverse, List.reverse_reverse, String.ofList_toList,
      String.ofList_toList]
    rfl

theorem eq_of_stemAndExtension (h : Path.stemAndExtension name = (stem, some extension)) :
  stem ≠ "" ∧ name = stem ++ "." ++ extension
  := by
  rw [Path.stemAndExtension, List.span_eq_takeWhile_dropWhile] at h
  have hwhole := List.takeWhile_append_dropWhile (p := (· != '.')) (l := name.toList.reverse)
  have hhead := List.head?_dropWhile_not (· != '.') name.toList.reverse
  dsimp only at h
  split at h
  · simp at h
  · simp at h
  · next dot letters hletters hdrop =>
    split at h
    · simp at h
    · obtain ⟨rfl, hextension⟩ := Prod.mk.inj h
      obtain rfl := Option.some.inj hextension
      rw [hdrop] at hhead hwhole
      obtain rfl : dot = '.' := bne_eq_false_iff_eq.mp hhead
      constructor
      · rw [ne_eq, ← String.toList_eq_nil_iff, String.toList_ofList, List.reverse_eq_nil_iff]
        apply hletters
      · apply String.toList_injective
        apply List.reverse_inj.mp
        apply hwhole.symm.trans
        simp

/-- A file is named after a lump exactly if it is a rule file with the name of the lump as stem. -/
theorem namedAfter_iff :
  NamedAfter name lump ↔
    Loading.isRuleFile name = true ∧ (Path.stemAndExtension name).1 = lump
  := by
  rw [Loading.isRuleFile]
  constructor
  · rintro ⟨extension, hextension, hlump, rfl⟩
    have hempty : extension ≠ "" := by
      rintro rfl
      revert hextension
      decide
    rw [stemAndExtension_append hlump hempty (dot_notMem_of_sameName hextension)]
    apply And.intro hextension rfl
  · rintro ⟨hrule, hlump⟩
    cases hsplit : Path.stemAndExtension name with
    | mk stem extension? =>
      rw [hsplit] at hrule hlump
      cases extension? with
      | none => contradiction
      | some extension =>
        obtain ⟨hstem, hname⟩ := eq_of_stemAndExtension hsplit
        subst hlump
        use extension, hrule, hstem

/-! ### The files that are read -/

/-- The directory of a level. -/
def levelDirectory (root level : String) : String :=
  Path.join (Path.join root mapsDirectory) level

/-- A file below a root, read if it is there. -/
def optionalSource (tree : FileTree) (path : String) (place : Place) : List Source :=
  if tree.isFile path then [.file path place] else []

/-- The world of a lump whose file is in a directory below that of the level. -/
def worldBelow (level : String) : List String → String
  | [] => level
  | directories => "/".intercalate directories

/-- The path of a directory below that of the level. -/
def pathBelow (root level : String) (directories : List String) : String :=
  directories.foldl Path.join (levelDirectory root level)

/-- What is read for something that is met below the directory of a level: a file that is named
after a lump, or a closed directory. -/
inductive SourceFor (root level : String) : FileTree.Met → Source → Prop where
  | lump {directories : List String} {name lump : String} :
      NamedAfter name lump →
      SourceFor root level (.file ⟨directories, name⟩)
        (.file (Path.join (pathBelow root level directories) name)
          (.lump (worldBelow level directories) lump))
  | closed {directories : List String} {failure : ReadFailure} :
      SourceFor root level (.closed directories failure)
        (.closed (pathBelow root level directories) failure)

/-- All that is read among what is met below the directory of a level. -/
inductive LumpSources (root level : String) : List FileTree.Met → List Source → Prop where
  | nil : LumpSources root level [] []
  | read {item : FileTree.Met} {source : Source} {found : List FileTree.Met}
      {items : List Source} :
      SourceFor root level item source → LumpSources root level found items →
      LumpSources root level (item :: found) (source :: items)
  | other {item : FileTree.Met} {found : List FileTree.Met} {items : List Source} :
      (∀ source, ¬ SourceFor root level item source) → LumpSources root level found items →
      LumpSources root level (item :: found) items

/-- What is met below a directory is listed in order; there is nothing if it is no directory. -/
def IsListing (tree : FileTree) (directory : String) (found : List FileTree.Met) : Prop :=
  match tree.resolve directory with
  | .ok (.directory entries) => ∃ ordered, FileTree.InOrder entries ordered ∧
      FileTree.Listed [] ordered found
  | .ok (.closed failure) => found = [.closed [] failure]
  | _ => found = []

/-- The files that are read for a level and the closed directories that are met, in the order of the
walk. -/
def SourcesOf (tree : FileTree) (root level : String) (items : List Source) : Prop :=
  ∃ found lumps, IsListing tree (levelDirectory root level) found ∧
    LumpSources root level found lumps ∧
    items = optionalSource tree (Path.join root globalFile) .global ++
      optionalSource tree (Path.join root globalDefaultFile) .globalDefault ++ lumps

/-- Two listings of a directory are either the same or list the same entries. -/
theorem IsListing.eq_or_listed (h : IsListing tree directory found)
    (h' : IsListing tree directory found') :
  found = found' ∨ ∃ entries ordered ordered',
    tree.resolve directory = .ok (.directory entries) ∧
    FileTree.InOrder entries ordered ∧ FileTree.Listed [] ordered found ∧
    FileTree.InOrder entries ordered' ∧ FileTree.Listed [] ordered' found'
  := by
  unfold IsListing at h h'
  cases hresolve : tree.resolve directory with
  | error failure =>
    left
    rw [hresolve] at h h'
    exact h.trans h'.symm
  | ok reached =>
    rw [hresolve] at h h'
    cases reached with
    | file content =>
      left
      exact h.trans h'.symm
    | closed failure =>
      left
      exact h.trans h'.symm
    | directory entries =>
      right
      obtain ⟨ordered, hordered, hlisted⟩ := h
      obtain ⟨ordered', hordered', hlisted'⟩ := h'
      exact ⟨entries, ordered, ordered', rfl, hordered, hlisted, hordered', hlisted'⟩

theorem IsListing.unique (h : IsListing tree directory found)
    (h' : IsListing tree directory found') (hnames : tree.NamesDistinct) :
  found = found'
  := by
  obtain heq | ⟨entries, ordered, ordered', hresolve, hordered, hlisted, hordered', hlisted'⟩ :=
    h.eq_or_listed h'
  · apply heq
  · cases hnames.resolve hresolve with
    | directory hdistinct hbelow =>
      obtain rfl := hordered.unique hordered' hdistinct
      apply hlisted.unique hlisted'
      intro entry hentry
      apply hbelow entry (hordered.1.mem_iff.mp hentry)

/-- All listings of a directory have the same members. -/
theorem IsListing.mem_iff {item : FileTree.Met} (h : IsListing tree directory found)
    (h' : IsListing tree directory found') :
  item ∈ found ↔ item ∈ found'
  := by
  obtain rfl | ⟨entries, ordered, ordered', -, hordered, hlisted, hordered', hlisted'⟩ :=
    h.eq_or_listed h'
  · rfl
  · have hperm := hordered.1.trans hordered'.1.symm
    rw [hlisted.mem_iff, hlisted'.mem_iff]
    exact ⟨(·.mono hperm.subset), (·.mono hperm.symm.subset)⟩

/-! ### The files that the loader walks through -/

/-- A rule file below the directory of a level. -/
def levelSource (root level : String) (file : FileTree.Found) : Source :=
  .file (Path.join (pathBelow root level file.directories) file.name)
    (.lump (worldBelow level file.directories) (Path.stemAndExtension file.name).1)

/-- What the loader reads for something that it meets below the directory of a level. -/
def levelSource? (root level : String) : FileTree.Met → Option Source
  | .file file =>
    if Loading.isRuleFile file.name then some (levelSource root level file) else none
  | .closed directories failure => some (.closed (pathBelow root level directories) failure)

/-- The files that the loader reads for a level. -/
def sources (tree : FileTree) (root level : String) : List Source :=
  optionalSource tree (Path.join root globalFile) .global ++
    optionalSource tree (Path.join root globalDefaultFile) .globalDefault ++
    (tree.metBelow (levelDirectory root level)).filterMap (levelSource? root level)

theorem worldOf_eq (level : String) (file : FileTree.Found) :
  Loading.worldOf level file = worldBelow level file.directories
  := by
  rw [Loading.worldOf]
  cases file.directories <;> rfl

theorem sourceFor_iff {item : FileTree.Met} {source : Source} :
  SourceFor root level item source ↔ levelSource? root level item = some source
  := by
  constructor
  · rintro (hnamed | _)
    · obtain ⟨hrule, rfl⟩ := namedAfter_iff.mp hnamed
      exact if_pos hrule
    · rfl
  · intro h
    cases item with
    | closed directories failure =>
      obtain rfl := Option.some.inj h
      apply SourceFor.closed
    | file file =>
      rw [levelSource?] at h
      split at h
      · next hrule =>
        obtain rfl := Option.some.inj h
        apply SourceFor.lump (namedAfter_iff.mpr ⟨hrule, rfl⟩)
      · contradiction

/-- What is read is what the loader reads. -/
theorem lumpSources_iff :
  LumpSources root level found items ↔ items = found.filterMap (levelSource? root level)
  := by
  constructor
  · intro h
    induction h with
    | nil => rfl
    | read hsource _ ih => rw [List.filterMap_cons_some (sourceFor_iff.mp hsource), ih]
    | @other item found items hother _ ih =>
      have hnone : levelSource? root level item = none := by
        rw [Option.eq_none_iff_forall_ne_some]
        intro source hsource
        apply hother source (sourceFor_iff.mpr hsource)
      rw [List.filterMap_cons_none hnone, ih]
  · rintro rfl
    induction found with
    | nil => apply LumpSources.nil
    | cons item found ih =>
      cases hsource : levelSource? root level item with
      | none =>
        rw [List.filterMap_cons_none hsource]
        apply LumpSources.other _ ih
        intro source hfor
        rw [sourceFor_iff, hsource] at hfor
        contradiction
      | some source =>
        rw [List.filterMap_cons_some hsource]
        apply LumpSources.read (sourceFor_iff.mpr hsource) ih

/-- The files of a level are determined if no directory has two entries of one name. -/
theorem SourcesOf.unique (h : SourcesOf tree root level items)
    (h' : SourcesOf tree root level items') (hnames : tree.NamesDistinct) :
  items = items'
  := by
  obtain ⟨found, lumps, hlisting, hlumps, rfl⟩ := h
  obtain ⟨found', lumps', hlisting', hlumps', rfl⟩ := h'
  obtain rfl := hlisting.unique hlisting' hnames
  rw [lumpSources_iff.mp hlumps, lumpSources_iff.mp hlumps']

/-- The files of a level are the same in every order in which they may be listed. -/
theorem SourcesOf.mem_iff {source : Source} (h : SourcesOf tree root level items)
    (h' : SourcesOf tree root level items') :
  source ∈ items ↔ source ∈ items'
  := by
  obtain ⟨found, lumps, hlisting, hlumps, rfl⟩ := h
  obtain ⟨found', lumps', hlisting', hlumps', rfl⟩ := h'
  obtain rfl := lumpSources_iff.mp hlumps
  obtain rfl := lumpSources_iff.mp hlumps'
  simp only [List.mem_append, List.mem_filterMap, hlisting.mem_iff hlisting']

theorem isListing_metBelow (tree : FileTree) (directory : String) :
  IsListing tree directory (tree.metBelow directory)
  := by
  unfold IsListing FileTree.metBelow
  cases tree.resolve directory with
  | error failure => rfl
  | ok reached =>
    cases reached with
    | file content => rfl
    | closed failure => rfl
    | directory entries =>
      use FileTree.sortEntries entries, FileTree.inOrder_sortEntries entries
      apply FileTree.listed_met

/-- The loader reads the files of a level. -/
theorem sourcesOf_sources (tree : FileTree) (root level : String) :
  SourcesOf tree root level (sources tree root level)
  := ⟨_, _, isListing_metBelow tree _, lumpSources_iff.mpr rfl, rfl⟩

end LumpRules
