import LumpRules.Proofs.Outcome
import LumpRules.Proofs.RuleSet.Sources

/-!
# Loading is all or nothing

A rule set goes through a history of operations.  `load_of_history` says that after any history a
level is either loaded from all its files, and then the rule set is the one that results from
putting their rules into a new one by hand, or the first faulty file is reported, or the first
directory that cannot be opened, and the rule set stays as it was.
-/

namespace LumpRules

open Text

/-! ### Files and their rules -/

/-- The rules in the file of a path, or what is wrong with it. -/
def readRules [PatternReader] (tree : FileTree) (path : String) : Except FileFault RuleFile :=
  match tree.readText path with
  | .error failure => .error (.unreadable failure)
  | .ok text => (RuleFile.ofDocument text).run.value.mapError .document

namespace Source

/-- The rules of a source, or the error that names it. -/
def read [PatternReader] (tree : FileTree) : Source → Except LoadError RuleFile
  | .file path _ => (readRules tree path).mapError (.file path)
  | .closed path failure => .error (.directory path failure)

/-- The error of a source, if it has one. -/
def fault? [PatternReader] (tree : FileTree) (source : Source) : Option LoadError :=
  match source.read tree with
  | .error error => some error
  | .ok _ => none

/-- The rule set with the rules of a source put into their place. -/
def install (set : RuleSet) (source : Source) (file : RuleFile) : RuleSet :=
  match source with
  | .file _ .global => set.setGlobal file
  | .file _ .globalDefault => set.setGlobalDefault file
  | .file _ (.lump world name) => (set.insertLump world name file).1
  | .closed .. => set

end Source

/-! ### Operations -/

/-- An operation on a rule set. -/
inductive Operation where
  | load (tree : FileTree) (level : String)
  | purge
  | setGlobal (file : RuleFile)
  | setGlobalDefault (file : RuleFile)
  | insertLump (world lump : String) (file : RuleFile)

/-- The rule set after an operation. -/
def RuleSet.perform [PatternReader] (set : RuleSet) : Operation → RuleSet
  | .load tree level => (set.load tree level).value.1
  | .purge => set.purge
  | .setGlobal file => set.setGlobal file
  | .setGlobalDefault file => set.setGlobalDefault file
  | .insertLump world lump file => (set.insertLump world lump file).1

/-! ### Reading one file after the other -/

/-- The rule set with the rules of one more source in place, if the source has no fault. -/
def Source.add [PatternReader] (tree : FileTree) (set : RuleSet) (source : Source) :
    Except LoadError RuleSet := do
  let file ← source.read tree
  return source.install set file

/-- The rules of the sources are put into place one after the other, or the first fault ends it
all. -/
theorem foldlM_add [PatternReader] (tree : FileTree) (items : List Source) (set : RuleSet) :
  match items.findSome? (Source.fault? tree) with
  | some error => items.foldlM (Source.add tree) set = .error error
  | none => ∃ files : List RuleFile,
      items.map (Source.read tree) = files.map .ok ∧
      items.foldlM (Source.add tree) set =
        .ok ((items.zip files).foldl (fun set (source, file) => source.install set file) set)
  := by
  induction items generalizing set with
  | nil =>
    use []
    exact ⟨rfl, rfl⟩
  | cons source items ih =>
    rw [List.findSome?_cons, List.foldlM_cons]
    cases hread : source.read tree with
    | error error =>
      simp only [Source.fault?, Source.add, hread]
      rfl
    | ok file =>
      have hadd : Source.add tree set source = .ok (source.install set file) := by
        simp only [Source.add, hread]
        rfl
      have hrest := ih (source.install set file)
      simp only [Source.fault?, hread, hadd]
      split at hrest
      · next error hfault =>
        simp only [hfault]
        apply hrest
      · next hfault =>
        obtain ⟨files, hfiles, hfold⟩ := hrest
        simp only [hfault]
        use file :: files
        constructor
        · rw [List.map_cons, List.map_cons, hread, hfiles]
        · apply hfold

theorem run_value_ruleFile [PatternReader] (tree : FileTree) (path : String) :
  (Loading.ruleFile tree path).run.value = (readRules tree path).mapError (.file path)
  := by
  rw [Loading.ruleFile, readRules]
  cases tree.readText path with
  | error failure => rfl
  | ok text =>
    simp only [run_value_bind, run_value_adapt]
    cases (RuleFile.ofDocument text).run.value <;> rfl

/-- A source that may be missing is read as a file that may be missing. -/
theorem foldlM_optionalSource [PatternReader] (tree : FileTree) (path : String) (place : Place)
    (set : RuleSet) :
  (optionalSource tree path place).foldlM (Source.add tree) set = do
    let file? ← (Loading.optionalFile tree path).run.value
    return file?.elim set (Source.install set (.file path place))
  := by
  rw [optionalSource, Loading.optionalFile]
  by_cases hfile : tree.isFile path = true
  · rw [if_pos hfile, if_pos hfile, run_value_bind, run_value_ruleFile, List.foldlM_cons,
      Source.add, Source.read]
    cases readRules tree path <;> rfl
  · rw [if_neg hfile, if_neg hfile]
    rfl

/-- A file of a level is read and its rules inserted; whether they replace others is no matter. -/
theorem run_value_addLumpFile [PatternReader] (tree : FileTree) (root level : String)
    (scopes : Scopes) (file : FileTree.Found) :
  (Loading.addLumpFile tree level (levelDirectory root level) scopes file).run.value = do
    let rules ← (levelSource root level file).read tree
    return (scopes.insertLump (worldBelow level file.directories)
      (Path.stemAndExtension file.name).1 rules).1
  := by
  rw [Loading.addLumpFile, run_value_bind, run_value_ruleFile, worldOf_eq]
  apply bind_congr
  intro rules
  dsimp only
  split <;> rfl

/-- What is met below the directory of a level is read as a source, or passed over. -/
theorem foldlM_levelSource? [PatternReader] (tree : FileTree) (root level : String)
    (scopes : Scopes) (item : FileTree.Met) :
  (levelSource? root level item).toList.foldlM (Source.add tree) ⟨root, scopes⟩ = do
    let scopes ←
      (Loading.addMet tree level (levelDirectory root level) scopes item).run.value
    return ⟨root, scopes⟩
  := by
  cases item with
  | closed directories failure => rfl
  | file file =>
    rw [levelSource?, Loading.addMet]
    by_cases hrule : Loading.isRuleFile file.name = true
    · rw [if_pos hrule, if_pos hrule, run_value_addLumpFile, Option.toList_some,
        List.foldlM_cons, Source.add]
      cases (levelSource root level file).read tree <;> rfl
    · rw [if_neg hrule, if_neg hrule]
      rfl

/-- All that is met below the directory of a level is read as sources. -/
theorem foldlM_filterMap_levelSource? [PatternReader] (tree : FileTree) (root level : String)
    (scopes : Scopes) (found : List FileTree.Met) :
  (found.filterMap (levelSource? root level)).foldlM (Source.add tree) ⟨root, scopes⟩ = do
    let scopes ←
      (found.foldlM (Loading.addMet tree level (levelDirectory root level)) scopes).run.value
    return ⟨root, scopes⟩
  := by
  rw [run_value_foldlM]
  induction found generalizing scopes with
  | nil => rfl
  | cons item found ih =>
    have hsplit : (item :: found).filterMap (levelSource? root level) =
        (levelSource? root level item).toList ++ found.filterMap (levelSource? root level) := by
      rw [List.filterMap_cons]
      cases levelSource? root level item <;> rfl
    rw [hsplit, List.foldlM_append, foldlM_levelSource?, List.foldlM_cons]
    cases (Loading.addMet tree level (levelDirectory root level) scopes item).run.value with
    | error error => rfl
    | ok scopes => apply ih

/-! ### Loading a level -/

theorem run_value_scopes [PatternReader] (tree : FileTree) (root level : String) :
  (Loading.scopes tree root level).run.value = (do
    let global ← (Loading.optionalFile tree (Path.join root globalFile)).run.value
    let globalDefault ← (Loading.optionalFile tree (Path.join root globalDefaultFile)).run.value
    ((tree.metBelow (levelDirectory root level)).foldlM
      (Loading.addMet tree level (levelDirectory root level))
      { global, globalDefault }).run.value)
  := by
  rw [Loading.scopes, run_value_bind]
  apply bind_congr
  intro global
  rw [run_value_bind]
  apply bind_congr
  intro globalDefault
  unfold FileTree.metBelow FileTree.isDirectory levelDirectory
  dsimp only
  cases tree.resolve (Path.join (Path.join root mapsDirectory) level) with
  | error failure => rfl
  | ok reached => cases reached <;> rfl

/-- The sources of a level are read into a new rule set as the loader reads its scopes. -/
theorem foldlM_sources [PatternReader] (tree : FileTree) (root level : String) :
  (sources tree root level).foldlM (Source.add tree) (RuleSet.new root) = do
    let scopes ← (Loading.scopes tree root level).run.value
    return ⟨root, scopes⟩
  := by
  rw [run_value_scopes, sources, List.foldlM_append, List.foldlM_append, foldlM_optionalSource]
  cases (Loading.optionalFile tree (Path.join root globalFile)).run.value with
  | error error => rfl
  | ok global =>
    have hglobal : global.elim (RuleSet.new root)
        (Source.install (RuleSet.new root) (.file (Path.join root globalFile) .global)) =
        ⟨root, { global }⟩ := by
      cases global <;> rfl
    dsimp only [bind, Except.bind, pure, Except.pure]
    rw [hglobal, foldlM_optionalSource]
    cases (Loading.optionalFile tree (Path.join root globalDefaultFile)).run.value with
    | error error => rfl
    | ok globalDefault =>
      have hdefault : globalDefault.elim ⟨root, { global }⟩
          (Source.install ⟨root, { global }⟩
            (.file (Path.join root globalDefaultFile) .globalDefault)) =
          ⟨root, { global, globalDefault }⟩ := by
        cases globalDefault <;> rfl
      dsimp only [bind, Except.bind, pure, Except.pure]
      rw [hdefault, foldlM_filterMap_levelSource?]
      rfl

/-- A level is loaded by reading its files into a new rule set, which takes the place of the old
one if none of them has a fault. -/
theorem value_load [PatternReader] (set : RuleSet) (tree : FileTree) (level : String) :
  (set.load tree level).value =
    match (sources tree set.root level).foldlM (Source.add tree) (RuleSet.new set.root) with
    | .ok loaded => (loaded, .ok ())
    | .error error => (set, .error error)
  := by
  rw [foldlM_sources, RuleSet.load, Logged.value_bind]
  cases (Loading.scopes tree set.root level).run.value <;> rfl

/-- An operation does not move a rule set to another directory. -/
theorem root_perform [PatternReader] (set : RuleSet) (operation : Operation) :
  (set.perform operation).root = set.root
  := by
  cases operation with
  | load tree level =>
    rw [RuleSet.perform, value_load, foldlM_sources]
    cases (Loading.scopes tree set.root level).run.value <;> rfl
  | purge => rfl
  | setGlobal file => rfl
  | setGlobalDefault file => rfl
  | insertLump world lump file => rfl

/-- No history moves a rule set to another directory. -/
theorem root_foldl_perform [PatternReader] (set : RuleSet) (history : List Operation) :
  (history.foldl RuleSet.perform set).root = set.root
  := by
  induction history generalizing set with
  | nil => rfl
  | cons operation history ih => rw [List.foldl_cons, ih, root_perform]

/-- After any history, a level is loaded from all its files, or not at all: then the error is that
of the first file with a fault, or of a closed directory if that is met before. -/
theorem load_of_history [PatternReader] (root : String) (history : List Operation)
    (tree : FileTree) (level : String) :
  let set := history.foldl RuleSet.perform (RuleSet.new root)
  ∃ items, SourcesOf tree root level items ∧
    match items.findSome? (Source.fault? tree) with
    | some error => (set.load tree level).value = (set, .error error)
    | none => ∃ files : List RuleFile,
      items.map (Source.read tree) = files.map .ok ∧
      let loaded := (items.zip files).foldl
        (fun set (source, file) => source.install set file) (RuleSet.new root)
      (set.load tree level).value = (loaded, .ok ())
  := by
  intro set
  have hroot : set.root = root := root_foldl_perform (RuleSet.new root) history
  have hload := value_load set tree level
  rw [hroot] at hload
  use sources tree root level, sourcesOf_sources tree root level
  have hadd := foldlM_add tree (sources tree root level) (RuleSet.new root)
  split at hadd
  · next error hfault =>
    rw [hload, hadd]
  · next hfault =>
    obtain ⟨files, hfiles, hadd⟩ := hadd
    use files, hfiles
    rw [hload, hadd]

end LumpRules
