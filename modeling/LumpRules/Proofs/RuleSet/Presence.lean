import LumpRules.Proofs.RuleSet.Loading

/-!
# Whether rules are in force

A rule set tells by `hasRules` whether some rule is in force.  If so, one of the rule files that can
be looked up has a rule, since the rules of lumps stand under distinct keys of lumps in every rule
set that comes from a new one (`IsKeyed`).  Otherwise the rules of a world change nothing, tell
nothing and report nothing.  `hasRules_of_history` says this of every history, together with what
leaves a rule set without rules: a purge, and a level whose files have none.
-/

namespace LumpRules

open Text

variable {set : RuleSet} {file : RuleFile} {source : Source} {items : List Source}
  {operation : Operation} {world lump : String}

/-! ### Rule files that can be looked up -/

/-- A rule file that can be looked up. -/
inductive RuleSet.Holds (set : RuleSet) (file : RuleFile) : Prop where
  | global : set.global = some file → Holds set file
  | globalDefault : set.globalDefault = some file → Holds set file
  | lump {world lump : String} : set.lumpRules world lump = some file → Holds set file

/-- The rules of lumps stand under distinct keys, all of which are those of lumps. -/
structure RuleSet.IsKeyed (set : RuleSet) : Prop where
  nodup : (set.scopes.lumps.map Prod.fst).Nodup
  keys : ∀ key ∈ set.scopes.lumps.map Prod.fst, ∃ world lump, key = scopeKey world lump

theorem hasRules_eq_false_iff :
  set.hasRules = false ↔
    (∀ file, set.global = some file → file.isEmpty = true) ∧
    (∀ file, set.globalDefault = some file → file.isEmpty = true) ∧
    ∀ entry ∈ set.scopes.lumps, entry.2.isEmpty = true
  := by
  simp [RuleSet.hasRules, Scopes.isEmpty, RuleSet.global, RuleSet.globalDefault, and_assoc,
    Option.all_eq_true]

/-- A rule set without rules holds rule files without rules only. -/
theorem RuleSet.Holds.isEmpty (h : set.Holds file) (hset : set.hasRules = false) :
  file.isEmpty = true
  := by
  obtain ⟨hglobal, hdefault, hlumps⟩ := hasRules_eq_false_iff.mp hset
  cases h with
  | global h => apply hglobal file h
  | globalDefault h => apply hdefault file h
  | lump h =>
    obtain ⟨key, hmem, -⟩ := Entries.mem_of_get? h
    apply hlumps _ hmem

/-- A rule set whose rules can all be looked up has no rules if it holds none. -/
theorem RuleSet.IsKeyed.hasRules_eq_false (h : set.IsKeyed)
    (hempty : ∀ file, set.Holds file → file.isEmpty = true) :
  set.hasRules = false
  := by
  rw [hasRules_eq_false_iff]
  refine ⟨fun file hfile => hempty file (.global hfile),
    fun file hfile => hempty file (.globalDefault hfile), ?_⟩
  rintro ⟨key, file⟩ hmem
  obtain ⟨world, lump, rfl⟩ := h.keys key (List.mem_map_of_mem hmem)
  apply hempty file
  apply RuleSet.Holds.lump (Entries.get?_of_mem h.nodup hmem)

/-- Some rule is in force exactly if a rule file that can be looked up has one. -/
theorem RuleSet.IsKeyed.hasRules_iff (h : set.IsKeyed) :
  set.hasRules = true ↔ ∃ file, set.Holds file ∧ file.isEmpty = false
  := by
  constructor
  · intro hset
    by_contra hnone
    have hempty : ∀ file, set.Holds file → file.isEmpty = true := by
      intro file hfile
      by_contra hrules
      exact hnone ⟨file, hfile, Bool.of_not_eq_true hrules⟩
    rw [h.hasRules_eq_false hempty] at hset
    contradiction
  · rintro ⟨file, hfile, hrules⟩
    by_contra hset
    rw [hfile.isEmpty (Bool.of_not_eq_true hset)] at hrules
    contradiction

/-! ### Histories -/

theorem isKeyed_new (root : String) :
  (RuleSet.new root).IsKeyed
  where
  nodup := List.nodup_nil
  keys := by simp [RuleSet.new]

theorem RuleSet.IsKeyed.insertLump (h : set.IsKeyed) :
  (set.insertLump world lump file).1.IsKeyed
  where
  nodup := by
    change ((Entries.put id _ file set.scopes.lumps).map (id ·.1)).Nodup
    apply Entries.nodup_alter h.nodup
  keys := by
    intro key hkey
    obtain ⟨entry, hentry, rfl⟩ := List.mem_map.mp hkey
    rcases Entries.mem_put hentry with hold | ⟨-, hname | hold⟩
    · apply h.keys _ (List.mem_map_of_mem hold)
    · exact ⟨world, lump, hname⟩
    · apply h.keys _ hold

theorem RuleSet.IsKeyed.install (h : set.IsKeyed) :
  (source.install set file).IsKeyed
  := by
  unfold Source.install
  split
  · exact ⟨h.nodup, h.keys⟩
  · exact ⟨h.nodup, h.keys⟩
  · apply h.insertLump
  · apply h

theorem RuleSet.IsKeyed.foldlM_add [PatternReader] {tree : FileTree} {loaded : RuleSet}
    (h : set.IsKeyed) (hload : items.foldlM (Source.add tree) set = .ok loaded) :
  loaded.IsKeyed
  := by
  induction items generalizing set with
  | nil =>
    obtain rfl := Except.ok.inj hload
    apply h
  | cons source items ih =>
    rw [List.foldlM_cons, bind_eq_ok] at hload
    obtain ⟨next, hnext, hload⟩ := hload
    rw [Source.add, bind_eq_ok] at hnext
    obtain ⟨file, -, hnext⟩ := hnext
    obtain rfl := Except.ok.inj hnext
    apply ih h.install hload

theorem RuleSet.IsKeyed.perform [PatternReader] (h : set.IsKeyed) :
  (set.perform operation).IsKeyed
  := by
  cases operation with
  | load tree level =>
    rw [RuleSet.perform, value_load]
    split
    · next loaded hload => apply (isKeyed_new set.root).foldlM_add hload
    · apply h
  | purge => apply isKeyed_new
  | setGlobal file => exact ⟨h.nodup, h.keys⟩
  | setGlobalDefault file => exact ⟨h.nodup, h.keys⟩
  | insertLump world lump file => apply h.insertLump

theorem RuleSet.IsKeyed.foldl_perform [PatternReader] {history : List Operation} (h : set.IsKeyed) :
  (history.foldl RuleSet.perform set).IsKeyed
  := by
  induction history generalizing set with
  | nil => apply h
  | cons operation history ih => apply ih h.perform

/-! ### Levels without rules -/

/-- A rule set without rules has none either when a rule file without rules is put into it. -/
theorem hasRules_install (h : set.hasRules = false) (hfile : file.isEmpty = true) :
  (source.install set file).hasRules = false
  := by
  rw [hasRules_eq_false_iff] at h ⊢
  obtain ⟨hglobal, hdefault, hlumps⟩ := h
  unfold Source.install
  split
  · refine ⟨?_, hdefault, hlumps⟩
    rintro _ ⟨⟩
    apply hfile
  · refine ⟨hglobal, ?_, hlumps⟩
    rintro _ ⟨⟩
    apply hfile
  · refine ⟨hglobal, hdefault, ?_⟩
    intro entry hentry
    rcases Entries.mem_put hentry with hold | ⟨hnew, -⟩
    · apply hlumps entry hold
    · rw [hnew, hfile]
  · exact ⟨hglobal, hdefault, hlumps⟩

/-- A source whose rule file has no rules. -/
def Source.IsIdle [PatternReader] (tree : FileTree) (source : Source) : Prop :=
  ∃ file, source.read tree = .ok file ∧ file.isEmpty = true

theorem hasRules_foldlM_add [PatternReader] {tree : FileTree} (h : set.hasRules = false)
    (hitems : ∀ source ∈ items, source.IsIdle tree) :
  ∃ loaded, items.foldlM (Source.add tree) set = .ok loaded ∧ loaded.hasRules = false
  := by
  induction items generalizing set with
  | nil => exact ⟨set, rfl, h⟩
  | cons source items ih =>
    rw [List.forall_mem_cons] at hitems
    obtain ⟨⟨file, hread, hfile⟩, hitems⟩ := hitems
    have hadd : Source.add tree set source = .ok (source.install set file) := by
      rw [Source.add, hread]
      rfl
    rw [List.foldlM_cons, hadd]
    apply ih (hasRules_install h hfile) hitems

/-! ### Runs without rules -/

section Application

variable {ε σ : Type} [EntityView ε] [LumpView σ ε] {options : Options}

/-- Rule files without rules change nothing and tell nothing. -/
theorem foldlM_applyFile_of_isEmpty {files : List RuleFile} {done : σ × Report}
    (h : ∀ file ∈ files, file.isEmpty = true) :
  files.foldlM (RuleSet.applyFile options) done = pure done
  := by
  induction files with
  | nil => rfl
  | cons file files ih =>
    obtain ⟨rules⟩ := file
    rw [List.forall_mem_cons] at h
    obtain rfl : rules = [] := List.isEmpty_iff.mp h.1
    have hfile : RuleSet.applyFile options done ⟨[]⟩ = pure done := by
      have hmerge : done.2.merge {} = done.2 := Report.merge_empty done.2
      calc RuleSet.applyFile options done ⟨[]⟩ = pure (done.1, done.2.merge {}) := rfl
        _ = pure done := by rw [hmerge]
    rw [List.foldlM_cons, hfile, pure_bind]
    apply ih h.2

/-- The rule files for a lump are among those that can be looked up. -/
theorem holds_of_mem_scopeChain {level : String} (h : file ∈ set.scopeChain level world lump) :
  set.Holds file
  := by
  rw [RuleSet.scopeChain, List.mem_append, List.mem_append, Option.mem_toList,
    Option.mem_toList] at h
  rcases h with (hlump | hglobal) | hdefault
  · exact .lump hlump
  · exact .global hglobal
  · split at hdefault
    · exact .globalDefault (Option.mem_toList.mp hdefault)
    · contradiction

/-- Without rules the lumps of a world stay as they are, and there is nothing to tell or to
report. -/
theorem applyWorld_of_hasRules (h : set.hasRules = false) (level world : String)
    (options : Options) (lumps : List σ) :
  set.applyWorld level world options lumps = pure (lumps, {})
  := by
  have hlump (lump : σ) : set.applyLump level world options lump = pure (lump, {}) := by
    rw [RuleSet.applyLump, foldlM_applyFile_of_isEmpty]
    · rfl
    · intro file hfile
      apply (holds_of_mem_scopeChain hfile).isEmpty h
  induction lumps with
  | nil => rfl
  | cons lump lumps ih =>
    rw [RuleSet.applyWorld, hlump, pure_bind, ih]
    rfl

/-- After any history: a rule set that tells that it has no rules changes nothing and reports
nothing; it has none after a purge and after a level is loaded whose files have none; and if it has
rules, then a rule file that can be looked up has one. -/
theorem hasRules_of_history [PatternReader] (root : String) (history : List Operation)
    (level world : String) (options : Options) (lumps : List σ) :
  let set := history.foldl RuleSet.perform (RuleSet.new root)
  (set.hasRules = false → set.applyWorld level world options lumps = pure (lumps, {})) ∧
    (set.perform .purge).hasRules = false ∧
    (∀ tree level items, SourcesOf tree root level items →
      (∀ source ∈ items, source.IsIdle tree) →
      ∃ loaded, (set.load tree level).value = (loaded, .ok ()) ∧ loaded.hasRules = false) ∧
    (set.hasRules = true ↔ ∃ file, set.Holds file ∧ file.isEmpty = false)
  := by
  intro set
  have hroot : set.root = root := root_foldl_perform (RuleSet.new root) history
  refine ⟨fun hset => applyWorld_of_hasRules hset level world options lumps, rfl, ?_,
    (isKeyed_new root).foldl_perform.hasRules_iff⟩
  intro tree level items hitems hidle
  have hsources : ∀ source ∈ sources tree root level, source.IsIdle tree := by
    intro source hsource
    apply hidle
    apply ((sourcesOf_sources tree root level).mem_iff hitems).mp hsource
  have hnew : (RuleSet.new root).hasRules = false := rfl
  obtain ⟨loaded, hload, hloaded⟩ := hasRules_foldlM_add hnew hsources
  use loaded
  rw [value_load, hroot, hload]
  exact ⟨rfl, hloaded⟩

/-- A rule file without rules takes the place of another one, but puts no rule in force. -/
example :
    let set := ((RuleSet.new "rules").setGlobal ⟨[.remove {}]⟩).setGlobal {}
    (set.global.isSome, set.hasRules) = (true, false) := rfl

end Application

end LumpRules
