import LumpRules.Proofs.Application.Mutation
import LumpRules.RuleSet.Basic

/-!
# Replacements that are not made

With replacements disabled, rules do what they would do without their replacements: `erased` takes
the replacements out of a mutation, a rule, a rule file and a rule set.  A mutation is the same
computation on both sides (`applyMutation_erased`), so each step of a run has the same value, and so
have whole runs (`applyRules_erased`).  The rules for a lump are erased file by file
(`scopeChain_erased`), which carries the result over to rule sets (`disabled_eq_erased`).
-/

namespace LumpRules

/-! ### Erasure -/

/-- The mutation without its replacements. -/
def Mutation.erased (mutation : Mutation) : Mutation :=
  { mutation with replace := none }

/-- The rule without the replacements of its mutation. -/
def Rule.erased : Rule → Rule
  | .modify conditions mutation => .modify conditions mutation.erased
  | rule => rule

/-- The rule file without the replacements of its rules. -/
def RuleFile.erased (file : RuleFile) : RuleFile :=
  ⟨file.rules.map Rule.erased⟩

/-- The scopes without the replacements of their rules. -/
def Scopes.erased (scopes : Scopes) : Scopes where
  global := scopes.global.map RuleFile.erased
  globalDefault := scopes.globalDefault.map RuleFile.erased
  lumps := scopes.lumps.map fun (key, file) => (key, file.erased)

/-- The rule set without the replacements of its rules. -/
def RuleSet.erased (set : RuleSet) : RuleSet :=
  { set with scopes := set.scopes.erased }

/-! ### Rules -/

section Lumps

variable {ε σ : Type} [EntityView ε] [LumpView σ ε] {verbose enabled : Bool} {name : String}
  {run : Run σ}

/-- Without its replacements a mutation is made as it is made while they are disabled. -/
theorem applyMutation_erased (mutation : Mutation) (entity : ε) :
  applyMutation { verbose, replaceEnabled := enabled } name mutation.erased entity =
    applyMutation { verbose, replaceEnabled := false } name mutation entity
  := by
  have hreplace : ∀ entity : ε, mutation.erased.applyReplace enabled name entity =
      mutation.applyReplace false name entity := by
    intro entity
    simp only [Mutation.applyReplace, Mutation.erased]
    split <;> rfl
  simp only [applyMutation_eq, hreplace]
  rfl

/-- The two runs log different rules, so only their values are the same from here on. -/
theorem modifyAt_erased (conditions : Conditions) (mutation : Mutation) (index : Nat) :
  (modifyAt { verbose, replaceEnabled := enabled } name conditions mutation.erased run
      index).value =
    (modifyAt { verbose, replaceEnabled := false } name conditions mutation run index).value
  := by
  unfold modifyAt
  split
  · rfl
  · split
    · simp only [applyMutation_erased, Logged.value_bind, Logged.value_pure]
    · rfl

theorem removeBelow_disabled (conditions : Conditions) (count : Nat) :
  removeBelow { verbose, replaceEnabled := enabled } name conditions count run =
    removeBelow { verbose, replaceEnabled := false } name conditions count run
  := by
  induction count generalizing run with
  | zero => rfl
  | succ index ih =>
    simp only [removeBelow, ih]
    rfl

theorem removeStep_erased (rule : Rule) :
  removeStep { verbose, replaceEnabled := enabled } name run rule.erased =
    removeStep { verbose, replaceEnabled := false } name run rule
  := by
  cases rule with
  | remove conditions => apply removeBelow_disabled
  | add insertions => rfl
  | modify conditions mutation => rfl

theorem addStep_erased (rule : Rule) :
  addStep { verbose, replaceEnabled := enabled } name run rule.erased =
    addStep { verbose, replaceEnabled := false } name run rule
  := by
  cases rule with
  | remove conditions => rfl
  | add insertions => rfl
  | modify conditions mutation => rfl

theorem modifyStep_erased (rule : Rule) :
  (modifyStep { verbose, replaceEnabled := enabled } name run rule.erased).value =
    (modifyStep { verbose, replaceEnabled := false } name run rule).value
  := by
  cases rule with
  | remove conditions => rfl
  | add insertions => rfl
  | modify conditions mutation =>
    simp only [Rule.erased, modifyStep, Logged.value_foldlM, modifyAt_erased]

theorem applyRules_erased (rules : List Rule) (lump : σ) :
  (applyRules (rules.map Rule.erased) { verbose, replaceEnabled := enabled } lump).value =
    (applyRules rules { verbose, replaceEnabled := false } lump).value
  := by
  simp only [applyRules, Logged.value_bind, Logged.value_pure, Logged.value_foldlM,
    List.foldl_map, removeStep_erased, addStep_erased, modifyStep_erased]

/-! ### Rule sets -/

theorem Scopes.lumpRules_erased (scopes : Scopes) (world lump : String) :
  scopes.erased.lumpRules world lump = (scopes.lumpRules world lump).map RuleFile.erased
  := by
  simp only [lumpRules, erased]
  induction scopes.lumps with
  | nil => rfl
  | cons entry entries ih =>
    obtain ⟨key, file⟩ := entry
    rw [List.map_cons, Entries.get?_cons, Entries.get?_cons, ih]
    split <;> rfl

/-- The rule files for a lump are erased one by one. -/
theorem scopeChain_erased (set : RuleSet) (level world lump : String) :
  set.erased.scopeChain level world lump =
    (set.scopeChain level world lump).map RuleFile.erased
  := by
  have htoList : ∀ file? : Option RuleFile, (file?.map RuleFile.erased).toList =
      file?.toList.map RuleFile.erased := by
    intro file?
    cases file? <;> rfl
  have hlump : set.erased.lumpRules world lump =
      (set.lumpRules world lump).map RuleFile.erased := Scopes.lumpRules_erased _ _ _
  have hglobal : set.erased.global = set.global.map RuleFile.erased := rfl
  have hdefault : set.erased.globalDefault = set.globalDefault.map RuleFile.erased := rfl
  rw [RuleSet.scopeChain, RuleSet.scopeChain, hlump, hglobal, hdefault, htoList, htoList, htoList]
  split <;> simp

theorem applyFile_erased (done : σ × Report) (file : RuleFile) :
  (RuleSet.applyFile { verbose, replaceEnabled := enabled } done file.erased).value =
    (RuleSet.applyFile { verbose, replaceEnabled := false } done file).value
  := by
  simp only [RuleSet.applyFile, RuleFile.apply, RuleFile.erased, Logged.value_bind,
    applyRules_erased]

variable (set : RuleSet) (level world : String)

theorem applyLump_erased (lump : σ) :
  (set.erased.applyLump level world { verbose, replaceEnabled := enabled } lump).value =
    (set.applyLump level world { verbose, replaceEnabled := false } lump).value
  := by
  simp only [RuleSet.applyLump, Logged.value_bind, Logged.value_pure, Logged.value_foldlM,
    scopeChain_erased, List.foldl_map, applyFile_erased]

theorem applyWorld_erased (lumps : List σ) :
  (set.erased.applyWorld level world { verbose, replaceEnabled := enabled } lumps).value =
    (set.applyWorld level world { verbose, replaceEnabled := false } lumps).value
  := by
  induction lumps with
  | nil => rfl
  | cons lump lumps ih =>
    simp only [RuleSet.applyWorld, Logged.value_bind, Logged.value_pure, applyLump_erased, ih]

/-- A run with replacements disabled leaves the same lumps and the same report as a run of the
rules without their replacements, whether these are enabled then or not.  This holds of the rules
of a list and of those of a rule set, over a lump and over the lumps of a world. -/
theorem disabled_eq_erased (rules : List Rule) (lump : σ) (lumps : List σ)
    (verbose enabled : Bool) :
  (applyRules rules { verbose, replaceEnabled := false } lump).value =
      (applyRules (rules.map Rule.erased) { verbose, replaceEnabled := enabled } lump).value ∧
    (set.applyLump level world { verbose, replaceEnabled := false } lump).value =
      (set.erased.applyLump level world { verbose, replaceEnabled := enabled } lump).value ∧
    (set.applyWorld level world { verbose, replaceEnabled := false } lumps).value =
      (set.erased.applyWorld level world { verbose, replaceEnabled := enabled } lumps).value
  := by
  rw [applyRules_erased, applyLump_erased, applyWorld_erased]
  exact ⟨rfl, rfl, rfl⟩

end Lumps

end LumpRules
