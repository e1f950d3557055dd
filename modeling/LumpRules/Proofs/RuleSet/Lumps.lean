import LumpRules.Proofs.RuleSet.Keys
import LumpRules.Proofs.RuleSet.Loading
import Mathlib.Logic.Function.Basic

/-!
# The rules of lumps

A `LumpTable` holds the rules of lumps under the two names of each, the name of the world and that
of the lump, in lower case.  `lumpRules_of_history` says that a rule set keeps the rules of lumps
as such a table does, whatever happens to it, and that the rules which an insertion displaces are
those of the table, as long as all names are plain.  Names that are not can take the place of others
(`lumpRules_insertLump_colons`).
-/

namespace LumpRules

open Text

/-- The rules of lumps, each under the names of its world and of the lump in lower case. -/
abbrev LumpTable := String × String → Option RuleFile

namespace LumpTable

/-- The table without rules. -/
def empty : LumpTable := fun _ => none

/-- The table with the rules of a lump replaced. -/
def insert (table : LumpTable) (world lump : String) (file : RuleFile) : LumpTable :=
  Function.update table (lowerName world, lowerName lump) (some file)

/-- The table with the rules of a source put into their place, if they are those of a lump. -/
def install (table : LumpTable) (source : Source) (file : RuleFile) : LumpTable :=
  match source with
  | .file _ (.lump world lump) => table.insert world lump file
  | _ => table

/-- The table with the rules of one more source in place, if the source has no fault. -/
def add [PatternReader] (tree : FileTree) (table : LumpTable) (source : Source) :
    Except LoadError LumpTable := do
  let file ← source.read tree
  return table.install source file

/-- The table after an operation on the rules below a root directory. -/
def perform [PatternReader] (root : String) (table : LumpTable) : Operation → LumpTable
  | .load tree level =>
    match (sources tree root level).foldlM (add tree) empty with
    | .ok loaded => loaded
    | .error _ => table
  | .purge => empty
  | .setGlobal _ | .setGlobalDefault _ => table
  | .insertLump world lump file => table.insert world lump file

end LumpTable

/-- The names in the place of a source are plain. -/
def Source.IsPlain (source : Source) : Prop :=
  ∀ path world lump, source = .file path (.lump world lump) → LumpRules.IsPlain world lump

/-- The names that an operation puts rules under are plain. -/
def Operation.IsPlain (root : String) : Operation → Prop
  | .load tree level => ∀ source ∈ sources tree root level, source.IsPlain
  | .insertLump world lump _ => LumpRules.IsPlain world lump
  | _ => True

/-- A rule set has the rules of a table for all lumps with plain names. -/
def RuleSet.Agrees (set : RuleSet) (table : LumpTable) : Prop :=
  ∀ world lump, IsPlain world lump →
    set.lumpRules world lump = table (lowerName world, lowerName lump)

variable {root world lump world' lump' : String} {file : RuleFile} {set : RuleSet}
  {table : LumpTable} {source : Source} {items : List Source} {operation : Operation}
  {history : List Operation}

/-! ### Single steps -/

theorem LumpTable.insert_apply (table : LumpTable) (world lump : String) (file : RuleFile)
    (world' lump' : String) :
  table.insert world lump file (lowerName world', lowerName lump') =
    if lowerName world' = lowerName world ∧ lowerName lump' = lowerName lump then some file
    else table (lowerName world', lowerName lump')
  := by
  rw [LumpTable.insert, Function.update_apply]
  simp only [Prod.mk.injEq]

/-- Lumps with plain names do not interfere. -/
theorem lumpRules_insertLump_of_isPlain (set : RuleSet) (file : RuleFile) (h : IsPlain world lump)
    (h' : IsPlain world' lump') :
  (set.insertLump world lump file).1.lumpRules world' lump' =
    if lowerName world' = lowerName world ∧ lowerName lump' = lowerName lump then some file
    else set.lumpRules world' lump'
  := by
  rw [RuleSet.lumpRules, RuleSet.insertLump, Scopes.lumpRules_insertLump]
  simp only [scopeKey_eq_iff h' h]
  rfl

theorem RuleSet.Agrees.insertLump (hset : set.Agrees table) (h : IsPlain world lump) :
  (set.insertLump world lump file).1.Agrees (table.insert world lump file)
  := by
  intro world' lump' h'
  rw [lumpRules_insertLump_of_isPlain set file h h', hset world' lump' h', LumpTable.insert_apply]

theorem RuleSet.Agrees.install (hset : set.Agrees table) (h : source.IsPlain) :
  (source.install set file).Agrees (table.install source file)
  := by
  cases source with
  | closed path failure => apply hset
  | file path place =>
    cases place with
    | global => apply hset
    | globalDefault => apply hset
    | lump world lump => apply hset.insertLump (h path world lump rfl)

theorem agrees_new (root : String) :
  (RuleSet.new root).Agrees LumpTable.empty
  := by
  intro world lump _
  rfl

/-- Sources are read into a rule set and into a table alike. -/
theorem RuleSet.Agrees.foldlM_add [PatternReader] (tree : FileTree) (hset : set.Agrees table)
    (hitems : ∀ source ∈ items, source.IsPlain) :
  (∃ error, items.foldlM (Source.add tree) set = .error error ∧
      items.foldlM (LumpTable.add tree) table = .error error) ∨
    ∃ loaded lumps, items.foldlM (Source.add tree) set = .ok loaded ∧
      items.foldlM (LumpTable.add tree) table = .ok lumps ∧ loaded.Agrees lumps
  := by
  induction items generalizing set table with
  | nil =>
    right
    exact ⟨set, table, rfl, rfl, hset⟩
  | cons source items ih =>
    rw [List.forall_mem_cons] at hitems
    rw [List.foldlM_cons, List.foldlM_cons, Source.add, LumpTable.add]
    cases source.read tree with
    | error error =>
      left
      exact ⟨_, rfl, rfl⟩
    | ok file => apply ih (hset.install hitems.1) hitems.2

/-- An operation keeps a rule set and a table in agreement. -/
theorem RuleSet.Agrees.perform [PatternReader] (hset : set.Agrees table)
    (h : operation.IsPlain set.root) :
  (set.perform operation).Agrees (table.perform set.root operation)
  := by
  cases operation with
  | load tree level =>
    rw [RuleSet.perform, LumpTable.perform, value_load]
    obtain ⟨error, hset', htable⟩ | ⟨loaded, lumps, hset', htable, hagrees⟩ :=
      (agrees_new set.root).foldlM_add tree h
    · rw [hset', htable]
      apply hset
    · rw [hset', htable]
      apply hagrees
  | purge => apply agrees_new
  | setGlobal file => apply hset
  | setGlobalDefault file => apply hset
  | insertLump world lump file => apply hset.insertLump h

/-! ### Histories -/

/-- A history keeps a rule set and a table in agreement. -/
theorem RuleSet.Agrees.foldl_perform [PatternReader] (hset : set.Agrees table)
    (h : ∀ operation ∈ history, operation.IsPlain set.root) :
  (history.foldl RuleSet.perform set).Agrees (history.foldl (LumpTable.perform set.root) table)
  := by
  induction history generalizing set table with
  | nil => apply hset
  | cons operation history ih =>
    rw [List.forall_mem_cons] at h
    have hrest : ∀ operation' ∈ history, operation'.IsPlain (set.perform operation).root := by
      rw [root_perform]
      apply h.2
    have hagrees := ih (hset.perform h.1) hrest
    rw [root_perform] at hagrees
    apply hagrees

/-- After any history, rules that are put in for a lump displace those of no other, and the rules
of lumps are kept as in a table under the names of the world and of the lump in lower case.  The
rules that an insertion displaces are those of the table, too. -/
theorem lumpRules_of_history [PatternReader] (root : String) (history : List Operation)
    (h : IsPlain world lump) :
  let set := history.foldl RuleSet.perform (RuleSet.new root)
  (∀ world' lump' file, IsPlain world' lump' →
    (set.insertLump world lump file).1.lumpRules world' lump' =
      if lowerName world' = lowerName world ∧ lowerName lump' = lowerName lump then some file
      else set.lumpRules world' lump') ∧
  (∀ file, (set.insertLump world lump file).2 = set.lumpRules world lump) ∧
  ((∀ operation ∈ history, operation.IsPlain root) →
    let rules :=
      history.foldl (LumpTable.perform root) LumpTable.empty (lowerName world, lowerName lump)
    set.lumpRules world lump = rules ∧ ∀ file, (set.insertLump world lump file).2 = rules)
  := by
  intro set
  have hdisplaced : ∀ file, (set.insertLump world lump file).2 = set.lumpRules world lump := by
    intro file
    exact Scopes.insertLump_displaced set.scopes world lump file
  refine ⟨?_, hdisplaced, ?_⟩
  · intro world' lump' file h'
    apply lumpRules_insertLump_of_isPlain set file h h'
  · intro hhistory rules
    have hrules : set.lumpRules world lump = rules :=
      (agrees_new root).foldl_perform hhistory world lump h
    use hrules
    intro file
    rw [hdisplaced, hrules]

open scoped PatternReader in
set_option maxRecDepth 4000 in
/-- Rules are displaced under another spelling of their lump, and those of another lump stay. -/
theorem lumpRules_of_history_spelling :
  let history : List Operation := [.insertLump "C1M1" "Default_Ents" {}, .setGlobal {}]
  let set := history.foldl RuleSet.perform (RuleSet.new "rules")
  IsPlain "c1m1" "default_ents" ∧ IsPlain "c1m2" "default_ents" ∧
    (∀ operation ∈ history, operation.IsPlain "rules") ∧
    set.lumpRules "c1m1" "default_ents" = some {} ∧
    (set.insertLump "c1m1" "default_ents" ⟨[.remove {}]⟩).2 = some {} ∧
    (set.insertLump "c1m1" "default_ents" ⟨[.remove {}]⟩).1.lumpRules "c1m2" "default_ents" =
      set.lumpRules "c1m2" "default_ents"
  := by
  intro history set
  have hfirst : IsPlain "c1m1" "default_ents" := by decide
  have hsecond : IsPlain "c1m2" "default_ents" := by decide
  have hhistory : ∀ operation ∈ history, operation.IsPlain "rules" := by
    rw [List.forall_mem_cons, List.forall_mem_singleton]
    have hplain : IsPlain "C1M1" "Default_Ents" := by decide
    exact ⟨hplain, trivial⟩
  obtain ⟨hinsert, -, htable⟩ := lumpRules_of_history "rules" history hfirst
  obtain ⟨hrules, hdisplaced⟩ := htable hhistory
  have hkept : history.foldl (LumpTable.perform "rules") LumpTable.empty
      (lowerName "c1m1", lowerName "default_ents") = some {} := by
    rw [List.foldl_cons, List.foldl_cons, List.foldl_nil, LumpTable.perform, LumpTable.perform,
      LumpTable.insert_apply]
    apply if_pos
    decide
  refine ⟨hfirst, hsecond, hhistory, hrules.trans hkept, (hdisplaced _).trans hkept, ?_⟩
  rw [hinsert "c1m2" "default_ents" _ hsecond, if_neg (by decide)]

/-- Two colons in a name give different lumps one key: the rules of the one displace those of the
other, and these are returned. -/
theorem lumpRules_insertLump_colons :
  let set := ((RuleSet.new "rules").insertLump "a::b" "c" {}).1
  let inserted := set.insertLump "a" "b::c" ⟨[.remove {}]⟩
  lowerName "a" ≠ lowerName "a::b" ∧
    (set.lumpRules "a::b" "c").map RuleFile.isEmpty = some true ∧
    inserted.2.map RuleFile.isEmpty = some true ∧
    (inserted.1.lumpRules "a::b" "c").map RuleFile.isEmpty = some false
  := by
  exact ⟨by decide, rfl, rfl, rfl⟩

end LumpRules
