import LumpRules.Entity.Basic
import LumpRules.Entries
import LumpRules.RuleFile
import LumpRules.RuleSet.FileTree
import LumpRules.Text.Lowercase

/-!
# Rule sets

A rule set holds the rules for a level: global rules, rules for the default entities of the
level, and rules for single lumps.  The rules of a lump are kept under the names of its world and
of the lump, in lower case.  `scopeChain` lists the rule files for a lump in the order in which
they are applied.
-/

namespace LumpRules

open Text

/-- The rule files that are in force. -/
structure Scopes where
  global : Option RuleFile := none
  globalDefault : Option RuleFile := none
  /-- The rule files of single lumps, each under its key. -/
  lumps : Entries RuleFile := []

/-- A directory of rule files, and the rules that are in force. -/
structure RuleSet where
  root : String
  scopes : Scopes := {}

/-- The key for the rules of a lump. -/
def scopeKey (world lump : String) : String :=
  String.ofList (lowercase (world ++ "::" ++ lump).toList)

namespace Scopes

/-- Whether no rule is in force. -/
def isEmpty (scopes : Scopes) : Bool :=
  scopes.global.all RuleFile.isEmpty && scopes.globalDefault.all RuleFile.isEmpty &&
    scopes.lumps.all fun entry => entry.2.isEmpty

/-- The rules of a lump. -/
def lumpRules (scopes : Scopes) (world lump : String) : Option RuleFile :=
  scopes.lumps.get? id (scopeKey world lump)

/-- The scopes with the rules of a lump replaced, and the rules that were there. -/
def insertLump (scopes : Scopes) (world lump : String) (file : RuleFile) :
    Scopes × Option RuleFile :=
  let key := scopeKey world lump
  ({ scopes with lumps := scopes.lumps.put id key file }, scopes.lumps.get? id key)

/-- The rules of a lump are replaced under every spelling with the same key, and no others. -/
@[simp]
theorem lumpRules_insertLump {scopes : Scopes} {world lump world' lump' : String}
    {file : RuleFile} :
  (scopes.insertLump world lump file).1.lumpRules world' lump' =
    if scopeKey world' lump' = scopeKey world lump then some file
    else scopes.lumpRules world' lump'
  := by
  simp [lumpRules, insertLump, eq_comm]

/-- The rules that are displaced are those that would have been found. -/
@[simp]
theorem insertLump_displaced (scopes : Scopes) (world lump : String) (file : RuleFile) :
  (scopes.insertLump world lump file).2 = scopes.lumpRules world lump
  := rfl

end Scopes

namespace RuleSet

/-- A rule set without rules. -/
def new (root : String) : RuleSet := { root }

/-- The rule set without its rules. -/
def purge (set : RuleSet) : RuleSet := { set with scopes := {} }

/-- Whether some rule is in force. -/
def hasRules (set : RuleSet) : Bool := !set.scopes.isEmpty

/-- The global rules. -/
def global (set : RuleSet) : Option RuleFile := set.scopes.global

/-- The rules for the default entities of a level. -/
def globalDefault (set : RuleSet) : Option RuleFile := set.scopes.globalDefault

/-- The rules of a lump. -/
def lumpRules (set : RuleSet) (world lump : String) : Option RuleFile :=
  set.scopes.lumpRules world lump

/-- The rule set with its global rules replaced. -/
def setGlobal (set : RuleSet) (file : RuleFile) : RuleSet :=
  { set with scopes := { set.scopes with global := file } }

/-- The rule set with its rules for default entities replaced. -/
def setGlobalDefault (set : RuleSet) (file : RuleFile) : RuleSet :=
  { set with scopes := { set.scopes with globalDefault := file } }

/-- The rule set with the rules of a lump replaced, and the rules that they displace. -/
def insertLump (set : RuleSet) (world lump : String) (file : RuleFile) :
    RuleSet × Option RuleFile :=
  let (scopes, displaced) := set.scopes.insertLump world lump file
  ({ set with scopes }, displaced)

/-- The rule files for a lump, in the order of application.  Those for default entities apply
only to the default lump of the world that is named like the level. -/
def scopeChain (set : RuleSet) (level world lump : String) : List RuleFile :=
  (set.lumpRules world lump).toList ++ set.global.toList ++
    if sameName world level && sameName lump defaultLump then set.globalDefault.toList else []

section Application

variable {ε σ : Type} [EntityView ε] [LumpView σ ε]

/-- The lump after one more rule file, with the report on all so far. -/
def applyFile (options : Options) (done : σ × Report) (file : RuleFile) :
    Logged (σ × Report) := do
  let (lump, report) ← file.apply options done.1
  return (lump, done.2.merge report)

/-- The lump after all rule files for it, and the report. -/
def applyLump (set : RuleSet) (level world : String) (options : Options) (lump : σ) :
    Logged (σ × Report) := do
  let name := LumpView.name lump
  let (lump, report) ←
    (set.scopeChain level world name).foldlM (applyFile options) (lump, {})
  Logged.eventIf (!report.isUnchanged || !report.errors.isEmpty)
    (.rulesApplied level world name report)
  return (lump, report)

/-- The lumps of a world after the rules for each, and the report on all of them. -/
def applyWorld (set : RuleSet) (level world : String) (options : Options) :
    List σ → Logged (List σ × Report)
  | [] => return ([], {})
  | lump :: lumps => do
    let (lump, report) ← set.applyLump level world options lump
    let (lumps, others) ← set.applyWorld level world options lumps
    return (lump :: lumps, report.merge others)

end Application

end RuleSet

end LumpRules
