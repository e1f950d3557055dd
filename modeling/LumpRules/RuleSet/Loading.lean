import LumpRules.RuleSet.Basic

/-!
# Loading rules

The rules of a level are read from a directory: the global rules and those for default entities
from two files with fixed names, the rules of lumps from the files below the directory of the
level.  A file below it is named after its lump; its world is the path of directories that leads
to it, or the level.  `load` replaces all rules at once, and none if any file is faulty or any
directory cannot be opened.
-/

namespace LumpRules

open Text

/-- The name of the file with the global rules. -/
def globalFile : String := "global.jsonc"

/-- The name of the file with the rules for default entities. -/
def globalDefaultFile : String := "global_default.jsonc"

/-- The name of the directory that holds a directory for each level. -/
def mapsDirectory : String := "maps"

/-- The extension of rule files, in any case. -/
def ruleExtension : String := "jsonc"

/-- What is wrong with a rule file. -/
inductive FileFault where
  | unreadable (failure : ReadFailure)
  | document (error : DocumentError)
  deriving DecidableEq, Repr

/-- The wording of a fault. -/
def FileFault.message : FileFault → String
  | .unreadable failure => failure.message
  | .document error => error.message

/-- Why a level cannot be loaded: a faulty rule file, or a directory that cannot be opened. -/
inductive LoadError where
  | file (path : String) (fault : FileFault)
  | directory (path : String) (failure : ReadFailure)
  deriving DecidableEq, Repr

/-- The wording of an error, which names the path of the file or the directory. -/
def LoadError.message : LoadError → String
  | .file path fault => path ++ ": " ++ fault.message
  | .directory path failure => "IO error for operation on " ++ path ++ ": " ++ failure.message

/-- A step of loading: a result or the first error, and the events on the way. -/
abbrev Loading := ExceptT LoadError Logged

variable [PatternReader]

namespace Loading

/-- An event on the way. -/
def event (e : Event) : Loading Unit :=
  ExceptT.lift (Logged.event e)

/-- The rules in the file of a path. -/
def ruleFile (tree : FileTree) (path : String) : Loading RuleFile :=
  match tree.readText path with
  | .error failure => throw (.file path (.unreadable failure))
  | .ok text => do
    let file ← (RuleFile.ofDocument text).adapt fun error => .file path (.document error)
    event (.ruleFileCompiled path file.rules.length)
    return file

/-- The rules in the file of a path, if there is one. -/
def optionalFile (tree : FileTree) (path : String) : Loading (Option RuleFile) :=
  if tree.isFile path then do
    return some (← ruleFile tree path)
  else
    return none

/-- Whether a file name is that of a rule file. -/
def isRuleFile (name : String) : Bool :=
  (Path.stemAndExtension name).2.any (sameName · ruleExtension)

/-- The world of a file below the directory of a level. -/
def worldOf (level : String) (file : FileTree.Found) : String :=
  if file.directories.isEmpty then level else "/".intercalate file.directories

/-- The scopes with the rules of one more file below the directory of a level. -/
def addLumpFile (tree : FileTree) (level directory : String) (scopes : Scopes)
    (file : FileTree.Found) : Loading Scopes := do
  let world := worldOf level file
  let lump := (Path.stemAndExtension file.name).1
  let path := Path.join (file.directories.foldl Path.join directory) file.name
  let rules ← ruleFile tree path
  let (scopes, displaced) := scopes.insertLump world lump rules
  if displaced.isSome then
    event (.ruleFileReplaced world lump path)
  return scopes

/-- The scopes after one more step of the walk below the directory of a level.  Files that are no
rule files are passed over. -/
def addMet (tree : FileTree) (level directory : String) (scopes : Scopes) :
    FileTree.Met → Loading Scopes
  | .closed directories failure =>
    throw (.directory (directories.foldl Path.join directory) failure)
  | .file file =>
    if isRuleFile file.name then addLumpFile tree level directory scopes file else return scopes

/-- The rules for a level below a root directory. -/
def scopes (tree : FileTree) (root level : String) : Loading Scopes := do
  let global ← optionalFile tree (Path.join root globalFile)
  let globalDefault ← optionalFile tree (Path.join root globalDefaultFile)
  let directory := Path.join (Path.join root mapsDirectory) level
  if tree.isDirectory directory then
    (tree.metBelow directory).foldlM (addMet tree level directory) { global, globalDefault }
  else
    event (.levelWithoutRules directory)
    return { global, globalDefault }

end Loading

namespace RuleSet

/-- The rule set after the rules of a level were to take the place of all its rules, and whether
they did. -/
def load (set : RuleSet) (tree : FileTree) (level : String) :
    Logged (RuleSet × Except LoadError Unit) := do
  match ← (Loading.scopes tree set.root level).run with
  | .error error => return (set, .error error)
  | .ok scopes =>
    Logged.event (.rulesLoaded level scopes.global.isSome scopes.globalDefault.isSome
      scopes.lumps.length)
    return ({ set with scopes }, .ok ())

end RuleSet

end LumpRules
