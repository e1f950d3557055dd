import LumpRules.Entries

/-!
# A tree of files

A `FileTree` is a file with its bytes or a directory of named trees, and either may be one that
cannot be opened.  A path is a text with slashes; `resolve` finds what a path leads to and
`readText` the text of a file.  The names of a directory are in ascending order wherever a tree is
walked, and a directory that cannot be opened is met in its place on the walk.
-/

namespace LumpRules

/-- Why a file or a directory cannot be read. -/
inductive ReadFailure where
  | notFound
  | denied
  | notADirectory
  | isADirectory
  | invalidText
  deriving DecidableEq, Repr

/-- A file with its content, or a directory with its entries. -/
inductive FileTree where
  | file (content : Except ReadFailure ByteArray)
  | directory (entries : List (String × FileTree))
  /-- A directory that cannot be opened, nor anything below it. -/
  | closed (failure : ReadFailure)

instance : Inhabited FileTree := ⟨.directory []⟩

/-- The wording of a failure. -/
def ReadFailure.message : ReadFailure → String
  | .notFound => "No such file or directory (os error 2)"
  | .denied => "Permission denied (os error 13)"
  | .notADirectory => "Not a directory (os error 20)"
  | .isADirectory => "Is a directory (os error 21)"
  | .invalidText => "stream did not contain valid UTF-8"

/-! ### Paths -/

namespace Path

/-- A path followed by another; an absolute path stands for itself. -/
def join (path more : String) : String :=
  if more.startsWith "/" || path.isEmpty then more
  else if path.endsWith "/" then path ++ more
  else path ++ "/" ++ more

/-- The stem and the extension of a file name.  The extension follows the last dot, unless that
is the first character. -/
def stemAndExtension (name : String) : String × Option String :=
  let (extension, before) := name.toList.reverse.span (· != '.')
  match before with
  | [] => (name, none)
  | [_] => (name, none)
  | _ :: stem =>
    if name == ".." then (name, none)
    else (String.ofList stem.reverse, some (String.ofList extension.reverse))

end Path

namespace FileTree

/-- The tree that the steps of a path lead to, from a tree whose ancestors are given, nearest
first.  An empty step and a dot stay where they are, but only in a directory.  A closed directory
can be named, also with a slash at the end, and that is all. -/
def walk (ancestors : List FileTree) (tree : FileTree) :
    List String → Except ReadFailure FileTree
  | [] => .ok tree
  | step :: steps =>
    match tree with
    | .file _ => .error .notADirectory
    | .closed failure => if step = "" then walk ancestors tree steps else .error failure
    | .directory entries =>
      if step = "" || step = "." then walk ancestors tree steps
      else if step = ".." then
        match ancestors with
        | [] => walk [] tree steps
        | parent :: ancestors => walk ancestors parent steps
      else
        match Entries.get? id step entries with
        | none => .error .notFound
        | some child => walk (tree :: ancestors) child steps

/-- The tree that a path leads to. -/
def resolve (tree : FileTree) (path : String) : Except ReadFailure FileTree :=
  walk [] tree (path.splitOn "/")

/-- Whether a path leads to a file. -/
def isFile (tree : FileTree) (path : String) : Bool :=
  match tree.resolve path with
  | .ok (.file _) => true
  | _ => false

/-- Whether a path leads to a directory. -/
def isDirectory (tree : FileTree) (path : String) : Bool :=
  match tree.resolve path with
  | .ok (.directory _) | .ok (.closed _) => true
  | _ => false

/-- The text of the file that a path leads to. -/
def readText (tree : FileTree) (path : String) : Except ReadFailure String :=
  match tree.resolve path with
  | .error failure => .error failure
  | .ok (.directory _) => .error .isADirectory
  | .ok (.closed failure) => .error failure
  | .ok (.file (.error failure)) => .error failure
  | .ok (.file (.ok content)) =>
    match String.fromUTF8? content with
    | some text => .ok text
    | none => .error .invalidText

/-- The entries in ascending order of their names. -/
def sortEntries (entries : List (String × FileTree)) : List (String × FileTree) :=
  entries.mergeSort fun a b => a.1 ≤ b.1

/-- A file found on a walk. -/
structure Found where
  /-- The names of the directories that lead to the file, from where the walk began. -/
  directories : List String
  /-- The name of the file. -/
  name : String
  deriving DecidableEq, Repr

/-- What is met on a walk: a file, or a directory that cannot be opened. -/
inductive Met where
  | file (found : Found)
  | closed (directories : List String) (failure : ReadFailure)
  deriving DecidableEq, Repr

mutual

/-- The tree with the entries of every directory in ascending order of their names. -/
def sorted : FileTree → FileTree
  | .file content => .file content
  | .directory entries => .directory (sortEntries (sortedEntries entries))
  | .closed failure => .closed failure

/-- The entries with every tree sorted. -/
def sortedEntries : List (String × FileTree) → List (String × FileTree)
  | [] => []
  | (name, tree) :: rest => (name, tree.sorted) :: sortedEntries rest

end

mutual

/-- What is met below a directory, depth first, in the order of the entries. -/
def met (directories : List String) : FileTree → List Met
  | .file _ => []
  | .directory entries => metAmong directories entries
  | .closed failure => [.closed directories failure]

/-- What is met among some entries of a directory and below them. -/
def metAmong (directories : List String) : List (String × FileTree) → List Met
  | [] => []
  | (name, .file _) :: rest => .file ⟨directories, name⟩ :: metAmong directories rest
  | (name, .directory entries) :: rest =>
    metAmong (directories ++ [name]) entries ++ metAmong directories rest
  | (name, .closed failure) :: rest =>
    .closed (directories ++ [name]) failure :: metAmong directories rest

end

/-- What is met below the directory that a path leads to. -/
def metBelow (tree : FileTree) (path : String) : List Met :=
  match tree.resolve path with
  | .ok reached => reached.sorted.met []
  | .error _ => []

/-! ### Changing a tree -/

/-- The entries of a directory; a file has none, and nothing is seen of those of a closed one. -/
def entries : FileTree → List (String × FileTree)
  | .directory entries => entries
  | _ => []

/-- The tree with what the steps of a path lead to changed; missing directories are made. -/
def change (f : Option FileTree → FileTree) : List String → Option FileTree → FileTree
  | [], tree => f tree
  | step :: steps, tree =>
    .directory (Entries.alter id step (change f steps) ((tree.map entries).getD []))

/-- The steps of a path. -/
def steps (path : String) : List String :=
  (path.splitOn "/").filter (!·.isEmpty)

/-- The tree with a file written. -/
def write (tree : FileTree) (path : String) (content : ByteArray) : FileTree :=
  change (fun _ => .file (.ok content)) (steps path) (some tree)

/-- The tree with a directory made, if it is not there. -/
def makeDirectory (tree : FileTree) (path : String) : FileTree :=
  change (·.getD (.directory [])) (steps path) (some tree)

/-- The tree without what the steps of a path lead to. -/
def eraseAt : List String → FileTree → FileTree
  | [], tree => tree
  | _, .file content => .file content
  | _, .closed failure => .closed failure
  | [name], .directory entries => .directory (entries.filter fun entry => entry.1 != name)
  | step :: steps, .directory entries =>
    .directory (entries.map fun (name, tree) =>
      (name, if name = step then eraseAt steps tree else tree))

/-- The tree without the file of a path. -/
def erase (tree : FileTree) (path : String) : FileTree :=
  eraseAt (steps path) tree

end FileTree

end LumpRules
