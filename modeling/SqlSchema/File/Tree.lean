import SqlSchema.Association

/-!
File trees as values. A tree holds files and directories below the working directory; an operation
yields the tree that it leaves behind.
-/

namespace SqlSchema

/-- Why a file operation fails. -/
inductive FileError where
  | notFound
  | denied
  | alreadyExists
  | notDirectory
  | isDirectory
  | notText
  deriving DecidableEq, Repr

def FileError.message : FileError → String
  | notFound => "No such file or directory (os error 2)"
  | denied => "Permission denied (os error 13)"
  | alreadyExists => "File exists (os error 17)"
  | notDirectory => "Not a directory (os error 20)"
  | isDirectory => "Is a directory (os error 21)"
  | notText => "stream did not contain valid UTF-8"

/-- A file with its bytes or a directory with its entries. -/
inductive FileTree where
  | file (contents : ByteArray)
  | directory (entries : List (String × FileTree))
  /-- A file or a directory that is there but may not be opened. -/
  | locked (isDirectory : Bool)

namespace FileTree

/-- A directory without entries. -/
def empty : FileTree := directory []

instance : Inhabited FileTree := ⟨empty⟩

def isDirectoryNode : FileTree → Bool
  | directory _ => true
  | file _ => false
  | locked isDirectory => isDirectory

def entries : FileTree → List (String × FileTree)
  | directory entries => entries
  | file _ | locked _ => []

/-! ## Locations

A location is the list of names on the way down from the working directory. -/

/-- What is at a location. -/
def at? : FileTree → List String → Option FileTree
  | tree, [] => some tree
  | tree, name :: rest => (tree.entries.lookup name).bind (at? · rest)

/-- The tree with `node` at a location; what is no open directory is left alone on the way. -/
def set : FileTree → List String → FileTree → FileTree
  | _, [], node => node
  | file contents, _ :: _, _ => file contents
  | locked isDirectory, _ :: _, _ => locked isDirectory
  | directory entries, name :: rest, node =>
    directory <|
      Association.put name (set ((entries.lookup name).getD empty) rest node) entries

example : ((empty.set ["a", "b"] (file "x".toUTF8)).at? ["a"]).map isDirectoryNode = some true :=
  rfl

end FileTree

end SqlSchema
