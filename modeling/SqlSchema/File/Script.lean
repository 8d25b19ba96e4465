import SqlSchema.File.Access
import SqlSchema.Text.Case

/-!
Finding scripts: the files below a directory whose extension is `sql`, in any case. Some directories
never hold scripts of their own and are not entered.
-/

namespace SqlSchema

/-- The names of directories that are not entered. -/
def skippedDirectories : List String :=
  ["target", ".git", "node_modules", "bin", "obj"]

/-- Whether a path names a script. -/
def isScriptPath (path : String) : Bool :=
  (Path.extension? path).any (Text.equalIgnoringCase · "sql")

/-- Why a search ends early: the directory that cannot be listed, and the cause. -/
structure SearchError where
  path : String
  cause : FileError
  deriving DecidableEq, Repr

mutual

/-- The scripts at or below a path. One directory that cannot be listed ends the search. -/
def scriptsAt (path : String) : FileTree → Except SearchError (List String)
  | .file _ | .locked false => .ok (if isScriptPath path then [path] else [])
  | .locked true => .error ⟨path, .denied⟩
  | .directory entries => scriptsAmong path entries

/-- The scripts among the entries of the directory `path`. -/
def scriptsAmong (path : String) : List (String × FileTree) → Except SearchError (List String)
  | [] => .ok []
  | (name, node) :: rest => do
    let found ←
      if node.isDirectoryNode && skippedDirectories.contains name then .ok []
      else scriptsAt (Path.join path name) node
    let others ← scriptsAmong path rest
    .ok (found ++ others)

end

/-- The scripts below a directory, in the order of their paths. -/
def FileTree.search (tree : FileTree) (path : String) : Except SearchError (List String) :=
  match tree.list path with
  | .error cause => .error ⟨path, cause⟩
  | .ok entries => (scriptsAmong path entries).map Path.sort

/-- The scripts below a directory, or why they cannot be told. -/
def FileTree.scripts (tree : FileTree) (path : String) : Except FileError (List String) :=
  (tree.search path).mapError SearchError.cause

example :
    let tree := (FileTree.empty.writeOutput "b/z.sql" "").1
    let tree := (tree.writeOutput "bin/x.sql" "").1
    let tree := (tree.writeOutput "b.SQL" "").1
    (scriptsAmong "." tree.entries).toOption = some ["./b/z.sql", "./b.SQL"] := by
  decide +kernel

example :
    scriptsAmong "." [("a.sql", .file .empty), ("b", .directory [("c", .locked true)])] =
      .error ⟨"./b/c", .denied⟩ := by
  rfl

end SqlSchema
