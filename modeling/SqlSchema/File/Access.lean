import SqlSchema.File.Tree
import SqlSchema.Path

/-!
Access to a file tree by paths. A path is followed segment by segment from the working directory;
every segment but the last has to name a directory that exists.
-/

namespace SqlSchema.FileTree

/-! ## Following paths -/

/-- The name under which a tree holds the root of all absolute paths, if it knows it. -/
def rootName : String := "/"

/-- The name under which a tree holds the directory above, if it knows it. -/
def parentName : String := ".."

/-- The location above a location. -/
def above (location : List String) : List String :=
  match location.getLast? with
  | none => [parentName]
  | some name =>
    if name = parentName then location ++ [parentName]
    else if name = rootName then location
    else location.dropLast

/-- The location that segments lead to from a location. The last one need not exist. -/
def follow (tree : FileTree) : List String → List (List Char) → Except FileError (List String)
  | location, [] => .ok location
  | location, segment :: rest =>
    match tree.at? location with
    | none => .error .notFound
    | some (file _) | some (locked false) => .error .notDirectory
    | some (locked true) => .error .denied
    | some (directory _) =>
      if segment = [] || segment = ['.'] then follow tree location rest
      else if segment = ['.', '.'] then follow tree (above location) rest
      else follow tree (location ++ [String.ofList segment]) rest

/-- The location of a path. -/
def locate (tree : FileTree) (path : String) : Except FileError (List String) :=
  if path.isEmpty then .error .notFound
  else follow tree (if Path.isAbsolute path then [rootName] else []) (Path.segments path)

/-- What a path names. -/
def find (tree : FileTree) (path : String) : Except FileError FileTree :=
  match tree.locate path with
  | .error error => .error error
  | .ok location =>
    match tree.at? location with
    | none => .error .notFound
    | some node => .ok node

/-! ## Reading -/

def isDirectory (tree : FileTree) (path : String) : Bool :=
  (tree.find path).toOption.any isDirectoryNode

def isFile (tree : FileTree) (path : String) : Bool :=
  (tree.find path).toOption.any fun node => !isDirectoryNode node

def exists? (tree : FileTree) (path : String) : Bool :=
  (tree.find path).toOption.isSome

/-- The bytes of a file. -/
def readBytes (tree : FileTree) (path : String) : Except FileError ByteArray :=
  match tree.find path with
  | .error error => .error error
  | .ok (directory _) => .error .isDirectory
  | .ok (locked _) => .error .denied
  | .ok (file contents) => .ok contents

/-- The text of a file. -/
def readText (tree : FileTree) (path : String) : Except FileError String := do
  match String.fromUTF8? (← tree.readBytes path) with
  | some text => return text
  | none => throw .notText

/-- The entries of a directory. -/
def list (tree : FileTree) (path : String) : Except FileError (List (String × FileTree)) :=
  match tree.find path with
  | .error error => .error error
  | .ok (directory entries) => .ok entries
  | .ok (locked true) => .error .denied
  | .ok (file _) | .ok (locked false) => .error .notDirectory

/-! ## Writing -/

/-- Creates one directory. -/
def createDirectory (tree : FileTree) (path : String) : Except FileError FileTree :=
  match tree.locate path with
  | .error error => .error error
  | .ok location =>
    match tree.at? location with
    | none => .ok (tree.set location empty)
    | some _ => .error .alreadyExists

/-- Creates directories from the outermost to the innermost, leaving those that exist. The tree is
the one that is left even if an error ends it. -/
def createEach (tree : FileTree) : List String → FileTree × Option FileError
  | [] => (tree, none)
  | path :: rest =>
    match tree.createDirectory path with
    | .ok tree => createEach tree rest
    | .error error =>
      if error = .alreadyExists && tree.isDirectory path then createEach tree rest
      else (tree, some error)

/-- A path and its parents from the innermost to the outermost, `count` of them at most. The working
directory itself is left out. -/
def ancestors : Nat → String → List String
  | 0, _ => []
  | count + 1, path =>
    match Path.parent? path with
    | none => []
    | some parent => if path.isEmpty then [] else path :: ancestors count parent

/-- The ancestors that have to be created: those up to the first that exists or whose own parent
does. A file in the way is an error. -/
def missingAncestors (tree : FileTree) : List String → Except FileError (List String)
  | [] => .ok []
  | path :: rest =>
    match tree.createDirectory path with
    | .ok _ => .ok [path]
    | .error .notFound => (missingAncestors tree rest).map (path :: ·)
    | .error error =>
      if error = .alreadyExists && tree.isDirectory path then .ok [] else .error error

/-- Creates a directory and its parents as far as they are missing. -/
def createDirectories (tree : FileTree) (path : String) : FileTree × Option FileError :=
  match tree.missingAncestors (ancestors path.length path) with
  | .error error => (tree, some error)
  | .ok paths => tree.createEach paths.reverse

/-- Writes a file into a directory that exists. A path that ends in `/` can only be a directory. -/
def write (tree : FileTree) (path : String) (contents : ByteArray) : Except FileError FileTree :=
  if path.toList.getLast? = some '/' then .error .isDirectory
  else
    match tree.locate path with
    | .error error => .error error
    | .ok location =>
      match tree.at? location with
      | some (directory _) | some (locked true) => .error .isDirectory
      | some (locked false) => .error .denied
      | _ => .ok (tree.set location (file contents))

/-- Writes a text file and creates the directories above it. -/
def writeOutput (tree : FileTree) (path text : String) : FileTree × Option FileError :=
  let (tree, failure) :=
    match Path.parent? path with
    | none => (tree, none)
    | some parent => if parent.isEmpty then (tree, none) else tree.createDirectories parent
  match failure with
  | some error => (tree, some error)
  | none =>
    match tree.write path text.toUTF8 with
    | .ok tree => (tree, none)
    | .error error => (tree, some error)

/-! ## Listing -/

mutual

/-- The files below a directory that may be opened, each with its location. -/
def files (location : List String) : FileTree → List (List String × ByteArray)
  | file contents => [(location, contents)]
  | directory entries => entryFiles location entries
  | locked _ => []

def entryFiles (location : List String) :
    List (String × FileTree) → List (List String × ByteArray)
  | [] => []
  | (name, node) :: rest => files (location ++ [name]) node ++ entryFiles location rest

end

example : ((empty.writeOutput "a//b/../c.txt" "x").1.files []).map Prod.fst =
    [["a", "c.txt"]] := by
  decide +kernel

example : ((empty.writeOutput "a" "x").1.writeOutput "a/b" "y").2 = some .alreadyExists := by
  decide +kernel

example : ((empty.writeOutput "a" "x").1.writeOutput "a/b/c" "y").2 = some .notDirectory := by
  decide +kernel

end SqlSchema.FileTree
