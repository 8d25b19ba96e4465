import SqlSchema.CommandLine.Program

/-!
The command line. The program works on a file tree; here the tree learns what is on the disk at the
paths that matter, and what the program has changed in it is written to the disk.
-/

namespace SqlSchema.Main

/-- What is on the disk at a path. The entries of a directory are not read. -/
def probe (path : String) : IO (Option FileTree) := do
  try
    return some (.file (← IO.FS.readBinFile path))
  catch
    | .inappropriateType none _ _ => return some .empty
    | .permissionDenied .. => return some (.locked false)
    | _ => return none

/-- The tree with what is on the disk at one path, if the tree does not know it yet. -/
def learn (tree : FileTree) (path : String) : IO FileTree := do
  match tree.find path, tree.locate path with
  | .error .notFound, .ok location =>
    match ← probe path with
    | some node => return tree.set location node
    | none => return tree
  | _, _ => return tree

/-- The tree with what is on the disk at paths and above them. -/
def learnAll (tree : FileTree) (paths : List String) : IO FileTree :=
  (paths.flatMap fun path => (FileTree.ancestors path.length path).reverse).foldlM learn tree

/-- The path of a location. -/
def pathOf : List String → String
  | [] => "."
  | name :: rest =>
    if name = FileTree.rootName then name ++ "/".intercalate rest
    else "/".intercalate (name :: rest)

/-- The files that differ between two trees, with their paths. -/
def changes (before after : FileTree) : List (String × ByteArray) :=
  let known := before.files []
  ((after.files []).filter fun file => !known.contains file).map fun (location, contents) =>
    (pathOf location, contents)

/-- Writes a file and the directories above it to the disk. -/
def store (path : String) (contents : ByteArray) : IO Unit := do
  if let some parent := Path.parent? path then
    if !parent.isEmpty then IO.FS.createDirAll parent
  IO.FS.writeBinFile path contents

/-- The paths that a run reads from. -/
def inputPaths (invocation : CommandLine.Invocation) : List String :=
  let config := invocation.config.getD ReadingOptions.defaultPath
  let withExtension := Path.addExtension? config ReadingOptions.fileExtension
  invocation.files ++ config :: withExtension.toList ++ invocation.settings.toList

/-- The variables of the environment that set options. -/
def environment : IO (List EnvironmentVariable) := do
  ReadingOptions.variableNames.filterMapM fun name => do
    return (← IO.getEnv name).map fun value => (name, value)

def levelName : LogLevel → String
  | .error => "ERROR"
  | .warn => "WARN"
  | .info => "INFO"
  | .debug => "DEBUG"

/-- Runs the program on the disk. It runs on a tree that knows the inputs, and again on one that
also knows what is where it would write. Scripts have to be named one by one, because directories
are not listed. -/
def runOnDisk (arguments : List String) (invocation : CommandLine.Invocation) :
    IO CommandLine.ProgramResult := do
  let environment ← environment
  let base := FileTree.directory [(FileTree.rootName, .empty)]
  let inputs ← learnAll base (inputPaths invocation)
  for path in invocation.files do
    if inputs.isDirectory path then
      throw (IO.userError ("cannot list the directory " ++ path))
  let draft := CommandLine.execute arguments .missing inputs environment
  let known ← learnAll inputs ((changes inputs draft.files).map Prod.fst)
  let result := CommandLine.execute arguments .missing known environment
  for (path, contents) in changes known result.files do
    store path contents
  return result

/-- Shows what a run says. -/
def report (result : CommandLine.ProgramResult) : IO UInt32 := do
  for entry in result.log do
    IO.eprintln ("[" ++ levelName entry.level ++ "] " ++ entry.message)
  IO.print result.output
  IO.eprint result.errorOutput
  return result.exitCode

end SqlSchema.Main

open SqlSchema in
def main (arguments : List String) : IO UInt32 := do
  match CommandLine.readArguments arguments with
  | .ok (.run invocation) => Main.report (← Main.runOnDisk arguments invocation)
  | _ => Main.report (CommandLine.execute arguments .missing .empty [])
