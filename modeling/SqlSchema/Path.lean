/-!
Paths. A path is a text of segments with `/` between them. Its components are the segments that
mean something: empty segments and `.` do not, except a `.` at the very front and the empty segment
before a `/` at the front, which is the root.
-/

namespace SqlSchema.Path

/-- The segments of a path; a path that begins with `/` has an empty first one. -/
def segments (path : String) : List (List Char) :=
  path.toList.splitOn '/'

/-- The text of segments with `/` between them. -/
def ofSegments (segments : List (List Char)) : String :=
  String.ofList (['/'].intercalate segments)

/-- Whether the path begins at the root. -/
def isAbsolute (path : String) : Bool :=
  path.toList.head? = some '/'

/-- Whether a segment that is not the first is a component. -/
def isComponent (segment : List Char) : Bool :=
  segment != [] && segment != ['.']

/-! ## Components -/

/-- The parts that a path is compared by. -/
inductive Component where
  | root
  | current
  | parent
  | normal (name : String)
  deriving DecidableEq, Repr

/-- The component that a segment stands for. -/
def Component.ofSegment (segment : List Char) : Component :=
  if segment = ['.', '.'] then .parent else .normal (String.ofList segment)

/-- The components of a path. -/
def components (path : String) : List Component :=
  match segments path with
  | [] => []
  | first :: rest =>
    let front :=
      if first = ['.'] then [.current]
      else if first ≠ [] then [Component.ofSegment first]
      else if isAbsolute path then [.root]
      else []
    front ++ (rest.filter isComponent).map Component.ofSegment

example : components "./a//b/." = [.current, .normal "a", .normal "b"] := by decide +kernel

/-- The order of components: root, `.`, `..`, then names by their characters. -/
def Component.compare : Component → Component → Ordering
  | .root, .root => .eq
  | .root, _ => .lt
  | _, .root => .gt
  | .current, .current => .eq
  | .current, _ => .lt
  | _, .current => .gt
  | .parent, .parent => .eq
  | .parent, _ => .lt
  | _, .parent => .gt
  | .normal left, .normal right => compareOfLessAndEq left right

/-- The order of paths: the first different component decides. -/
def compare (left right : String) : Ordering :=
  List.compareLex Component.compare (components left) (components right)

/-- Paths in order; equal paths keep their places. -/
def sort (paths : List String) : List String :=
  paths.mergeSort fun left right => (compare left right).isLE

/-! ## Parts of a path -/

/-- The segments of a path up to its last component, and that component's segment. A first segment
that is empty stays in front. -/
def splitLast? (path : String) : Option (List (List Char) × List Char) :=
  match segments path with
  | [] => none
  | first :: rest =>
    match rest.reverse.dropWhile (!isComponent ·) with
    | last :: before => some (first :: before.reverse, last)
    | [] => if first = [] then none else some ([], first)

/-- The name at the end of a path, unless the path ends in `..`, in a leading `.` or at the root. -/
def fileName? (path : String) : Option String :=
  match splitLast? path with
  | none => none
  | some (_, last) =>
    if last = ['.', '.'] || last = ['.'] then none else some (String.ofList last)

/-- The path without its last component. -/
def parent? (path : String) : Option String :=
  match splitLast? path with
  | none => none
  | some (before, _) =>
    match before with
    | [] => some ""
    | first :: rest =>
      let rest := (rest.reverse.dropWhile (!isComponent ·)).reverse
      if first = [] && rest = [] then some "/" else some (ofSegments (first :: rest))

/-- The parts of a file name before and after its last dot, if there is a dot after the first
character. -/
def splitExtension (name : String) : String × Option String :=
  let chars := name.toList
  let extension := (chars.reverse.takeWhile (· != '.')).reverse
  let stem := ((chars.reverse.dropWhile (· != '.')).drop 1).reverse
  if stem = [] then (name, none) else (String.ofList stem, some (String.ofList extension))

/-- The file name without its extension. -/
def fileStem? (path : String) : Option String :=
  (fileName? path).map fun name => (splitExtension name).1

/-- The extension of the file name. -/
def extension? (path : String) : Option String :=
  (fileName? path).bind fun name => (splitExtension name).2

example : (fileStem? "db/a.tar.gz", extension? "db/a.tar.gz") = (some "a.tar", some "gz") := by
  decide +kernel

example : (fileStem? ".gitignore", extension? ".gitignore") = (some ".gitignore", none) := by
  decide +kernel

/-- The path with another extension; a path without a file name stays as it is. -/
def withExtension (path extension : String) : String :=
  match fileStem? path, splitLast? path with
  | some stem, some (before, _) =>
    ofSegments (before ++ [(stem ++ "." ++ extension).toList])
  | _, _ => path

/-- The path with an extension added to its file name, if it has one. -/
def addExtension? (path extension : String) : Option String :=
  match fileName? path, splitLast? path with
  | some name, some (before, _) =>
    some (ofSegments (before ++ [(name ++ "." ++ extension).toList]))
  | _, _ => none

/-- The path `name` inside the directory `base`. -/
def join (base name : String) : String :=
  if isAbsolute name then name
  else if base.isEmpty || base.toList.getLast? = some '/' then base ++ name
  else base ++ "/" ++ name

example : parent? "a//b/c" = some "a//b" := by decide +kernel

example : (parent? "/a", parent? "a", parent? "") = (some "/", some "", none) := by decide +kernel

example : withExtension "out/x.sql/" "json" = "out/x.json" := by decide +kernel

example : (addExtension? "a/b.c/" "toml", addExtension? "a/.." "toml") =
    (some "a/b.c.toml", none) := by
  decide +kernel

end SqlSchema.Path
