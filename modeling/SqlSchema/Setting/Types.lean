import SqlSchema.Entity.TypeMap
import SqlSchema.File.Access
import SqlSchema.Setting.Toml

/-!
The type map from a settings file: its section `type_map` names Rust types for SQL types, which are
added to the built-in map in the order of the SQL types.
-/

namespace SqlSchema

/-- Why a settings file yields no entries for the type map. -/
inductive SettingsError where
  | unreadable (path : String) (cause : FileError)
  | invalid (path : String)
  deriving DecidableEq, Repr

def SettingsError.message : SettingsError → String
  | unreadable path cause => "failed to read settings " ++ path ++ ": " ++ cause.message
  | invalid path => "invalid settings " ++ path

namespace TypeMap

/-- The texts of a section in which every value is a text. -/
def texts? : List (String × Setting) → Option (List (String × String))
  | [] => some []
  | (key, .text text) :: rest => (texts? rest).map ((key, text) :: ·)
  | _ => none

/-- The pairs in the order of their keys. -/
def ordered (pairs : List (String × String)) : List (String × String) :=
  pairs.mergeSort fun left right => !decide (right.1 < left.1)

/-- The key under which a date counts as a section. -/
def momentKey : String := "$__toml_private_datetime"

/-- The pairs of the section `type_map`, if they are well formed. A date counts as a section with
one entry. -/
def pairs? (entries : List (String × Setting)) : Option (List (String × String)) :=
  match entries.lookup "type_map" with
  | none => some []
  | some (.table fields) => (texts? fields).map ordered
  | some (.moment written) => some [(momentKey, written)]
  | some _ => none

/-- The pairs for the type map in a settings file. -/
def loadPairs (files : FileTree) (path : String) :
    Except SettingsError (List (String × String)) :=
  match files.readText path with
  | .error cause => .error (.unreadable path cause)
  | .ok text =>
    match (Toml.read? text).bind pairs? with
    | some pairs => .ok pairs
    | none => .error (.invalid path)

/-- The pairs in a settings file that may not be named at all. -/
def loadPairs? (files : FileTree) : Option String → Except SettingsError (List (String × String))
  | none => .ok []
  | some path => loadPairs files path

end TypeMap

end SqlSchema
