import SqlSchema.Association
import SqlSchema.Setting.Value

/-!
Sections of a settings file while it is read. A section remembers how it came to be, because a
section that a header has opened cannot be opened again, and one that dotted keys have made can only
be extended by dotted keys.
-/

namespace SqlSchema

/-- How a section has come to be. -/
inductive SectionOrigin where
  /-- By its own header, or as the root. -/
  | header
  /-- As the parent of a header. -/
  | parent
  /-- By a dotted key. -/
  | dotted
  deriving DecidableEq, Repr

/-- What a key stands for while a file is read. -/
inductive SectionNode where
  | leaf (value : Setting)
  | single (origin : SectionOrigin) (entries : List (String × SectionNode))
  /-- Sections with the same header, the first one first. -/
  | repeated (sections : List (List (String × SectionNode)))

namespace SectionNode

open Association (put)

/-- A section by itself. -/
abbrev Entries := List (String × SectionNode)

/-! ## Changing sections -/

/-- The entries with a section below them changed. Keys that are missing on the way become sections
of the given origin; a dotted key goes through no section that a header has opened. -/
def change (origin : SectionOrigin) (path : List String)
    (act : SectionOrigin → Entries → Option Entries) (own : SectionOrigin) (entries : Entries) :
    Option Entries :=
  match path with
  | [] => act own entries
  | key :: rest =>
    match entries.lookup key with
    | none =>
      (change origin rest act origin []).map fun inner => put key (single origin inner) entries
    | some (leaf _) => none
    | some (single known inner) =>
      if origin = .dotted && known = .header then none
      else
        (change origin rest act known inner).map fun inner => put key (single known inner) entries
    | some (repeated sections) =>
      match sections.getLast? with
      | none => none
      | some last =>
        (change origin rest act .header last).map fun last =>
          put key (repeated (sections.dropLast ++ [last])) entries

/-- Adds a value under a dotted key to the section at `home`, which a header has opened. -/
def assign (home path : List String) (key : String) (setting : Setting) (root : Entries) :
    Option Entries :=
  change .parent home (fun own entries =>
    change .dotted path (fun own entries =>
      if (own = .dotted) != !path.isEmpty then none
      else
        match entries.lookup key with
        | some _ => none
        | none => some (put key (leaf setting) entries)) own entries) .header root

/-- Opens a section by its header. -/
def openSingle (home : List String) (key : String) (root : Entries) : Option Entries :=
  change .parent home (fun _ entries =>
    match entries.lookup key with
    | none => some (put key (single .header []) entries)
    | some (single .parent inner) => some (put key (single .header inner) entries)
    | some _ => none) .header root

/-- Opens one more section of a repeated header. -/
def openRepeated (home : List String) (key : String) (root : Entries) : Option Entries :=
  change .parent home (fun _ entries =>
    match entries.lookup key with
    | none => some (put key (repeated [[]]) entries)
    | some (repeated sections) => some (put key (repeated (sections ++ [[]])) entries)
    | some _ => none) .header root

/-! ## Finished sections -/

mutual

/-- The value that a finished node stands for. -/
def finish : SectionNode → Setting
  | leaf value => value
  | single _ entries => .table (finishEntries entries)
  | repeated sections => .list (finishSections sections)

def finishEntries : List (String × SectionNode) → List (String × Setting)
  | [] => []
  | (key, node) :: rest => (key, finish node) :: finishEntries rest

def finishSections : List (List (String × SectionNode)) → List Setting
  | [] => []
  | entries :: rest => .table (finishEntries entries) :: finishSections rest

end

end SectionNode

end SqlSchema
