import SqlSchema.File.Script

/-!
Layouts. The layout of a file tree is the tree without what stands in its files. It alone decides
where paths lead and which scripts a search finds, so a file can be rewritten without any effect on
the search.
-/

namespace SqlSchema.FileTree

mutual

/-- The tree with all files empty. -/
def layout : FileTree → FileTree
  | file _ => file .empty
  | directory entries => directory (entryLayouts entries)
  | locked isDirectory => locked isDirectory

/-- The entries of a directory with all files empty. -/
def entryLayouts : List (String × FileTree) → List (String × FileTree)
  | [] => []
  | (name, node) :: rest => (name, layout node) :: entryLayouts rest

end

@[simp] theorem layout_file (contents : ByteArray) : (file contents).layout = file .empty := by
  rfl

@[simp] theorem layout_directory (entries : List (String × FileTree)) :
    (directory entries).layout = directory (entryLayouts entries) := by
  rfl

@[simp] theorem layout_locked (isDirectory : Bool) :
    (locked isDirectory).layout = locked isDirectory := by
  rfl

theorem isDirectoryNode_layout (tree : FileTree) :
    tree.layout.isDirectoryNode = tree.isDirectoryNode := by
  cases tree <;> simp [isDirectoryNode]

theorem entries_layout (tree : FileTree) : tree.layout.entries = entryLayouts tree.entries := by
  cases tree <;> simp [entries, entryLayouts]

theorem lookup_entryLayouts (name : String) (entries : List (String × FileTree)) :
    (entryLayouts entries).lookup name = (entries.lookup name).map layout := by
  induction entries with
  | nil => simp [entryLayouts]
  | cons entry rest induction =>
    obtain ⟨known, node⟩ := entry
    rw [entryLayouts, List.lookup_cons, List.lookup_cons, induction]
    cases name == known <;> rfl

theorem at?_layout (tree : FileTree) (location : List String) :
    tree.layout.at? location = (tree.at? location).map layout := by
  induction location generalizing tree with
  | nil => rfl
  | cons name rest induction =>
    rw [at?, at?, entries_layout, lookup_entryLayouts]
    cases tree.entries.lookup name with
    | none => rfl
    | some node => exact induction node

/-! ## Nodes on their own -/

/-- The node without the entries of a directory. -/
def withoutEntries : FileTree → FileTree
  | directory _ => empty
  | file contents => file contents
  | locked isDirectory => locked isDirectory

theorem isDirectoryNode_withoutEntries (tree : FileTree) :
    tree.withoutEntries.isDirectoryNode = tree.isDirectoryNode := by
  cases tree <;> rfl

/-! ## Following paths -/

theorem follow_layout (tree : FileTree) (location : List String) (segments : List (List Char)) :
    tree.layout.follow location segments = tree.follow location segments := by
  induction segments generalizing location with
  | nil => simp only [follow]
  | cons segment rest induction =>
    rw [follow, follow, at?_layout]
    cases tree.at? location with
    | none => rfl
    | some node =>
      cases node with
      | file contents => simp
      | locked isDirectory => cases isDirectory <;> simp
      | directory entries => simp [induction]

theorem locate_layout (tree : FileTree) (path : String) :
    tree.layout.locate path = tree.locate path := by
  rw [locate, locate, follow_layout]

theorem find_layout (tree : FileTree) (path : String) :
    tree.layout.find path = (tree.find path).map layout := by
  rw [find, find, locate_layout]
  cases tree.locate path with
  | error error => rfl
  | ok location =>
    dsimp only
    rw [at?_layout]
    cases tree.at? location <;> rfl

theorem isDirectory_layout (tree : FileTree) (path : String) :
    tree.layout.isDirectory path = tree.isDirectory path := by
  rw [isDirectory, isDirectory, find_layout]
  cases tree.find path with
  | error error => rfl
  | ok node => exact isDirectoryNode_layout node

theorem isFile_layout (tree : FileTree) (path : String) :
    tree.layout.isFile path = tree.isFile path := by
  rw [isFile, isFile, find_layout]
  cases tree.find path with
  | error error => rfl
  | ok node => exact congrArg (!·) (isDirectoryNode_layout node)

/-! ## Searching -/

mutual

theorem scriptsAt_layout (path : String) (tree : FileTree) :
    scriptsAt path tree.layout = scriptsAt path tree := by
  cases tree with
  | file contents => simp [scriptsAt]
  | locked isDirectory => simp
  | directory entries => rw [layout_directory, scriptsAt, scriptsAt, scriptsAmong_entryLayouts]

theorem scriptsAmong_entryLayouts (path : String) (entries : List (String × FileTree)) :
    scriptsAmong path (entryLayouts entries) = scriptsAmong path entries := by
  cases entries with
  | nil => simp [entryLayouts]
  | cons entry rest =>
    obtain ⟨name, node⟩ := entry
    rw [entryLayouts, scriptsAmong, scriptsAmong, isDirectoryNode_layout, scriptsAt_layout,
      scriptsAmong_entryLayouts]

end

theorem search_layout (tree : FileTree) (path : String) :
    tree.layout.search path = tree.search path := by
  rw [search, search, list, list, find_layout]
  cases tree.find path with
  | error error => rfl
  | ok node =>
    cases node with
    | file contents => simp [Except.map]
    | locked isDirectory => cases isDirectory <;> simp [Except.map]
    | directory entries =>
      simp only [Except.map, layout_directory]
      rw [scriptsAmong_entryLayouts]

/-! ## Rewriting a file -/

theorem entryLayouts_put {name : String} {node other : FileTree}
    {entries : List (String × FileTree)} (found : entries.lookup name = some node)
    (same : other.layout = node.layout) :
    entryLayouts (Association.put name other entries) = entryLayouts entries := by
  induction entries with
  | nil => cases found
  | cons entry rest induction =>
    obtain ⟨known, old⟩ := entry
    by_cases isHere : known = name
    · subst isHere
      obtain rfl : old = node := by simpa using found
      simp [Association.put, entryLayouts, same]
    · have elsewhere : (name == known) = false := by simpa using Ne.symm isHere
      rw [List.lookup_cons, elsewhere] at found
      simp [Association.put, isHere, entryLayouts, induction found]

variable {before after : ByteArray}

/-- A tree with something below it is a directory. -/
theorem exists_child {tree node : FileTree} {name : String} {rest : List String}
    (found : tree.at? (name :: rest) = some node) :
    ∃ entries child, tree = directory entries ∧ entries.lookup name = some child ∧
      child.at? rest = some node := by
  obtain ⟨child, isChild, below⟩ := Option.bind_eq_some_iff.mp found
  cases tree with
  | directory entries => exact ⟨entries, child, rfl, isChild, below⟩
  | file contents => cases isChild
  | locked isDirectory => cases isDirectory <;> cases isChild

/-- The layout stays when a file is rewritten. -/
theorem layout_set_file {tree : FileTree} {location : List String}
    (found : tree.at? location = some (file before)) :
    (tree.set location (file after)).layout = tree.layout := by
  induction location generalizing tree with
  | nil =>
    obtain rfl : tree = file before := Option.some.inj found
    simp [set]
  | cons name rest induction =>
    obtain ⟨entries, child, rfl, isChild, below⟩ := exists_child found
    simp only [set, isChild, Option.getD_some, layout_directory]
    rw [entryLayouts_put isChild (induction below)]

/-- A file stays as it is when another is rewritten. -/
theorem at?_set_file_of_ne {tree : FileTree} {location other : List String}
    {contents : ByteArray} (different : other ≠ location)
    (found : tree.at? location = some (file before))
    (unchanged : tree.at? other = some (file contents)) :
    (tree.set location (file after)).at? other = some (file contents) := by
  induction location generalizing tree other with
  | nil =>
    obtain rfl : tree = file before := Option.some.inj found
    cases other with
    | nil => exact absurd rfl different
    | cons name rest => cases unchanged
  | cons name rest induction =>
    obtain ⟨entries, child, rfl, isChild, below⟩ := exists_child found
    cases other with
    | nil => cases unchanged
    | cons otherName otherRest =>
      simp only [set, isChild, Option.getD_some, at?, FileTree.entries] at unchanged ⊢
      by_cases same : otherName = name
      · subst same
        have different : otherRest ≠ rest := fun same => different (congrArg _ same)
        rw [isChild] at unchanged
        rw [Association.lookup_put_self]
        exact induction different below unchanged
      · rwa [Association.lookup_put_of_ne same]

section

variable {tree : FileTree} {location : List String}
  (found : tree.at? location = some (file before)) (path : String)
include found

theorem locate_set_file : (tree.set location (file after)).locate path = tree.locate path := by
  rw [← locate_layout, layout_set_file found, locate_layout]

/-- A path to another place reads as before when a file is rewritten. -/
theorem readBytes_set_file (elsewhere : tree.locate path ≠ .ok location) :
    (tree.set location (file after)).readBytes path = tree.readBytes path := by
  rw [readBytes, readBytes, find, find, locate_set_file found]
  cases place : tree.locate path with
  | error error => rfl
  | ok other =>
    dsimp only
    have different : other ≠ location := fun same => elsewhere (same ▸ place)
    have sameLayout :
        ((tree.set location (file after)).at? other).map layout = (tree.at? other).map layout := by
      rw [← at?_layout, layout_set_file found, at?_layout]
    cases was : tree.at? other with
    | none =>
      rw [was] at sameLayout
      rw [Option.map_eq_none_iff.mp sameLayout]
    | some node =>
      rw [was] at sameLayout
      obtain ⟨now, isNow, same⟩ := Option.map_eq_some_iff.mp sameLayout
      rw [isNow]
      cases node with
      | file contents =>
        obtain rfl := Option.some.inj (isNow.symm.trans (at?_set_file_of_ne different found was))
        rfl
      | locked isDirectory => cases now <;> simp_all
      | directory entries => cases now <;> simp_all

end

end SqlSchema.FileTree
