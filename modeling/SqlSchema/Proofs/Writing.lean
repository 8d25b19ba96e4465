import SqlSchema.Proofs.Layout

/-!
Writing files. A file that is written can be read at its path, and every other file stays as it is.
A write that fails may leave new directories behind, but no file is changed.
-/

namespace SqlSchema.FileTree

/-! ## Setting a node -/

theorem at?_of_entries_eq_nil {tree : FileTree} (noEntries : tree.entries = []) (name : String)
    (rest : List String) : tree.at? (name :: rest) = none := by
  rw [at?, noEntries]
  rfl

section

variable {tree node : FileTree} {front : List String} {entries : List (String × FileTree)}
  (parent : tree.at? front = some (directory entries)) (name : String)
include parent

/-- In a directory a node can be set. -/
theorem at?_set_self : (tree.set (front ++ [name]) node).at? (front ++ [name]) = some node := by
  induction front generalizing tree with
  | nil =>
    cases parent
    simp [set, at?, FileTree.entries, Association.lookup_put_self]
  | cons first front induction =>
    obtain ⟨others, child, rfl, isChild, below⟩ := exists_child parent
    simp only [List.cons_append, set, isChild, Option.getD_some, at?, FileTree.entries,
      Association.lookup_put_self, Option.bind_some]
    exact induction below

/-- Setting a node without entries, in a place that had none, changes nothing else. -/
theorem at?_set_of_ne (noEntries : node.entries = [])
    (free : ∀ old ∈ tree.at? (front ++ [name]), old.entries = []) {other : List String}
    (different : other ≠ front ++ [name]) :
    ((tree.set (front ++ [name]) node).at? other).map withoutEntries =
      (tree.at? other).map withoutEntries := by
  induction front generalizing tree other with
  | nil =>
    cases parent
    cases other with
    | nil => rfl
    | cons first rest =>
      simp only [List.nil_append, set, at?, FileTree.entries]
      by_cases same : first = name
      · subst same
        cases rest with
        | nil => exact absurd rfl different
        | cons next rest =>
          rw [Association.lookup_put_self, Option.bind_some, at?_of_entries_eq_nil noEntries]
          cases isOld : entries.lookup first with
          | none => rfl
          | some old =>
            have oldFree : old.entries = [] := free old (by simp [at?, FileTree.entries, isOld])
            rw [Option.bind_some, at?_of_entries_eq_nil oldFree]
      · rw [Association.lookup_put_of_ne same]
  | cons head front induction =>
    obtain ⟨others, child, rfl, isChild, below⟩ := exists_child parent
    cases other with
    | nil => rfl
    | cons first rest =>
      simp only [List.cons_append, set, isChild, Option.getD_some, at?, FileTree.entries] at free ⊢
      by_cases same : first = head
      · subst same
        rw [Association.lookup_put_self, isChild, Option.bind_some, Option.bind_some]
        exact induction below free fun same => different (congrArg (first :: ·) same)
      · rw [Association.lookup_put_of_ne same]

end

/-! ## Where paths lead -/

theorem at?_append (tree : FileTree) (front back : List String) :
    tree.at? (front ++ back) = (tree.at? front).bind (·.at? back) := by
  induction front generalizing tree with
  | nil => rfl
  | cons name front induction =>
    rw [List.cons_append, at?, at?, Option.bind_assoc]
    exact congrArg _ (funext induction)

/-- Above what is there stands a directory. -/
theorem exists_parent {tree node : FileTree} {front : List String} {name : String}
    (found : tree.at? (front ++ [name]) = some node) :
    ∃ entries, tree.at? front = some (directory entries) := by
  rw [at?_append] at found
  obtain ⟨parent, isParent, below⟩ := Option.bind_eq_some_iff.mp found
  obtain ⟨entries, _, rfl, -⟩ := exists_child below
  exact ⟨entries, isParent⟩

/-- Whether a location is that of a directory, or of something that a directory has or can have. -/
def IsWithin (tree : FileTree) (location : List String) : Prop :=
  ∃ front entries, tree.at? front = some (directory entries) ∧
    (location = front ∨ ∃ name, location = front ++ [name])

theorem isWithin_above {tree : FileTree} {location : List String}
    {entries : List (String × FileTree)} (found : tree.at? location = some (directory entries)) :
    tree.IsWithin (above location) := by
  rw [above]
  cases last : location.getLast? with
  | none =>
    obtain rfl := List.getLast?_eq_none_iff.mp last
    exact ⟨[], entries, found, .inr ⟨parentName, rfl⟩⟩
  | some name =>
    obtain ⟨front, rfl⟩ := List.getLast?_eq_some_iff.mp last
    dsimp only
    split
    · exact ⟨_, entries, found, .inr ⟨parentName, rfl⟩⟩
    split
    · exact ⟨_, entries, found, .inl rfl⟩
    · obtain ⟨others, isParent⟩ := exists_parent found
      exact ⟨front, others, isParent, .inl List.dropLast_concat⟩

/-- A path is followed from a directory, one segment after the other. -/
theorem exists_of_follow_cons {tree : FileTree} {location result : List String}
    {segment : List Char} {rest : List (List Char)}
    (followed : tree.follow location (segment :: rest) = .ok result) :
    ∃ entries next, tree.at? location = some (directory entries) ∧ tree.IsWithin next ∧
      tree.follow next rest = .ok result ∧
      ∀ other : FileTree, (∃ entries, other.at? location = some (directory entries)) →
        other.follow location (segment :: rest) = other.follow next rest := by
  rw [follow] at followed
  split at followed
  · cases followed
  · cases followed
  · cases followed
  · cases followed
  rename_i entries found
  have step (other : FileTree)
      (isDirectory : ∃ entries, other.at? location = some (directory entries)) :
      other.follow location (segment :: rest) =
        if segment = [] || segment = ['.'] then other.follow location rest
        else if segment = ['.', '.'] then other.follow (above location) rest
        else other.follow (location ++ [String.ofList segment]) rest := by
    obtain ⟨entries, found⟩ := isDirectory
    rw [follow, found]
  split at followed
  · rename_i stays
    refine ⟨entries, location, found, ⟨location, entries, found, .inl rfl⟩, followed, ?_⟩
    intro other isDirectory
    rw [step other isDirectory, if_pos stays]
  split at followed
  · rename_i moves up
    refine ⟨entries, above location, found, isWithin_above found, followed, ?_⟩
    intro other isDirectory
    rw [step other isDirectory, if_neg moves, if_pos up]
  · rename_i moves down
    refine ⟨entries, _, found, ⟨location, entries, found, .inr ⟨_, rfl⟩⟩, followed, ?_⟩
    intro other isDirectory
    rw [step other isDirectory, if_neg moves, if_neg down]

/-- Whether a tree has directories wherever another has them. -/
def HasDirectoriesOf (tree other : FileTree) : Prop :=
  ∀ location entries, other.at? location = some (directory entries) →
    ∃ entries, tree.at? location = some (directory entries)

/-- A path leads to a directory or into one, and it leads there in every tree with the same
directories. -/
theorem isWithin_of_follow {tree : FileTree} {location result : List String}
    {segments : List (List Char)} (within : tree.IsWithin location)
    (followed : tree.follow location segments = .ok result) :
    tree.IsWithin result ∧
      ∀ other, HasDirectoriesOf other tree → other.follow location segments = .ok result := by
  induction segments generalizing location with
  | nil =>
    cases followed
    exact ⟨within, fun other _ => rfl⟩
  | cons segment rest induction =>
    obtain ⟨entries, next, found, nextWithin, followed, step⟩ := exists_of_follow_cons followed
    obtain ⟨resultWithin, same⟩ := induction nextWithin followed
    refine ⟨resultWithin, fun other directories => ?_⟩
    rw [step other (directories location entries found)]
    exact same other directories

theorem isWithin_of_locate {tree : FileTree} {path : String} {location : List String}
    (located : tree.locate path = .ok location) :
    tree.IsWithin location ∧
      ∀ other, HasDirectoriesOf other tree → other.locate path = .ok location := by
  unfold locate at located ⊢
  split at located
  · cases located
  rename_i nonempty
  obtain ⟨segment, rest, split⟩ :=
    List.exists_cons_of_ne_nil (List.splitOnP_ne_nil (· == '/') path.toList)
  have parts : Path.segments path = segment :: rest := split
  rw [parts] at located ⊢
  obtain ⟨entries, -, found, -, -, -⟩ := exists_of_follow_cons located
  obtain ⟨within, same⟩ := isWithin_of_follow ⟨_, entries, found, .inl rfl⟩ located
  refine ⟨within, fun other directories => ?_⟩
  rw [if_neg nonempty]
  exact same other directories

/-! ## Files that stay -/

/-- Whether the trees have the same files. -/
def SameFiles (before after : FileTree) : Prop :=
  ∀ location contents,
    after.at? location = some (file contents) ↔ before.at? location = some (file contents)

/-- Whether the trees have the same files but for one location. -/
def SameFilesBut (location : List String) (before after : FileTree) : Prop :=
  ∀ other contents, other ≠ location →
    (after.at? other = some (file contents) ↔ before.at? other = some (file contents))

theorem SameFiles.refl (tree : FileTree) : SameFiles tree tree :=
  fun _ _ => .rfl

theorem SameFiles.trans {first second third : FileTree} (left : SameFiles first second)
    (right : SameFiles second third) : SameFiles first third :=
  fun location contents => (right location contents).trans (left location contents)

theorem eq_file_iff_of_withoutEntries {left right : Option FileTree}
    (same : left.map withoutEntries = right.map withoutEntries) (contents : ByteArray) :
    left = some (file contents) ↔ right = some (file contents) := by
  have isFile {node : Option FileTree} :
      node.map withoutEntries = some (file contents) ↔ node = some (file contents) := by
    cases node with
    | none => simp
    | some node => cases node <;> simp [withoutEntries, empty]
  rw [← isFile, same, isFile]

section

variable {tree node : FileTree} {front : List String} {entries : List (String × FileTree)}
  {name : String} (parent : tree.at? front = some (directory entries))
  (noEntries : node.entries = []) (free : ∀ old ∈ tree.at? (front ++ [name]), old.entries = [])
include parent noEntries free

theorem sameFilesBut_set : SameFilesBut (front ++ [name]) tree (tree.set (front ++ [name]) node) :=
  fun _ contents different =>
    eq_file_iff_of_withoutEntries (at?_set_of_ne parent name noEntries free different) contents

/-- Where no directory is replaced, all of them stay. -/
theorem hasDirectoriesOf_set
    (noDirectory : ∀ others, tree.at? (front ++ [name]) ≠ some (directory others)) :
    HasDirectoriesOf (tree.set (front ++ [name]) node) tree := by
  intro location others found
  have different : location ≠ front ++ [name] := by
    rintro rfl
    exact noDirectory others found
  have same := at?_set_of_ne parent name noEntries free different
  rw [found, Option.map_some] at same
  obtain ⟨now, isNow, isDirectory⟩ := Option.map_eq_some_iff.mp same
  cases now with
  | directory entries => exact ⟨entries, isNow⟩
  | file contents => cases isDirectory
  | locked isDirectory => cases isDirectory

end

theorem sameFiles_of_createDirectory {tree after : FileTree} {path : String}
    (created : tree.createDirectory path = .ok after) : SameFiles tree after := by
  unfold createDirectory at created
  split at created
  · cases created
  rename_i location located
  split at created
  · rename_i nothing
    cases created
    obtain ⟨⟨front, entries, found, here | ⟨name, rfl⟩⟩, -⟩ := isWithin_of_locate located
    · rw [here, found] at nothing
      cases nothing
    · have others : SameFilesBut (front ++ [name]) tree (tree.set (front ++ [name]) empty) :=
        sameFilesBut_set found rfl (by simp [nothing])
      intro other contents
      by_cases same : other = front ++ [name]
      · subst same
        rw [at?_set_self found, nothing]
        simp [empty]
      · exact others other contents same
  · cases created

theorem sameFiles_createEach (tree : FileTree) (paths : List String) :
    SameFiles tree (tree.createEach paths).1 := by
  induction paths generalizing tree with
  | nil => exact .refl tree
  | cons path rest induction =>
    rw [createEach]
    split
    · rename_i after created
      exact (sameFiles_of_createDirectory created).trans (induction after)
    · split
      · exact induction tree
      · exact .refl tree

theorem sameFiles_createDirectories (tree : FileTree) (path : String) :
    SameFiles tree (tree.createDirectories path).1 := by
  rw [createDirectories]
  split
  · exact .refl tree
  · exact sameFiles_createEach tree _

/-! ## Writing -/

/-- A file that is written stands where its path leads, and that is the only change. -/
theorem of_write {tree after : FileTree} {path : String} {contents : ByteArray}
    (written : tree.write path contents = .ok after) :
    ∃ location, after.locate path = .ok location ∧ after.at? location = some (file contents) ∧
      SameFilesBut location tree after := by
  unfold write at written
  split at written
  · cases written
  split at written
  · cases written
  rename_i location located
  have noDirectory : ∀ others, tree.at? location ≠ some (directory others) := by
    intro others found
    rw [found] at written
    cases written
  have free : ∀ old ∈ tree.at? location, old.entries = [] := by
    intro old isOld
    cases old with
    | directory others => exact absurd isOld (noDirectory others)
    | file contents => rfl
    | locked isDirectory => rfl
  have isSet : after = tree.set location (file contents) := by
    split at written <;> cases written
    rfl
  obtain ⟨⟨front, entries, found, here | ⟨name, rfl⟩⟩, stays⟩ := isWithin_of_locate located
  · exact absurd (here ▸ found) (noDirectory entries)
  · subst isSet
    exact ⟨_, stays _ (hasDirectoriesOf_set found rfl free noDirectory), at?_set_self found name,
      sameFilesBut_set found rfl free⟩

/-- Whether the file at the path has the text, and all other files are as before. -/
structure Writes (before : FileTree) (path text : String) (after : FileTree) : Prop where
  reads : after.readBytes path = .ok text.toUTF8
  others : ∃ location, after.locate path = .ok location ∧ SameFilesBut location before after

/-- The directories above a file are made first, which changes no file, and then it is written. -/
theorem exists_prepared (tree : FileTree) (path text : String) :
    ∃ prepared failure, SameFiles tree prepared ∧
      tree.writeOutput path text =
        match failure with
        | some error => (prepared, some error)
        | none =>
          match prepared.write path text.toUTF8 with
          | .ok after => (after, none)
          | .error error => (prepared, some error) := by
  unfold writeOutput
  cases Path.parent? path with
  | none => exact ⟨tree, none, .refl tree, rfl⟩
  | some parent =>
    dsimp only
    by_cases isHere : parent.isEmpty = true
    · rw [if_pos isHere]
      exact ⟨tree, none, .refl tree, rfl⟩
    · rw [if_neg isHere]
      exact ⟨_, _, sameFiles_createDirectories tree parent, rfl⟩

theorem writes_of_writeOutput {tree after : FileTree} {path text : String}
    (written : tree.writeOutput path text = (after, none)) : Writes tree path text after := by
  obtain ⟨prepared, failure, same, outcome⟩ := exists_prepared tree path text
  rw [outcome] at written
  cases failure with
  | some error => cases written
  | none =>
    dsimp only at written
    split at written
    · rename_i last written'
      cases written
      obtain ⟨location, located, found, others⟩ := of_write written'
      refine ⟨?_, location, located, fun other contents different => ?_⟩
      · rw [readBytes, find, located]
        dsimp only
        rw [found]
      · rw [others other contents different, same]
    · cases written

theorem sameFiles_of_writeOutput {tree after : FileTree} {path text : String} {cause : FileError}
    (failed : tree.writeOutput path text = (after, some cause)) : SameFiles tree after := by
  obtain ⟨prepared, failure, same, outcome⟩ := exists_prepared tree path text
  rw [outcome] at failed
  cases failure with
  | some error =>
    cases failed
    exact same
  | none =>
    dsimp only at failed
    split at failed
    · cases failed
    · cases failed
      exact same

end SqlSchema.FileTree
