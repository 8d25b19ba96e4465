import SqlSchema.Proofs.Layout
import SqlSchema.Proofs.Segments

/-!
Searching for scripts. A search finds each script below a directory that is not in a skipped
directory, in the order of the paths, and in whatever order the entries of directories are listed.
-/

namespace SqlSchema

/-! ## The order of paths -/

namespace Path

/-- The kinds of components in their order. -/
def Component.rank : Component → Nat
  | .root => 0
  | .current => 1
  | .parent => 2
  | .normal _ => 3

/-- The name of a component that has one. -/
def Component.nameText : Component → String
  | .normal name => name
  | .root | .current | .parent => ""

/-- Components are ordered by their kind and then by their name. -/
theorem Component.compare_eq :
    Component.compare = compareLex (compareOn Component.rank) (compareOn Component.nameText) := by
  funext left right
  cases left <;> cases right <;> rfl

instance : Std.TransCmp Component.compare := by
  rw [Component.compare_eq]
  infer_instance

instance : Std.LawfulEqCmp Component.compare where
  compare_self := Std.ReflCmp.compare_self
  eq_of_compare := by
    intro left right same
    rw [Component.compare_eq, compareLex_eq_eq] at same
    have sameRank : left.rank = right.rank := Std.LawfulEqOrd.eq_of_compare same.1
    have sameName : left.nameText = right.nameText := Std.LawfulEqOrd.eq_of_compare same.2
    cases left <;> cases right <;> simp_all [Component.rank, Component.nameText]

instance : Std.TransCmp compare where
  eq_swap := by
    intro left right
    rw [compare, compare]
    exact Std.OrientedCmp.eq_swap
  isLE_trans := by
    intro left middle right
    rw [compare, compare, compare]
    exact Std.TransCmp.isLE_trans

theorem compare_swap (left right : String) : compare left right = (compare right left).swap :=
  Std.OrientedCmp.eq_swap

theorem compare_eq_eq_iff (left right : String) :
    compare left right = .eq ↔ components left = components right := by
  rw [compare]
  exact Std.LawfulEqCmp.compare_eq_iff_eq

/-- Paths with different components are in strict order once they are sorted. -/
theorem pairwise_sort {paths : List String} (distinct : (paths.map components).Nodup) :
    (sort paths).Pairwise fun before after => compare before after = .lt := by
  have ordered : (sort paths).Pairwise fun before after => (compare before after).isLE = true := by
    apply List.pairwise_mergeSort
    · intro left middle right
      exact Std.TransCmp.isLE_trans
    · intro left right
      rw [compare_swap left right]
      cases compare right left <;> rfl
  have apart : (sort paths).Pairwise fun before after => components before ≠ components after := by
    have sorted : ((sort paths).map components).Nodup :=
      ((List.mergeSort_perm paths _).map components).nodup_iff.mpr distinct
    exact List.pairwise_map.mp sorted
  refine (ordered.and apart).imp fun {before after} both => ?_
  cases order : compare before after with
  | lt => rfl
  | eq => exact absurd ((compare_eq_eq_iff before after).mp order) both.2
  | gt =>
    rw [order] at both
    cases both.1

/-- Paths in strict order are determined by what they are, not by how they were found. -/
theorem eq_of_pairwise {left right : List String}
    (leftOrdered : left.Pairwise fun before after => compare before after = .lt)
    (rightOrdered : right.Pairwise fun before after => compare before after = .lt)
    (same : ∀ path, path ∈ left ↔ path ∈ right) : left = right := by
  have different {before after : String} (order : compare before after = .lt) :
      before ≠ after := by
    rintro rfl
    have self : compare before before = .eq := Std.ReflCmp.compare_self
    rw [self] at order
    cases order
  have leftDistinct : left.Nodup := leftOrdered.imp different
  have rightDistinct : right.Nodup := rightOrdered.imp different
  refine List.Perm.eq_of_pairwise ?_ leftOrdered rightOrdered
    ((List.perm_ext_iff_of_nodup leftDistinct rightDistinct).mpr same)
  intro before after _ _ order back
  rw [compare_swap before after, back] at order
  cases order

/-- Names that are put at the end of a path one after the other are its last components. -/
theorem components_foldl_join {path : String} (nonempty : path ≠ "") {names : List String}
    (areNames : ∀ name ∈ names, IsEntryName name) :
    components (names.foldl join path) = components path ++ names.map .normal := by
  induction names generalizing path with
  | nil => simp
  | cons name names induction =>
    obtain ⟨isName, others⟩ := List.forall_mem_cons.mp areNames
    rw [List.foldl_cons, induction (join_ne_empty nonempty isName) others,
      components_join nonempty isName, List.map_cons, List.append_assoc, List.singleton_append]

/-- Different names on the way lead to different components. -/
theorem nodup_components_foldl_join {path : String} (nonempty : path ≠ "")
    {locations : List (List String)} (distinct : locations.Nodup)
    (areNames : ∀ location ∈ locations, ∀ name ∈ location, IsEntryName name) :
    ((locations.map (·.foldl join path)).map components).Nodup := by
  rw [List.map_map]
  refine (List.nodup_map_iff_inj_on distinct).mpr ?_
  intro left leftMember right rightMember same
  rw [Function.comp_apply, Function.comp_apply,
    components_foldl_join nonempty (areNames left leftMember),
    components_foldl_join nonempty (areNames right rightMember)] at same
  exact (List.map_injective_iff.mpr fun _ _ => Component.normal.inj) (List.append_cancel_left same)

end Path

/-! ## Names of scripts -/

/-- A name with something before its extension, which is `sql` in any case. -/
def IsScriptName (name : String) : Prop :=
  ∃ stem extension, name = stem ++ "." ++ extension ∧ stem ≠ "" ∧
    Text.equalIgnoringCase extension "sql" = true

theorem splitExtension_iff (name : String) :
    (Path.splitExtension name).2.any (Text.equalIgnoringCase · "sql") = true ↔
      IsScriptName name := by
  constructor
  · intro found
    cases split : (Path.splitExtension name).2 with
    | none => simp [split] at found
    | some extension =>
      have spelled := Path.eq_of_splitExtension name
      rw [split, Option.map_some, Option.getD_some, ← String.append_assoc] at spelled
      refine ⟨_, extension, spelled, Path.stem_ne_empty split, ?_⟩
      simpa [split] using found
  · rintro ⟨stem, extension, rfl, nonempty, isSql⟩
    have noDot : '.' ∉ extension.toList := by
      intro dot
      have lowered : '.' ∈ extension.toList.map Char.toLower := List.mem_map.mpr ⟨'.', dot, rfl⟩
      rw [Text.equalIgnoringCase, beq_iff_eq] at isSql
      rw [isSql] at lowered
      revert lowered
      decide
    rw [Path.splitExtension_of_append nonempty noDot, Option.any_some, isSql]

theorem isScriptPath_join {path name : String} (nonempty : path ≠ "")
    (isName : Path.IsEntryName name) :
    isScriptPath (Path.join path name) = true ↔ IsScriptName name := by
  rw [isScriptPath, Path.extension?, Path.fileName?_join nonempty isName, Option.bind_some,
    splitExtension_iff]

namespace FileTree

/-! ## Trees that can be listed -/

mutual

/-- Whether every directory of the tree can be listed and has entries of different names. -/
def isListable : FileTree → Bool
  | file _ | locked false => true
  | locked true => false
  | directory entries => decide (entries.map Prod.fst).Nodup && areListable entries

/-- Whether the entries of a directory have names and can be listed. -/
def areListable : List (String × FileTree) → Bool
  | [] => true
  | (name, node) :: rest => decide (Path.IsEntryName name) && node.isListable && areListable rest

end

/-- Whether the search reaches a script at the location: a file with the name of a script, in no
directory that is skipped. -/
structure ReachesScript (tree : FileTree) (location : List String) : Prop where
  isFile : ∃ node, tree.at? location = some node ∧ node.isDirectoryNode = false
  isScript : ∃ name ∈ location.getLast?, IsScriptName name
  passes : ∀ name ∈ location.dropLast, name ∉ skippedDirectories

/-- Whether the trees have the same files and directories at the same locations, in whatever order
they are listed. -/
def SameContents (left right : FileTree) : Prop :=
  ∀ location, (left.at? location).map withoutEntries = (right.at? location).map withoutEntries

theorem lookup_eq_of_perm {entries others : List (String × FileTree)} (perm : entries.Perm others)
    (distinct : (entries.map Prod.fst).Nodup) (name : String) :
    entries.lookup name = others.lookup name := by
  induction perm with
  | nil => rfl
  | cons entry _ induction =>
    rw [List.lookup_cons, List.lookup_cons, induction (List.nodup_cons.mp distinct).2]
  | swap first second rest =>
    have different : second.1 ≠ first.1 := by
      rintro same
      exact (List.nodup_cons.mp distinct).1 (same ▸ List.mem_cons_self)
    rw [List.lookup_cons, List.lookup_cons, List.lookup_cons, List.lookup_cons]
    by_cases isFirst : name = first.1
    · have notSecond : (name == second.1) = false := by simpa [isFirst] using different.symm
      rw [notSecond]
    · have notFirst : (name == first.1) = false := by simpa using isFirst
      rw [notFirst]
  | trans perm _ first second =>
    rw [first distinct, second ((perm.map Prod.fst).nodup_iff.mp distinct)]

/-- The entries of a directory may be listed in any order. -/
theorem SameContents.of_perm {entries others : List (String × FileTree)}
    (perm : entries.Perm others) (distinct : (entries.map Prod.fst).Nodup) :
    SameContents (directory entries) (directory others) := by
  intro location
  cases location with
  | nil => rfl
  | cons name below =>
    rw [at?, at?, FileTree.entries, FileTree.entries, lookup_eq_of_perm perm distinct]

theorem ReachesScript.of_sameContents {left right : FileTree} (same : SameContents left right)
    {location : List String} (reaches : left.ReachesScript location) :
    right.ReachesScript location := by
  obtain ⟨⟨node, found, isFile⟩, isScript, passes⟩ := reaches
  refine ⟨?_, isScript, passes⟩
  have sameHere := same location
  rw [found, Option.map_some] at sameHere
  obtain ⟨other, otherFound, sameNode⟩ := Option.map_eq_some_iff.mp sameHere.symm
  refine ⟨other, otherFound, ?_⟩
  rw [← isDirectoryNode_withoutEntries, sameNode, isDirectoryNode_withoutEntries, isFile]

theorem SameContents.reachesScript_iff {left right : FileTree} (same : SameContents left right)
    {location : List String} : right.ReachesScript location ↔ left.ReachesScript location :=
  ⟨.of_sameContents fun location => (same location).symm, .of_sameContents same⟩

/-! ## Locations below a directory -/

theorem at?_directory_cons (name first : String) (node : FileTree)
    (rest : List (String × FileTree)) (below : List String) :
    (directory ((name, node) :: rest)).at? (first :: below) =
      if first = name then node.at? below else (directory rest).at? (first :: below) := by
  rw [at?, at?, entries, List.lookup_cons, entries]
  by_cases same : first = name
  · simp [same]
  · have apart : (first == name) = false := by simpa using same
    simp [same, apart]

/-- A script in a directory is in one of its entries. -/
theorem ReachesScript.exists_mem {entries : List (String × FileTree)} {location : List String}
    (reaches : (directory entries).ReachesScript location) :
    ∃ name below, location = name :: below ∧ name ∈ entries.map Prod.fst := by
  cases location with
  | nil =>
    obtain ⟨name, last, -⟩ := reaches.isScript
    cases last
  | cons name below =>
    refine ⟨name, below, rfl, ?_⟩
    obtain ⟨node, found, -⟩ := reaches.isFile
    obtain ⟨child, lookup, -⟩ := Option.bind_eq_some_iff.mp found
    by_contra fresh
    have none : entries.lookup name = none := by
      rw [List.lookup_eq_none_iff]
      intro entry member
      rw [bne_iff_ne]
      rintro rfl
      exact fresh (List.mem_map_of_mem member)
    rw [FileTree.entries, none] at lookup
    cases lookup

/-- A script is in the first entry of a directory or in the others. -/
theorem reachesScript_cons_iff {name : String} {node : FileTree} {rest : List (String × FileTree)}
    (fresh : name ∉ rest.map Prod.fst) (location : List String) :
    (directory ((name, node) :: rest)).ReachesScript location ↔
      (directory [(name, node)]).ReachesScript location ∨
        (directory rest).ReachesScript location := by
  constructor
  · intro reaches
    obtain ⟨first, below, rfl, -⟩ := reaches.exists_mem
    obtain ⟨⟨file, found, isFile⟩, isScript, passes⟩ := reaches
    rw [at?_directory_cons] at found
    by_cases same : first = name
    · refine .inl ⟨⟨file, ?_, isFile⟩, isScript, passes⟩
      rw [if_pos same] at found
      rwa [at?_directory_cons, if_pos same]
    · rw [if_neg same] at found
      exact .inr ⟨⟨file, found, isFile⟩, isScript, passes⟩
  · rintro (reaches | reaches)
    · obtain ⟨first, below, rfl, member⟩ := reaches.exists_mem
      obtain rfl : first = name := by simpa using member
      obtain ⟨⟨file, found, isFile⟩, isScript, passes⟩ := reaches
      refine ⟨⟨file, ?_, isFile⟩, isScript, passes⟩
      rw [at?_directory_cons, if_pos rfl] at found ⊢
      exact found
    · obtain ⟨first, below, rfl, member⟩ := reaches.exists_mem
      have different : first ≠ name := fun same => fresh (same ▸ member)
      obtain ⟨⟨file, found, isFile⟩, isScript, passes⟩ := reaches
      refine ⟨⟨file, ?_, isFile⟩, isScript, passes⟩
      rwa [at?_directory_cons, if_neg different]

/-- A script in the only entry of a directory is the entry itself or is reached from it. -/
theorem reachesScript_singleton_iff (name : String) (node : FileTree) (location : List String) :
    (directory [(name, node)]).ReachesScript location ↔
      location = [name] ∧ node.isDirectoryNode = false ∧ IsScriptName name ∨
        ∃ below, location = name :: below ∧ name ∉ skippedDirectories ∧
          node.ReachesScript below := by
  constructor
  · intro reaches
    obtain ⟨first, below, rfl, member⟩ := reaches.exists_mem
    obtain rfl : first = name := by simpa using member
    obtain ⟨⟨file, found, isFile⟩, ⟨last, isLast, isScript⟩, passes⟩ := reaches
    rw [at?_directory_cons, if_pos rfl] at found
    cases below with
    | nil =>
      cases found
      cases isLast
      exact .inl ⟨rfl, isFile, isScript⟩
    | cons next below =>
      rw [List.dropLast_cons_cons, List.forall_mem_cons] at passes
      rw [List.getLast?_cons_cons] at isLast
      exact .inr ⟨_, rfl, passes.1, ⟨file, found, isFile⟩, ⟨last, isLast, isScript⟩, passes.2⟩
  · rintro (⟨rfl, isFile, isScript⟩ | ⟨below, rfl, passed, reaches⟩)
    · refine ⟨⟨node, ?_, isFile⟩, ⟨name, rfl, isScript⟩, List.forall_mem_nil _⟩
      rw [at?_directory_cons, if_pos rfl, at?]
    · obtain ⟨⟨file, found, isFile⟩, ⟨last, isLast, isScript⟩, passes⟩ := reaches
      cases below with
      | nil => cases isLast
      | cons next below =>
        refine ⟨⟨file, ?_, isFile⟩, ⟨last, ?_, isScript⟩, ?_⟩
        · rwa [at?_directory_cons, if_pos rfl]
        · rwa [List.getLast?_cons_cons]
        · rw [List.dropLast_cons_cons, List.forall_mem_cons]
          exact ⟨passed, passes⟩

/-! ## One search -/

/-- The scripts of one entry of the directory `path`. -/
def scriptsOfEntry (path name : String) (node : FileTree) : Except SearchError (List String) :=
  if node.isDirectoryNode && skippedDirectories.contains name then .ok []
  else scriptsAt (Path.join path name) node

theorem scriptsAmong_cons {path name : String} {node : FileTree}
    {rest : List (String × FileTree)} {found others : List String}
    (entryFound : scriptsOfEntry path name node = .ok found)
    (othersFound : scriptsAmong path rest = .ok others) :
    scriptsAmong path ((name, node) :: rest) = .ok (found ++ others) := by
  unfold scriptsOfEntry at entryFound
  rw [scriptsAmong, othersFound]
  split at entryFound
  · rename_i skipped
    rw [if_pos skipped, entryFound]
    rfl
  · rename_i entered
    rw [if_neg entered, entryFound]
    rfl

/-- Whether `found` has the paths of all scripts that the search reaches, each once, where `path` is
the path of the tree. -/
def FindsScripts (path : String) (tree : FileTree) (found : Except SearchError (List String)) :
    Prop :=
  ∃ locations : List (List String), found = .ok (locations.map (·.foldl Path.join path)) ∧
    locations.Nodup ∧ ∀ location, location ∈ locations ↔ tree.ReachesScript location

/-- An entry that is no directory is a script or not. -/
theorem findsScripts_of_isFile {path name : String} (nonempty : path ≠ "")
    (isName : Path.IsEntryName name) {node : FileTree} (isFile : node.isDirectoryNode = false)
    (scripts : scriptsAt (Path.join path name) node =
      .ok (if isScriptPath (Path.join path name) then [Path.join path name] else [])) :
    FindsScripts path (directory [(name, node)]) (scriptsOfEntry path name node) := by
  have noEntries : node.entries = [] := by
    cases node with
    | file contents => rfl
    | locked isDirectory => rfl
    | directory entries => cases isFile
  have noneBelow (below : List String) : ¬ node.ReachesScript below := by
    rintro ⟨⟨found, isFound, -⟩, ⟨last, isLast, -⟩, -⟩
    cases below with
    | nil => cases isLast
    | cons first below =>
      rw [at?, noEntries] at isFound
      cases isFound
  have reached (location : List String) :
      (directory [(name, node)]).ReachesScript location ↔
        location = [name] ∧ IsScriptName name := by
    rw [reachesScript_singleton_iff]
    simp [isFile, noneBelow]
  rw [scriptsOfEntry, isFile, Bool.false_and, if_neg Bool.false_ne_true, scripts]
  by_cases isScript : IsScriptName name
  · refine ⟨[[name]], ?_, List.nodup_singleton _, fun location => ?_⟩
    · rw [if_pos ((isScriptPath_join nonempty isName).mpr isScript)]
      rfl
    · rw [reached, List.mem_singleton, and_iff_left isScript]
  · refine ⟨[], ?_, .nil, fun location => ?_⟩
    · rw [if_neg (mt (isScriptPath_join nonempty isName).mp isScript)]
      rfl
    · rw [reached]
      exact iff_of_false List.not_mem_nil fun script => isScript script.2

mutual

/-- The scripts among the entries of a directory are those that the search reaches. -/
theorem findsScripts_scriptsAmong {path : String} (nonempty : path ≠ "")
    (entries : List (String × FileTree)) (distinct : (entries.map Prod.fst).Nodup)
    (listable : areListable entries = true) :
    FindsScripts path (directory entries) (scriptsAmong path entries) := by
  match entries with
  | [] =>
    refine ⟨[], rfl, .nil, fun location => iff_of_false List.not_mem_nil fun reaches => ?_⟩
    obtain ⟨name, below, -, member⟩ := reaches.exists_mem
    cases member
  | (name, node) :: rest =>
    rw [List.map_cons, List.nodup_cons] at distinct
    rw [areListable, Bool.and_eq_true, Bool.and_eq_true, decide_eq_true_eq] at listable
    obtain ⟨⟨isName, nodeListable⟩, restListable⟩ := listable
    obtain ⟨own, ownFound, ownDistinct, ownReached⟩ :=
      findsScripts_scriptsOfEntry nonempty isName node nodeListable
    obtain ⟨others, othersFound, othersDistinct, othersReached⟩ :=
      findsScripts_scriptsAmong nonempty rest distinct.2 restListable
    refine ⟨own ++ others, ?_, ?_, ?_⟩
    · rw [scriptsAmong_cons ownFound othersFound, List.map_append]
    · refine List.nodup_append.mpr ⟨ownDistinct, othersDistinct, ?_⟩
      rintro location inOwn other inOthers rfl
      obtain ⟨first, below, rfl, isFirst⟩ := ((ownReached location).mp inOwn).exists_mem
      obtain ⟨_, _, same, inRest⟩ := ((othersReached _).mp inOthers).exists_mem
      cases same
      rw [List.map_singleton, List.mem_singleton] at isFirst
      exact distinct.1 (isFirst ▸ inRest)
    · intro location
      rw [List.mem_append, ownReached, othersReached, reachesScript_cons_iff distinct.1]

/-- The scripts of one entry of a directory are those that the search reaches in it. -/
theorem findsScripts_scriptsOfEntry {path name : String} (nonempty : path ≠ "")
    (isName : Path.IsEntryName name) (node : FileTree) (listable : node.isListable = true) :
    FindsScripts path (directory [(name, node)]) (scriptsOfEntry path name node) := by
  match node with
  | file contents => exact findsScripts_of_isFile nonempty isName rfl rfl
  | locked false => exact findsScripts_of_isFile nonempty isName rfl rfl
  | locked true => cases listable
  | directory entries =>
    rw [isListable, Bool.and_eq_true, decide_eq_true_eq] at listable
    obtain ⟨locations, found, distinct, reached⟩ :=
      findsScripts_scriptsAmong (Path.join_ne_empty nonempty isName) entries listable.1 listable.2
    by_cases skipped : name ∈ skippedDirectories
    · refine ⟨[], if_pos (by simp [isDirectoryNode, skipped]), .nil,
        fun location => iff_of_false List.not_mem_nil ?_⟩
      rw [reachesScript_singleton_iff]
      rintro (⟨-, isFile, -⟩ | ⟨below, -, entered, -⟩)
      · cases isFile
      · exact absurd skipped entered
    · refine ⟨locations.map (name :: ·), ?_, ?_, ?_⟩
      · rw [scriptsOfEntry, if_neg (by simp [skipped]), scriptsAt, found, List.map_map]
        rfl
      · exact distinct.map fun _ _ => List.tail_eq_of_cons_eq
      · intro location
        rw [reachesScript_singleton_iff, List.mem_map]
        constructor
        · rintro ⟨below, member, rfl⟩
          exact .inr ⟨below, rfl, skipped, (reached below).mp member⟩
        · rintro (⟨-, isFile, -⟩ | ⟨below, rfl, -, reaches⟩)
          · cases isFile
          · exact ⟨below, (reached below).mpr reaches, rfl⟩

end

/-! ## The whole search -/

theorem isListable_of_mem {entries : List (String × FileTree)} {name : String} {node : FileTree}
    (listable : areListable entries = true) (member : (name, node) ∈ entries) :
    Path.IsEntryName name ∧ node.isListable = true := by
  induction entries with
  | nil => cases member
  | cons entry rest induction =>
    obtain ⟨known, child⟩ := entry
    rw [areListable, Bool.and_eq_true, Bool.and_eq_true, decide_eq_true_eq] at listable
    rcases List.mem_cons.mp member with same | member
    · cases same
      exact listable.1
    · exact induction listable.2 member

/-- The names on the way to a script are names of entries. -/
theorem isEntryName_of_at? {tree node : FileTree} {location : List String}
    (listable : tree.isListable = true) (found : tree.at? location = some node) :
    ∀ name ∈ location, Path.IsEntryName name := by
  induction location generalizing tree with
  | nil => exact List.forall_mem_nil _
  | cons first below induction =>
    obtain ⟨child, lookup, found⟩ := Option.bind_eq_some_iff.mp found
    obtain ⟨before, after, split, -⟩ := List.lookup_eq_some_iff.mp lookup
    have member : (first, child) ∈ tree.entries := by simp [split]
    have entriesListable : areListable tree.entries = true := by
      cases tree with
      | file contents => cases member
      | locked isDirectory => cases member
      | directory entries =>
        rw [isListable, Bool.and_eq_true] at listable
        exact listable.2
    obtain ⟨isName, childListable⟩ := isListable_of_mem entriesListable member
    exact List.forall_mem_cons.mpr ⟨isName, induction childListable found⟩

theorem search_eq {files : FileTree} {path : String} {entries : List (String × FileTree)}
    (found : files.find path = .ok (directory entries)) :
    files.search path = (scriptsAmong path entries).map Path.sort := by
  rw [search, list, found]

theorem ne_empty_of_find {files tree : FileTree} {path : String}
    (found : files.find path = .ok tree) : path ≠ "" := by
  rintro rfl
  cases found

/-- A directory whose tree can be listed is searched through: the scripts that are reached stand in
the order of their paths, and each stands once. -/
theorem exists_search {files tree : FileTree} {path : String} (found : files.find path = .ok tree)
    (isDirectory : tree.isDirectoryNode = true) (listable : tree.isListable = true) :
    ∃ scripts, files.search path = .ok scripts ∧
      scripts.Pairwise (fun before after => Path.compare before after = .lt) ∧
      ∀ script, script ∈ scripts ↔
        ∃ location, tree.ReachesScript location ∧ script = location.foldl Path.join path := by
  have nonempty := ne_empty_of_find found
  cases tree with
  | file contents => cases isDirectory
  | locked isDirectory' =>
    cases isDirectory
    cases listable
  | directory entries =>
    have listed := listable
    rw [isListable, Bool.and_eq_true, decide_eq_true_eq] at listed
    obtain ⟨locations, scripts, distinct, reached⟩ :=
      findsScripts_scriptsAmong nonempty entries listed.1 listed.2
    have areNames : ∀ location ∈ locations, ∀ name ∈ location, Path.IsEntryName name := by
      intro location member
      obtain ⟨node, found, -⟩ := ((reached location).mp member).isFile
      exact isEntryName_of_at? listable found
    have apart := Path.nodup_components_foldl_join nonempty distinct areNames
    refine ⟨Path.sort (locations.map (·.foldl Path.join path)), ?_, Path.pairwise_sort apart, ?_⟩
    · rw [search_eq found, scripts]
      rfl
    · intro script
      rw [Path.sort, List.mem_mergeSort, List.mem_map]
      simp only [reached, eq_comm]

/-- The search finds the scripts that are reached, in the order of their paths. It finds the same
where the entries of directories are listed in another order. -/
theorem search_of_isListable {files tree : FileTree} {path : String}
    (found : files.find path = .ok tree) (isDirectory : tree.isDirectoryNode = true)
    (listable : tree.isListable = true) :
    ∃ scripts, files.search path = .ok scripts ∧
      scripts.Pairwise (fun before after => Path.compare before after = .lt) ∧
      (∀ script, script ∈ scripts ↔
        ∃ location, tree.ReachesScript location ∧ script = location.foldl Path.join path) ∧
      ∀ relisted other, FileTree.find relisted path = .ok other → other.isListable = true →
        SameContents tree other → relisted.search path = .ok scripts := by
  obtain ⟨scripts, searched, ordered, reached⟩ := exists_search found isDirectory listable
  refine ⟨scripts, searched, ordered, reached, ?_⟩
  intro relisted other otherFound otherListable same
  have otherDirectory : other.isDirectoryNode = true := by
    have sameRoot := Option.some.inj (same [])
    rw [← isDirectoryNode_withoutEntries, ← sameRoot, isDirectoryNode_withoutEntries, isDirectory]
  obtain ⟨others, otherSearched, otherOrdered, otherReached⟩ :=
    exists_search otherFound otherDirectory otherListable
  have sameScripts : others = scripts := by
    refine Path.eq_of_pairwise otherOrdered ordered fun script => ?_
    rw [reached, otherReached]
    exact exists_congr fun location => and_congr_left' same.reachesScript_iff
  rw [otherSearched, sameScripts]

/-- A directory with a name that is skipped below others, searched in two orders. -/
theorem search_of_isListable_bin :
    let first := ("z.SQL", file .empty)
    let second := ("obj", directory [("a.sql", file .empty)])
    let third := ("b.sql", directory [(".sql", file .empty), ("c.sql", locked false)])
    let listed := directory [("bin", directory [first, second, third])]
    let relisted := directory [("bin", directory [third, first, second])]
    listed.find "bin" = .ok (directory [first, second, third]) ∧
      (directory [first, second, third]).isListable = true ∧
      listed.search "bin" = .ok ["bin/b.sql/c.sql", "bin/z.SQL"] ∧
      relisted.search "bin" = .ok ["bin/b.sql/c.sql", "bin/z.SQL"] := by
  intro first second third listed relisted
  have found : listed.find "bin" = .ok (directory [first, second, third]) := by rfl
  have listable : (directory [first, second, third]).isListable = true := by decide +kernel
  obtain ⟨scripts, searched, -, -, inAnyOrder⟩ := search_of_isListable found rfl listable
  have reordered : ([first, second] ++ [third]).Perm ([third] ++ [first, second]) :=
    List.perm_append_comm
  have same : SameContents (directory [first, second, third]) (directory [third, first, second]) :=
    .of_perm reordered (by decide +kernel)
  have again := inAnyOrder relisted _ rfl (by decide +kernel) same
  have result : listed.search "bin" = .ok ["bin/b.sql/c.sql", "bin/z.SQL"] := by
    have unsorted : scriptsAmong "bin" [first, second, third] =
        .ok ["bin/z.SQL", "bin/b.sql/c.sql"] := by decide +kernel
    have sorted : Path.sort ["bin/z.SQL", "bin/b.sql/c.sql"] =
        ["bin/b.sql/c.sql", "bin/z.SQL"] := by
      refine Path.eq_of_pairwise (Path.pairwise_sort (by decide +kernel)) (by decide +kernel) ?_
      intro path
      rw [Path.sort, List.mem_mergeSort]
      simp [or_comm]
    rw [search_eq found, unsorted, Except.map, sorted]
  refine ⟨found, listable, result, ?_⟩
  rw [again, ← searched, result]

end FileTree

end SqlSchema
