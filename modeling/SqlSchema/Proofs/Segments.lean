import SqlSchema.Path
import SqlSchema.Proofs.Name
import SqlSchema.Text.Case

/-!
Segments of a path. The components of a path can be told from its segments, and a name that is put
at the end of a path is its last segment, its last component and its file name.
-/

namespace SqlSchema.Path

/-! ## Components of segments -/

/-- The components of the first segment of a path. -/
def firstComponents (first : List Char) (isOnly : Bool) : List Component :=
  if first = ['.'] then [.current]
  else if first ≠ [] then [Component.ofSegment first]
  else if isOnly then []
  else [.root]

/-- The components that the segments of a path stand for. -/
def componentsOf : List (List Char) → List Component
  | [] => []
  | first :: rest =>
    firstComponents first rest.isEmpty ++ (rest.filter isComponent).map Component.ofSegment

theorem componentsOf_append (first last : List Char) (before after : List (List Char)) :
    componentsOf (first :: before ++ last :: after) =
      firstComponents first false ++ (before.filter isComponent).map Component.ofSegment ++
        ((last :: after).filter isComponent).map Component.ofSegment := by
  have more : (before ++ last :: after).isEmpty = false := by cases before <;> rfl
  rw [List.cons_append, componentsOf, more, List.filter_append, List.map_append, List.append_assoc]

theorem slash_not_mem_of_mem_segments {path : String} {segment : List Char}
    (member : segment ∈ segments path) : '/' ∉ segment := by
  intro slash
  simpa using Name.not_of_mem_splitOnP member '/' slash

/-- A path is absolute exactly if its first segment is empty and not its only one. -/
theorem isAbsolute_iff {path : String} {first : List Char} {rest : List (List Char)}
    (split : segments path = first :: rest) : isAbsolute path = true ↔ first = [] ∧ rest ≠ [] := by
  have chars : path.toList = ['/'].intercalate (first :: rest) := by
    rw [← split, segments, List.intercalate_splitOn]
  have noSlash : '/' ∉ first := slash_not_mem_of_mem_segments (split ▸ List.mem_cons_self)
  rw [isAbsolute, chars, decide_eq_true_eq]
  cases rest with
  | nil =>
    rw [List.intercalate_singleton]
    simpa using fun head => noSlash (List.mem_of_head? head)
  | cons next others =>
    rw [List.intercalate_cons_cons]
    cases first with
    | nil => simp
    | cons char chars => simpa using (List.ne_of_not_mem_cons noSlash).symm

theorem components_eq (path : String) : components path = componentsOf (segments path) := by
  rw [components]
  cases split : segments path with
  | nil => rfl
  | cons first rest =>
    have absolute := isAbsolute_iff split
    dsimp only [componentsOf, firstComponents]
    by_cases empty : first = []
    · subst empty
      cases rest <;> simp [absolute]
    · simp [empty]

theorem components_ofSegments {parts : List (List Char)} (some : parts ≠ [])
    (noSlash : ∀ part ∈ parts, '/' ∉ part) :
    components (ofSegments parts) = componentsOf parts := by
  rw [components_eq, segments, ofSegments, String.toList_ofList,
    List.splitOn_intercalate '/' noSlash some]

/-! ## Extensions -/

/-- The name of a file is its stem, a dot and the extension, or the stem alone. -/
theorem eq_of_splitExtension (name : String) :
    name = (splitExtension name).1 ++ ((splitExtension name).2.map ("." ++ ·)).getD "" := by
  have joined :=
    List.takeWhile_append_dropWhile (p := (· != '.')) (l := name.toList.reverse)
  unfold splitExtension
  dsimp only
  split
  · simp
  · rename_i nonempty
    cases stops : name.toList.reverse.dropWhile (· != '.') with
    | nil => simp [stops] at nonempty
    | cons dot before =>
      obtain rfl : dot = '.' := by
        have head := List.head?_dropWhile_not (· != '.') name.toList.reverse
        simpa [stops] using head
      apply String.toList_inj.mp
      rw [stops] at joined
      have chars := congrArg List.reverse joined
      rw [List.reverse_reverse] at chars
      simpa using chars.symm

theorem stem_ne_empty {name extension : String}
    (split : (splitExtension name).2 = some extension) : (splitExtension name).1 ≠ "" := by
  unfold splitExtension at split ⊢
  dsimp only at split ⊢
  split at split
  · cases split
  · rename_i nonempty
    rw [if_neg nonempty]
    exact mt String.ofList_eq_empty_iff.mp nonempty

/-- A stem before a dot and an extension without dots are the parts of a name. -/
theorem splitExtension_of_append {stem extension : String} (nonempty : stem ≠ "")
    (noDot : '.' ∉ extension.toList) :
    splitExtension (stem ++ "." ++ extension) = (stem, some extension) := by
  have chars : (stem ++ "." ++ extension).toList.reverse =
      extension.toList.reverse ++ '.' :: stem.toList.reverse := by simp
  have beforeDot : ∀ char ∈ extension.toList.reverse, (char != '.') = true := by
    intro char member
    rw [bne_iff_ne]
    rintro rfl
    exact noDot (List.mem_reverse.mp member)
  have stemChars : stem.toList ≠ [] := mt String.toList_eq_nil_iff.mp nonempty
  unfold splitExtension
  dsimp only
  rw [chars, List.takeWhile_append_of_pos beforeDot, List.dropWhile_append_of_pos beforeDot]
  simp [stemChars]

/-! ## A name at the end -/

/-- A name that a directory can have for one of its entries. -/
structure IsEntryName (name : String) : Prop where
  counts : isComponent name.toList = true
  ne_parent : name ≠ ".."
  noSlash : '/' ∉ name.toList

instance (name : String) : Decidable (IsEntryName name) :=
  decidable_of_iff (isComponent name.toList = true ∧ name ≠ ".." ∧ '/' ∉ name.toList)
    ⟨fun parts => ⟨parts.1, parts.2.1, parts.2.2⟩,
      fun isName => ⟨isName.counts, isName.ne_parent, isName.noSlash⟩⟩

theorem IsEntryName.toList_ne_dots {name : String} (isName : IsEntryName name) :
    name.toList ≠ ['.', '.'] :=
  fun chars => isName.ne_parent (String.toList_inj.mp chars)

theorem IsEntryName.splitOn_eq {name : String} (isName : IsEntryName name) :
    name.toList.splitOn '/' = [name.toList] := by
  have noSlash : ∀ part ∈ [name.toList], '/' ∉ part := by simpa using isName.noSlash
  have split := List.splitOn_intercalate '/' noSlash (List.cons_ne_nil _ _)
  rwa [List.intercalate_singleton] at split

/-- The only segment of a path is not empty, so that it has its component wherever it stands. -/
theorem firstComponents_isEmpty {path : String} (nonempty : path ≠ "") {first : List Char}
    {before : List (List Char)} (split : segments path = first :: before) :
    firstComponents first before.isEmpty = firstComponents first false := by
  cases before with
  | cons next others => rfl
  | nil =>
    have first_ne : first ≠ [] := by
      rintro rfl
      have chars : ['/'].intercalate (segments path) = path.toList := by
        rw [segments, List.intercalate_splitOn]
      rw [split] at chars
      exact nonempty (String.toList_eq_nil_iff.mp chars.symm)
    simp [firstComponents, first_ne]

theorem splitOn_append_slash (front rest : List Char) :
    (front ++ '/' :: rest).splitOn '/' = front.splitOn '/' ++ rest.splitOn '/' :=
  List.splitOnP_append_cons front rest rfl

section

variable {path name : String} (nonempty : path ≠ "") (isName : IsEntryName name)
include nonempty isName

/-- The name is a segment of its own, after the segments that the components of the path stand
for. -/
theorem exists_segments_join :
    ∃ first before, segments (join path name) = first :: before ++ [name.toList] ∧
      components path =
        firstComponents first false ++ (before.filter isComponent).map Component.ofSegment := by
  have relative : isAbsolute name = false := by
    rw [isAbsolute, decide_eq_false_iff_not]
    exact fun head => isName.noSlash (List.mem_of_head? head)
  have notEmpty : path.isEmpty = false := by simpa using nonempty
  rw [join, relative, notEmpty, Bool.false_or, if_neg Bool.false_ne_true]
  by_cases ends : path.toList.getLast? = some '/'
  · -- The path has an empty last segment, and the name takes its place.
    obtain ⟨front, chars⟩ := List.getLast?_eq_some_iff.mp ends
    obtain ⟨first, before, split⟩ :=
      List.exists_cons_of_ne_nil (List.splitOnP_ne_nil (· == '/') front)
    refine ⟨first, before, ?_, ?_⟩
    · rw [if_pos (by simpa using ends), segments, String.toList_append, chars, List.append_assoc,
        List.singleton_append, splitOn_append_slash, isName.splitOn_eq, List.splitOn, split]
    · have parts : segments path = first :: before ++ [[]] := by
        rw [segments, chars, splitOn_append_slash, List.splitOn, split]
        rfl
      rw [components_eq, parts, componentsOf_append]
      exact List.append_nil _
  · obtain ⟨first, before, split⟩ :=
      List.exists_cons_of_ne_nil (List.splitOnP_ne_nil (· == '/') path.toList)
    refine ⟨first, before, ?_, ?_⟩
    · have chars : (path ++ "/" ++ name).toList = path.toList ++ '/' :: name.toList := by simp
      rw [if_neg (by simpa using ends), segments, chars, splitOn_append_slash, isName.splitOn_eq,
        List.splitOn, split]
    · have parts : segments path = first :: before := split
      rw [components_eq, parts, componentsOf, firstComponents_isEmpty nonempty parts]

theorem components_join : components (join path name) = components path ++ [.normal name] := by
  obtain ⟨first, before, split, parts⟩ := exists_segments_join nonempty isName
  rw [components_eq, split, componentsOf_append, parts, List.filter_cons_of_pos isName.counts,
    List.filter_nil, List.map_singleton, Component.ofSegment, if_neg isName.toList_ne_dots,
    String.ofList_toList]

theorem fileName?_join : fileName? (join path name) = some name := by
  obtain ⟨first, before, split, parts⟩ := exists_segments_join nonempty isName
  have notCurrent : name.toList ≠ ['.'] := by
    intro chars
    have counts := isName.counts
    rw [chars] at counts
    cases counts
  have last : splitLast? (join path name) = some (first :: before, name.toList) := by
    rw [splitLast?, split]
    simp [isName.counts]
  rw [fileName?, last]
  simp [isName.toList_ne_dots, notCurrent]

theorem join_ne_empty : join path name ≠ "" := by
  intro empty
  have parts := components_join nonempty isName
  rw [empty] at parts
  have some := congrArg List.length parts
  rw [List.length_append] at some
  cases some

end

end SqlSchema.Path
