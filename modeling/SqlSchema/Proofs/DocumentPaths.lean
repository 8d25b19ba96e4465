import SqlSchema.Output.Generation
import SqlSchema.Proofs.Segments

/-!
Paths of documents. The extension of a path is replaced after its template has been expanded, so two
documents share a path exactly if their expansions differ in nothing but what stands after the last
dot of the file name.
-/

namespace SqlSchema

namespace Path

/-! ## The last component -/

/-- The component of the last segment that counts. -/
def lastComponent (last : List Char) : Component :=
  if last = ['.'] then .current else Component.ofSegment last

/-- The segments before and after the last one that counts. -/
theorem eq_append_of_dropWhile {rest before : List (List Char)} {last : List Char}
    (stops : rest.reverse.dropWhile (!isComponent ·) = last :: before) :
    isComponent last = true ∧
      ∃ after, rest = before.reverse ++ last :: after ∧ after.filter isComponent = [] := by
  have counts : isComponent last = true := by
    have head := List.head?_dropWhile_not (!isComponent ·) rest.reverse
    simpa [stops] using head
  refine ⟨counts, (rest.reverse.takeWhile (!isComponent ·)).reverse, ?_, ?_⟩
  · apply List.reverse_injective
    have joined := List.takeWhile_append_dropWhile (p := (!isComponent ·)) (l := rest.reverse)
    rw [stops] at joined
    simp [joined]
  · refine List.filter_eq_nil_iff.mpr fun segment member => ?_
    simpa using List.mem_takeWhile_imp (List.mem_reverse.mp member)

theorem filter_eq_nil_of_dropWhile {rest : List (List Char)}
    (stops : rest.reverse.dropWhile (!isComponent ·) = []) : rest.filter isComponent = [] := by
  refine List.filter_eq_nil_iff.mpr fun segment member => ?_
  simpa using List.dropWhile_eq_nil_iff.mp stops segment (List.mem_reverse.mpr member)

/-- Where a path has a last component, another segment can be put in its place. -/
theorem components_of_splitLast? {path : String} {before : List (List Char)} {last : List Char}
    (split : splitLast? path = some (before, last)) :
    '/' ∉ last ∧ ∃ front, components path = front ++ [lastComponent last] ∧
      ∀ segment, '/' ∉ segment → isComponent segment = true →
        components (ofSegments (before ++ [segment])) = front ++ [Component.ofSegment segment] := by
  unfold splitLast? at split
  cases parts : segments path with
  | nil => simp [parts] at split
  | cons first rest =>
    have noSlash : ∀ part ∈ first :: rest, '/' ∉ part :=
      fun part member => slash_not_mem_of_mem_segments (parts ▸ member)
    rw [parts] at split
    dsimp only at split
    split at split
    · rename_i found beforeReversed stops
      cases split
      obtain ⟨counts, after, rfl, noneAfter⟩ := eq_append_of_dropWhile stops
      have notCurrent : last ≠ ['.'] := by
        rintro rfl
        cases counts
      refine ⟨noSlash last (by simp), firstComponents first false ++
        (beforeReversed.reverse.filter isComponent).map Component.ofSegment, ?_, ?_⟩
      · rw [components_eq, parts, ← List.cons_append, componentsOf_append, lastComponent,
          if_neg notCurrent, List.filter_cons_of_pos counts, noneAfter]
        rfl
      · intro segment segmentSlash segmentCounts
        have allSlash : ∀ part ∈ first :: beforeReversed.reverse ++ [segment], '/' ∉ part := by
          intro part member
          rcases List.mem_append.mp member with member | member
          · exact noSlash part (List.mem_append_left _ member)
          · rwa [List.mem_singleton.mp member]
        rw [components_ofSegments (by simp) allSlash, componentsOf_append,
          List.filter_cons_of_pos segmentCounts]
        rfl
    · rename_i stops
      have noneLater := filter_eq_nil_of_dropWhile stops
      split at split
      · cases split
      · rename_i nonempty
        cases split
        refine ⟨noSlash last List.mem_cons_self, [], ?_, ?_⟩
        · rw [components_eq, parts, componentsOf, noneLater, firstComponents, lastComponent]
          simp only [nonempty, ne_eq, not_false_eq_true, if_true, List.map_nil, List.append_nil]
          split <;> rfl
        · intro segment segmentSlash segmentCounts
          obtain ⟨notEmpty, notCurrent⟩ : segment ≠ [] ∧ segment ≠ ['.'] := by
            simpa [isComponent] using segmentCounts
          rw [List.nil_append, components_ofSegments (by simp) (by simpa using segmentSlash),
            componentsOf, firstComponents, if_neg notCurrent, if_pos notEmpty]
          rfl

theorem components_of_splitLast?_eq_none {path : String} (none : splitLast? path = none) :
    components path = [] ∨ components path = [.root] := by
  unfold splitLast? at none
  cases parts : segments path with
  | nil => exact .inl (by rw [components_eq, parts, componentsOf])
  | cons first rest =>
    rw [parts] at none
    dsimp only at none
    split at none
    · cases none
    · rename_i stops
      have noneLater := filter_eq_nil_of_dropWhile stops
      split at none
      · rename_i empty
        rw [components_eq, parts, componentsOf, noneLater, empty]
        cases rest with
        | nil => exact .inl rfl
        | cons next others => exact .inr rfl
      · cases none

/-! ## File names -/

/-- A path without a file name does not end in a name. -/
theorem getLast?_components_ne {path : String} (none : fileStem? path = none) (name : String) :
    (components path).getLast? ≠ some (.normal name) := by
  rw [fileStem?, Option.map_eq_none_iff, fileName?] at none
  cases split : splitLast? path with
  | none => rcases components_of_splitLast?_eq_none split with same | same <;> simp [same]
  | some parts =>
    obtain ⟨before, last⟩ := parts
    obtain ⟨_, front, components, _⟩ := components_of_splitLast? split
    rw [split] at none
    dsimp only at none
    split at none
    · rename_i special
      rw [components, List.getLast?_concat]
      rcases Bool.or_eq_true_iff.mp special with parent | current
      · simp [lastComponent, Component.ofSegment, of_decide_eq_true parent]
      · simp [lastComponent, of_decide_eq_true current]
    · cases none

/-- Where a path names a file, another extension changes its last component only. -/
theorem components_of_fileStem? {path stem : String} (found : fileStem? path = some stem) :
    ∃ front name, fileName? path = some name ∧ (splitExtension name).1 = stem ∧
      components path = front ++ [.normal name] ∧
      ∀ extension : String, extension ≠ "" → (∀ char ∈ extension.toList, char ≠ '/' ∧ char ≠ '.') →
        components (withExtension path extension) =
          front ++ [.normal (stem ++ "." ++ extension)] := by
  obtain ⟨name, named, stemmed⟩ := Option.map_eq_some_iff.mp found
  have file := named
  unfold fileName? at named
  split at named
  · cases named
  rename_i before last split
  split at named
  · cases named
  rename_i notSpecial
  cases named
  obtain ⟨notParent, notCurrent⟩ : last ≠ ['.', '.'] ∧ last ≠ ['.'] := by
    simpa using notSpecial
  obtain ⟨lastSlash, front, components, replaced⟩ := components_of_splitLast? split
  refine ⟨front, String.ofList last, file, stemmed, ?_, fun extension nonempty plain => ?_⟩
  · rw [components, lastComponent, if_neg notCurrent, Component.ofSegment, if_neg notParent]
  · have stemSlash : '/' ∉ stem.toList := by
      intro slash
      apply lastSlash
      have chars := congrArg String.toList (eq_of_splitExtension (String.ofList last))
      rw [stemmed, String.toList_ofList, String.toList_append] at chars
      rw [chars]
      exact List.mem_append_left _ slash
    obtain ⟨char, charMember⟩ :=
      List.exists_mem_of_ne_nil _ (mt String.toList_eq_nil_iff.mp nonempty)
    have member : char ∈ (stem ++ "." ++ extension).toList := by
      rw [String.toList_append]
      exact List.mem_append_right _ charMember
    have noDots {dots : List Char} (all : ∀ dot ∈ dots, dot = '.') :
        (stem ++ "." ++ extension).toList ≠ dots := by
      rintro rfl
      exact (plain char charMember).2 (all char member)
    have noSlash : '/' ∉ (stem ++ "." ++ extension).toList := by
      simpa [stemSlash] using fun slash => (plain '/' slash).1 rfl
    have counts : isComponent (stem ++ "." ++ extension).toList = true := by
      simp only [isComponent, Bool.and_eq_true, bne_iff_ne]
      exact ⟨noDots (List.forall_mem_nil _), noDots (by simp)⟩
    rw [withExtension, found, split]
    dsimp only
    rw [replaced _ noSlash counts, Component.ofSegment, if_neg (noDots (by simp)),
      String.ofList_toList]

/-- The components of a path, with the stem in place of a file name. -/
def stemComponents (path : String) : List Component :=
  match fileStem? path with
  | some stem => (components path).dropLast ++ [.normal stem]
  | none => components path

section

variable {extension : String} (nonempty : extension ≠ "")
  (plain : ∀ char ∈ extension.toList, char ≠ '/' ∧ char ≠ '.')
include nonempty plain

/-- Paths with the same extension instead of their own are the same exactly if they were the same
without one. -/
theorem components_withExtension_eq_iff (left right : String) :
    components (withExtension left extension) = components (withExtension right extension) ↔
      stemComponents left = stemComponents right := by
  have replaced {path stem : String} (found : fileStem? path = some stem) :
      ∃ front, stemComponents path = front ++ [.normal stem] ∧
        components (withExtension path extension) =
          front ++ [.normal (stem ++ "." ++ extension)] := by
    obtain ⟨front, name, _, _, whole, replaced⟩ := components_of_fileStem? found
    exact ⟨front, by rw [stemComponents, found, whole]; simp, replaced extension nonempty plain⟩
  have kept {path : String} (none : fileStem? path = none) :
      stemComponents path = components path ∧ withExtension path extension = path := by
    simp [stemComponents, withExtension, none]
  have apart {path : String} (none : fileStem? path = none) (front : List Component)
      (name : String) : components path ≠ front ++ [.normal name] := by
    intro same
    exact getLast?_components_ne none name (by rw [same, List.getLast?_concat])
  cases leftFound : fileStem? left with
  | none =>
    obtain ⟨leftStem, leftKept⟩ := kept leftFound
    cases rightFound : fileStem? right with
    | none =>
      obtain ⟨rightStem, rightKept⟩ := kept rightFound
      rw [leftStem, leftKept, rightStem, rightKept]
    | some stem =>
      obtain ⟨front, rightStem, rightReplaced⟩ := replaced rightFound
      rw [leftStem, leftKept, rightStem, rightReplaced]
      exact iff_of_false (apart leftFound _ _) (apart leftFound _ _)
  | some stem =>
    obtain ⟨front, leftStem, leftReplaced⟩ := replaced leftFound
    cases rightFound : fileStem? right with
    | none =>
      obtain ⟨rightStem, rightKept⟩ := kept rightFound
      rw [leftStem, leftReplaced, rightStem, rightKept]
      exact iff_of_false (apart rightFound _ _).symm (apart rightFound _ _).symm
    | some other =>
      obtain ⟨otherFront, rightStem, rightReplaced⟩ := replaced rightFound
      have ends {leftName rightName : String} :
          front ++ [Component.normal leftName] = otherFront ++ [.normal rightName] ↔
            front = otherFront ∧ leftName = rightName := by
        constructor
        · intro same
          obtain ⟨fronts, names⟩ := List.append_inj' same rfl
          exact ⟨fronts, Component.normal.inj (List.singleton_inj.mp names)⟩
        · rintro ⟨rfl, rfl⟩
          rfl
      rw [leftStem, leftReplaced, rightStem, rightReplaced, ends, ends, String.append_assoc,
        String.append_assoc, String.append_left_inj]

/-- A path that has the extension keeps its components. -/
theorem components_withExtension_of_extension? {path : String}
    (found : extension? path = some extension) :
    components (withExtension path extension) = components path := by
  obtain ⟨name, named, extended⟩ := Option.bind_eq_some_iff.mp found
  have stemmed : fileStem? path = some (splitExtension name).1 := by rw [fileStem?, named]; rfl
  obtain ⟨front, other, otherNamed, _, whole, replaced⟩ := components_of_fileStem? stemmed
  obtain rfl : other = name := Option.some.inj (otherNamed.symm.trans named)
  rw [replaced extension nonempty plain, whole]
  have spelled := eq_of_splitExtension other
  rw [extended, Option.map_some, Option.getD_some, ← String.append_assoc] at spelled
  rw [← spelled]

end

end Path

/-! ## Documents -/

namespace Generator

/-- What the template of output paths is expanded to for the document of a table. -/
def expansion (generator : Generator) (table : Table) : String :=
  (generator.values table (Name.snakeCase table.name)).expand generator.template

/-- Whether no expansion is a directory when its table's turn comes. -/
def AvoidsDirectories (generator : Generator) : FileTree → List Table → Prop
  | _, [] => True
  | files, table :: rest =>
    files.isDirectory (generator.expansion table) = false ∧
      generator.AvoidsDirectories (generator.documentStep files table).files rest

def decideAvoidsDirectories (generator : Generator) : (files : FileTree) →
    (tables : List Table) → Decidable (generator.AvoidsDirectories files tables)
  | _, [] => .isTrue trivial
  | files, table :: rest =>
    have := generator.decideAvoidsDirectories (generator.documentStep files table).files rest
    inferInstanceAs (Decidable (_ ∧ _))

instance (generator : Generator) (files : FileTree) (tables : List Table) :
    Decidable (generator.AvoidsDirectories files tables) :=
  generator.decideAvoidsDirectories files tables

theorem result_documentStep {generator : Generator} {files : FileTree} {table : Table}
    (avoids : files.isDirectory (generator.expansion table) = false) {path : String}
    (done : (generator.documentStep files table).result = .ok path) :
    path = Path.withExtension (generator.expansion table) "json" := by
  have target : outputPath files (generator.values table (Name.snakeCase table.name))
      generator.template table.name "json" = generator.expansion table :=
    if_neg (Bool.eq_false_iff.mp avoids)
  unfold documentStep writeStep at done
  dsimp only at done
  rw [target] at done
  split at done
  · cases done
    rfl
  · cases done

theorem written_documents {generator : Generator} {files : FileTree} {tables : List Table}
    (avoids : generator.AvoidsDirectories files tables)
    (succeeds : (generator.documents files tables).failure = none) :
    (generator.documents files tables).written =
      tables.map fun table => Path.withExtension (generator.expansion table) "json" := by
  unfold documents at succeeds ⊢
  induction tables generalizing files with
  | nil => rfl
  | cons table rest induction =>
    obtain ⟨tableAvoids, restAvoids⟩ := avoids
    rw [forEach] at succeeds ⊢
    cases done : (generator.documentStep files table).result with
    | error failure => simp [done] at succeeds
    | ok path =>
      simp only [done] at succeeds ⊢
      rw [induction restAvoids succeeds, result_documentStep tableAvoids done, List.map_cons]

/-- A run over all tables that meets no directory on its way writes every document to the expansion
with the extension exchanged. Two documents share a path exactly if their expansions differ in
nothing but the extension; where all expansions have the extension already, they are the paths. -/
theorem documents_paths {generator : Generator} {files : FileTree} {tables : List Table}
    (avoids : generator.AvoidsDirectories files tables)
    (succeeds : (generator.documents files tables).failure = none) :
    let written := (generator.documents files tables).written
    let expansions := tables.map generator.expansion
    written = expansions.map (Path.withExtension · "json") ∧
      ((written.map Path.components).Nodup ↔ (expansions.map Path.stemComponents).Nodup) ∧
      ((∀ expansion ∈ expansions, Path.extension? expansion = some "json") →
        written.map Path.components = expansions.map Path.components) := by
  intro written expansions
  have paths : written = expansions.map (Path.withExtension · "json") := by
    rw [List.map_map]
    exact written_documents avoids succeeds
  have nonempty : "json" ≠ "" := by decide
  have plain : ∀ char ∈ "json".toList, char ≠ '/' ∧ char ≠ '.' := by simp
  refine ⟨paths, ?_, fun extended => ?_⟩
  · rw [paths, List.map_map]
    simp only [List.Nodup, List.pairwise_map, Function.comp_apply, ne_eq,
      Path.components_withExtension_eq_iff nonempty plain]
  · rw [paths, List.map_map]
    exact List.map_congr_left fun expansion member =>
      Path.components_withExtension_of_extension? nonempty plain (extended expansion member)

/-- Documents of three tables in a new directory; the names of two have dots. -/
theorem documents_paths_three :
    let generator : Generator :=
      { database := "Shop", template := "out/\x7bSchema\x7d.\x7bTable\x7d.json", types := .builtin
        formatter := .missing }
    let tables : List Table :=
      [{ schema := "dbo", name := "a.b" }, { schema := "dbo", name := "a.c" },
        { schema := "dbo", name := "a" }]
    let written := (generator.documents .empty tables).written
    generator.AvoidsDirectories .empty tables ∧
      (generator.documents .empty tables).failure = none ∧
      written = ["out/dbo.a.b.json", "out/dbo.a.c.json", "out/dbo.a.json"] ∧
      (written.map Path.components).Nodup := by
  intro generator tables written
  have avoids : generator.AvoidsDirectories .empty tables := by decide +kernel
  have succeeds : (generator.documents .empty tables).failure = none := by decide +kernel
  obtain ⟨paths, distinct, _⟩ := documents_paths avoids succeeds
  exact ⟨avoids, succeeds, paths.trans (by decide +kernel), distinct.mpr (by decide +kernel)⟩

/-- A template without an extension: what stands after the dot between schema and table is taken for
one, so the expansions are different and yet the documents of both tables go to the same path. -/
theorem documents_share_path :
    let generator : Generator :=
      { database := "", template := "\x7bSchema\x7d.\x7bTable\x7d", types := .builtin
        formatter := .missing }
    let tables : List Table := [{ schema := "dbo", name := "A" }, { schema := "dbo", name := "B" }]
    (tables.map generator.expansion).Nodup ∧ generator.AvoidsDirectories .empty tables ∧
      (generator.documents .empty tables).failure = none ∧
      (generator.documents .empty tables).written = ["dbo.json", "dbo.json"] := by
  decide +kernel

end Generator

end SqlSchema
