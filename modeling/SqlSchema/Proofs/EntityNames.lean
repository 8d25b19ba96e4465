import SqlSchema.Entity.Basic
import SqlSchema.Proofs.Name
import SqlSchema.Proofs.Reading

/-!
Identifiers of entities. An identifier says which candidate it was made from, so names that differ
in the case of the identifier have different identifiers. A candidate stays as it is, apart from
the mark of a raw identifier, unless it begins with a digit or is a keyword that cannot be raw.
-/

namespace SqlSchema

namespace Identifier

/-! ## Forms of identifiers -/

/-- The forms that the identifier of a candidate can have. -/
inductive IsFormOf (candidate : String) : String → Prop where
  | digit (begins : candidate.toList.head?.any Char.isDigit = true) :
    IsFormOf candidate ("_" ++ candidate)
  | path (keyword : candidate ∈ pathKeywords) : IsFormOf candidate (candidate ++ "_")
  | raw (keyword : candidate ∈ reserved) (noPath : candidate ∉ pathKeywords) :
    IsFormOf candidate ("r#" ++ candidate)
  | plain (noDigit : candidate.toList.head?.any Char.isDigit = false)
    (free : candidate ∉ reserved) : IsFormOf candidate candidate

theorem mem_reserved_of_mem_pathKeywords {word : String} (keyword : word ∈ pathKeywords) :
    word ∈ reserved :=
  List.mem_cons_of_mem "gen" (List.mem_append_left _ keyword)

/-- Reserved words begin neither with an underscore nor with a digit. -/
theorem head?_of_mem_reserved :
    ∀ word ∈ reserved,
      word.toList.head? ≠ some '_' ∧ word.toList.head?.any Char.isDigit = false := by
  decide +kernel

/-- Every candidate but the empty one has an identifier. -/
theorem exists_ofCandidate? {candidate : String} (nonempty : candidate ≠ "") :
    ∃ identifier, ofCandidate? candidate = some identifier := by
  apply Option.ne_none_iff_exists'.mp
  grind [ofCandidate?, String.isEmpty_iff]

theorem isFormOf_of_ofCandidate? {candidate identifier : String}
    (found : ofCandidate? candidate = some identifier) : IsFormOf candidate identifier := by
  unfold ofCandidate? at found
  split at found
  · cases found
  dsimp only at found
  by_cases begins : candidate.toList.head?.any Char.isDigit = true
  · have free : "_" ++ candidate ∉ reserved := by
      intro keyword
      simpa using (head?_of_mem_reserved _ keyword).1
    have noPath : "_" ++ candidate ∉ pathKeywords :=
      fun keyword => free (mem_reserved_of_mem_pathKeywords keyword)
    simp only [begins, if_true, List.contains_iff_mem, noPath, free, if_false] at found
    cases found
    exact .digit begins
  · simp only [begins, Bool.false_eq_true, if_false, List.contains_iff_mem] at found
    split at found
    · rename_i keyword
      cases found
      exact .path keyword
    split at found
    · rename_i noPath keyword
      cases found
      exact .raw keyword noPath
    · rename_i _ free
      cases found
      exact .plain (by simpa using begins) free

/-! ## Raw identifiers -/

/-- An identifier without the mark of a raw one. -/
def unraw (identifier : String) : String :=
  match identifier.toList with
  | 'r' :: '#' :: rest => String.ofList rest
  | _ => identifier

example : ["r#type", "self_", "r"].map unraw = ["type", "self_", "r"] := by decide +kernel

theorem unraw_raw (word : String) : unraw ("r#" ++ word) = word := by
  simp [unraw]

theorem unraw_of_not_mem {word : String} (noMark : '#' ∉ word.toList) : unraw word = word := by
  unfold unraw
  split
  · rename_i rest spelled
    exact absurd (by simp [spelled]) noMark
  · rfl

theorem hash_not_mem {candidate : String} (joined : Name.IsJoined candidate.toList) :
    '#' ∉ candidate.toList := by
  intro member
  rcases joined.plain '#' member with alphanum | underscore
  · cases alphanum
  · cases underscore

/-- Without the mark of a raw identifier, the candidate itself stands in the code unless it begins
with a digit or is a keyword that cannot be raw. -/
theorem unraw_eq_iff {candidate identifier : String} (joined : Name.IsJoined candidate.toList)
    (found : ofCandidate? candidate = some identifier) :
    unraw identifier = candidate ↔
      candidate.toList.head?.any Char.isDigit = false ∧ candidate ∉ pathKeywords := by
  have noMark := hash_not_mem joined
  cases isFormOf_of_ofCandidate? found with
  | digit begins =>
    rw [unraw_of_not_mem (by simpa using noMark)]
    simp [begins, String.ext_iff]
  | path keyword =>
    rw [unraw_of_not_mem (by simpa using noMark)]
    simp [keyword, String.ext_iff]
  | raw keyword noPath =>
    exact iff_of_true (unraw_raw candidate)
      ⟨(head?_of_mem_reserved candidate keyword).2, noPath⟩
  | plain noDigit free =>
    exact iff_of_true (unraw_of_not_mem noMark)
      ⟨noDigit, fun keyword => free (mem_reserved_of_mem_pathKeywords keyword)⟩

/-! ## Candidates -/

/-- A text without the underscores at its ends. -/
def trimUnderscores (chars : List Char) : List Char :=
  (chars.dropWhile (· == '_')).rdropWhile (· == '_')

theorem trimUnderscores_underscore (chars : List Char) :
    trimUnderscores ('_' :: chars) = trimUnderscores chars := by
  simp [trimUnderscores]

section

variable {chars : List Char} (joined : Name.IsJoined chars)
include joined

theorem dropWhile_underscore : chars.dropWhile (· == '_') = chars := by
  cases chars with
  | nil => rfl
  | cons first rest =>
    have different : first ≠ '_' := by simpa using joined.head?_ne
    rw [List.dropWhile_cons_of_neg (by simpa using different)]

theorem rdropWhile_underscore : chars.rdropWhile (· == '_') = chars := by
  rw [List.rdropWhile_eq_self_iff]
  intro nonempty
  have last := joined.getLast?_ne
  rw [List.getLast?_eq_some_getLast nonempty] at last
  simpa using last

theorem trimUnderscores_of_isJoined : trimUnderscores chars = chars := by
  rw [trimUnderscores, dropWhile_underscore joined, rdropWhile_underscore joined]

theorem trimUnderscores_append : trimUnderscores (chars ++ ['_']) = chars := by
  have trimmed := dropWhile_underscore joined
  cases chars with
  | nil => rfl
  | cons first rest =>
    have different : first ≠ '_' := by simpa using joined.head?_ne
    rw [trimUnderscores, List.cons_append, List.dropWhile_cons_of_neg (by simpa using different),
      ← List.cons_append, List.rdropWhile_concat_pos _ _ _ rfl, rdropWhile_underscore joined]

end

/-- The candidate that an identifier was made from. -/
def source (identifier : String) : String :=
  String.ofList (trimUnderscores (unraw identifier).toList)

theorem source_eq {candidate identifier : String} (joined : Name.IsJoined candidate.toList)
    (found : ofCandidate? candidate = some identifier) : source identifier = candidate := by
  have noMark := hash_not_mem joined
  unfold source
  cases isFormOf_of_ofCandidate? found with
  | digit begins =>
    rw [unraw_of_not_mem (by simpa using noMark), String.toList_append]
    simp [trimUnderscores_underscore, trimUnderscores_of_isJoined joined]
  | path keyword =>
    rw [unraw_of_not_mem (by simpa using noMark), String.toList_append]
    simp [trimUnderscores_append joined]
  | raw keyword noPath =>
    rw [unraw_raw, trimUnderscores_of_isJoined joined, String.ofList_toList]
  | plain noDigit free =>
    rw [unraw_of_not_mem noMark, trimUnderscores_of_isJoined joined, String.ofList_toList]

/-- Identifiers repeat exactly if the candidates that they were made from do. -/
theorem nodup_iff {candidates identifiers : List String}
    (joined : ∀ candidate ∈ candidates, Name.IsJoined candidate.toList)
    (found : List.Forall₂ (fun candidate identifier => ofCandidate? candidate = some identifier)
      candidates identifiers) :
    identifiers.Nodup ↔ candidates.Nodup := by
  -- Each list is the other one under a function: identifiers are made, candidates are found again.
  have made : candidates.map ofCandidate? = identifiers.map some := by
    induction found with
    | nil => rfl
    | cons head _ induction =>
      rw [List.map_cons, List.map_cons, head,
        induction fun other member => joined other (List.mem_cons_of_mem _ member)]
  have recovered : identifiers.map source = candidates := by
    induction found with
    | nil => rfl
    | cons head _ induction =>
      obtain ⟨headJoined, tailJoined⟩ := List.forall_mem_cons.mp joined
      rw [List.map_cons, source_eq headJoined head, induction tailJoined (List.cons.inj made).2]
  constructor
  · intro distinct
    exact (made ▸ distinct.map (Option.some_injective String)).of_map ofCandidate?
  · intro distinct
    exact (recovered ▸ distinct).of_map source

end Identifier

/-! ## Names of an entity -/

/-- Whether the names of an entity are made from those of a table. -/
structure Entity.IsNamedAfter (table : Table) (entity : Entity) : Prop where
  schema : entity.schema = table.schema
  tableName : entity.tableName = table.name
  moduleName : entity.moduleName = Name.snakeCase table.name
  module : Identifier.ofCandidate? (Name.snakeCase table.name) = some entity.module
  name : Identifier.ofCandidate? (Name.pascalCase table.name) = some entity.name

theorem Entity.isNamedAfter_of_ofTable {types : TypeMap} {table : Table} {entity : Entity}
    (built : ofTable types table = .ok entity) : entity.IsNamedAfter table := by
  obtain ⟨fields, _, rest⟩ := Grammar.bind_eq_ok.mp built
  unfold withFields? at rest
  dsimp only at rest
  split at rest
  · rename_i name module
    cases rest
    exact ⟨rfl, rfl, rfl, module, name⟩
  · cases rest

end SqlSchema
