import SqlSchema.Proofs.BuiltinTypes
import SqlSchema.Proofs.EntityNames

/-!
Identifiers of fields and the tables that have an entity. A field takes the first numbered variant
of its name that no field before it has; there always is one, because variants have different
identifiers and are more than the fields. So a table fails to have an entity only through a name
without a letter or digit.
-/

namespace SqlSchema

namespace Identifier

/-! ## Legal identifiers -/

/-- Whether code can use `identifier` as a name: it is a keyword written raw that may be written so,
or a word that is no keyword, does not begin with a digit and has more than underscores. -/
def IsLegal (identifier : String) : Prop :=
  (∃ word ∈ reserved, word ∉ pathKeywords ∧ identifier = "r#" ++ word) ∨
    (identifier ∉ reserved ∧
      (∀ char ∈ identifier.toList, char.isAlphanum = true ∨ char = '_') ∧
      identifier.toList.head?.any Char.isDigit = false ∧ ∃ char ∈ identifier.toList, char ≠ '_')

instance (identifier : String) : Decidable (IsLegal identifier) :=
  inferInstanceAs (Decidable (_ ∨ _))

/-- The identifier of a candidate that is made of words is legal. -/
theorem isLegal_of_ofCandidate? {candidate identifier : String}
    (joined : Name.IsJoined candidate.toList) (found : ofCandidate? candidate = some identifier) :
    IsLegal identifier := by
  have nonempty : candidate.toList ≠ [] := by
    intro empty
    rw [String.toList_eq_nil_iff.mp empty] at found
    cases found
  obtain ⟨first, rest, spelled⟩ := List.exists_cons_of_ne_nil nonempty
  have member : first ∈ candidate.toList := by simp [spelled]
  have different : first ≠ '_' := by simpa [spelled] using joined.head?_ne
  cases isFormOf_of_ofCandidate? found with
  | digit begins =>
    refine .inr ⟨?_, ?_, by rw [String.toList_append]; rfl, first, by simp [member], different⟩
    · intro keyword
      simpa using (head?_of_mem_reserved _ keyword).1
    · intro char charMember
      rw [String.toList_append] at charMember
      rcases List.mem_append.mp charMember with charMember | charMember
      · exact .inr (List.mem_singleton.mp charMember)
      · exact joined.plain char charMember
  | path keyword =>
    have free : ∀ word ∈ pathKeywords, word ++ "_" ∉ reserved := by decide +kernel
    have noDigit := (head?_of_mem_reserved candidate (mem_reserved_of_mem_pathKeywords keyword)).2
    refine .inr ⟨free candidate keyword, ?_, ?_, first, by simp [member], different⟩
    · intro char charMember
      rw [String.toList_append] at charMember
      rcases List.mem_append.mp charMember with charMember | charMember
      · exact joined.plain char charMember
      · exact .inr (List.mem_singleton.mp charMember)
    · rw [String.toList_append, spelled] at *
      exact noDigit
  | raw keyword noPath => exact .inl ⟨candidate, keyword, noPath, rfl⟩
  | plain noDigit free => exact .inr ⟨free, joined.plain, noDigit, first, member, different⟩

end Identifier

namespace Entity

/-! ## Variants of a name -/

/-- A name and its numbered variants. The name itself counts as the first. -/
def variant (base : String) : Nat → String
  | 0 => base
  | index + 1 => base ++ "_" ++ toString (index + 2)

theorem candidates_eq_map_variant (base : String) (count : Nat) :
    candidates base count = (List.range (count + 1)).map (variant base) := by
  rw [candidates, List.range_succ_eq_map, List.map_cons, List.map_map]
  rfl

theorem variant_injective (base : String) : Function.Injective (variant base) := by
  have longer (index : Nat) : base ≠ base ++ "_" ++ toString (index + 2) := by
    intro same
    have length := congrArg String.length same
    simp only [String.length_append] at length
    have mark : "_".length = 1 := rfl
    omega
  intro left right same
  cases left with
  | zero =>
    cases right with
    | zero => rfl
    | succ right => exact absurd same (longer right)
  | succ left =>
    cases right with
    | zero => exact absurd same.symm (longer left)
    | succ right =>
      have numbers : toString (left + 2) = toString (right + 2) :=
        String.append_right_inj _ |>.mp same
      have equal : left + 2 = right + 2 := Nat.repr_injective numbers
      omega

section

variable {base : String} (nonempty : base ≠ "")
include nonempty

theorem variant_ne_empty (index : Nat) : variant base index ≠ "" := by
  cases index with
  | zero => exact nonempty
  | succ index =>
    intro empty
    have chars := congrArg String.toList empty
    simp [variant] at chars

variable (joined : Name.IsJoined base.toList)
include joined

/-- A number at the end leaves a name made of words. -/
theorem isJoined_variant (index : Nat) : Name.IsJoined (variant base index).toList := by
  cases index with
  | zero => exact joined
  | succ index =>
    have number : Name.IsJoined (toString (index + 2)).toList := by
      apply Name.isJoined_of_isAlphanum
      intro char member
      rw [Nat.toString_eq_ofList_toDigits, String.toList_ofList] at member
      have isDigit := Nat.isDigit_of_mem_toDigits (by decide) (by decide) member
      simp [Char.isAlphanum, isDigit]
    obtain ⟨first, rest, spelled⟩ :=
      List.exists_cons_of_ne_nil (mt String.toList_eq_nil_iff.mp nonempty)
    obtain ⟨digit, digits, numberSpelled⟩ :
        ∃ digit digits, (toString (index + 2)).toList = digit :: digits := by
      rw [Nat.toString_eq_ofList_toDigits, String.toList_ofList]
      exact List.exists_cons_of_ne_nil Nat.toDigits_ne_nil
    have chars : (variant base (index + 1)).toList =
        base.toList ++ ['_'] ++ (toString (index + 2)).toList := by
      rw [variant, String.toList_append, String.toList_append]
      rfl
    rw [chars]
    refine ⟨?_, ?_, ?_⟩
    · intro char member
      rcases List.mem_append.mp member with member | member
      · rcases List.mem_append.mp member with member | member
        · exact joined.plain char member
        · exact .inr (List.mem_singleton.mp member)
      · exact number.plain char member
    · have head := joined.head?_ne
      rw [spelled] at head ⊢
      exact head
    · have last := number.getLast?_ne
      rw [numberSpelled] at last ⊢
      rwa [List.getLast?_append_cons]

/-- Different variants have different identifiers. -/
theorem eq_of_identifier_eq {left right : Nat} {identifier : String}
    (leftFound : Identifier.ofCandidate? (variant base left) = some identifier)
    (rightFound : Identifier.ofCandidate? (variant base right) = some identifier) :
    left = right := by
  have leftSource := Identifier.source_eq (isJoined_variant nonempty joined left) leftFound
  have rightSource := Identifier.source_eq (isJoined_variant nonempty joined right) rightFound
  exact variant_injective base (leftSource.symm.trans rightSource)

end

/-! ## First free identifiers -/

/-- Whether `identifier` is that of the first variant of a name whose identifier is not used: the
search goes through as many variants as it takes. -/
def IsFirstFree (used : List String) (base identifier : String) : Prop :=
  ∃ index, Identifier.ofCandidate? (variant base index) = some identifier ∧ identifier ∉ used ∧
    ∀ earlier < index, ∃ other ∈ used,
      Identifier.ofCandidate? (variant base earlier) = some other

/-- One of the variants is always free, since they are more than the used identifiers. -/
theorem exists_freshIdentifier {base : String} (nonempty : base ≠ "")
    (joined : Name.IsJoined base.toList) (used : List String) :
    ∃ identifier, freshIdentifier? used base = some identifier ∧
      IsFirstFree used base identifier := by
  have exists_identifier (index : Nat) :=
    Identifier.exists_ofCandidate? (variant_ne_empty nonempty index)
  choose identifierOf found using exists_identifier
  have injective : Function.Injective identifierOf := fun left right same =>
    eq_of_identifier_eq nonempty joined (same ▸ found left) (found right)
  -- The search is one through the numbers, since every variant has an identifier.
  have search : freshIdentifier? used base =
      ((List.range (used.length + 1)).find?
        fun index => !used.contains (identifierOf index)).map identifierOf := by
    have identifiers : (Identifier.ofCandidate? ∘ variant base) = some ∘ identifierOf :=
      funext found
    rw [freshIdentifier?, if_neg (by simpa using nonempty), candidates_eq_map_variant,
      List.filterMap_map, identifiers, List.filterMap_eq_map, List.find?_map]
    rfl
  cases first : (List.range (used.length + 1)).find?
      fun index => !used.contains (identifierOf index) with
  | some index =>
    obtain ⟨free, _, before⟩ := List.find?_range_eq_some.mp first
    refine ⟨identifierOf index, by rw [search, first, Option.map_some], index, found index, ?_, ?_⟩
    · simpa using free
    · intro earlier less
      exact ⟨identifierOf earlier, by simpa using before earlier less, found earlier⟩
  | none =>
    -- Otherwise all of them are used, but they are one more than the used identifiers.
    have allUsed : (List.range (used.length + 1)).map identifierOf ⊆ used := by
      intro identifier member
      obtain ⟨index, indexMember, rfl⟩ := List.mem_map.mp member
      simpa using List.find?_eq_none.mp first index indexMember
    have fits := List.Nodup.length_le_of_subset (List.nodup_range.map injective) allUsed
    rw [List.length_map, List.length_range] at fits
    omega

/-- Every identifier that the search finds is legal. -/
theorem isLegal_of_freshIdentifier? {used : List String} {base identifier : String}
    (fresh : freshIdentifier? used base = some identifier) (joined : Name.IsJoined base.toList) :
    Identifier.IsLegal identifier := by
  unfold freshIdentifier? at fresh
  split at fresh
  · cases fresh
  rename_i notEmpty
  have nonempty : base ≠ "" := by simpa using notEmpty
  obtain ⟨candidate, member, found⟩ := List.mem_filterMap.mp (List.mem_of_find?_eq_some fresh)
  rw [candidates_eq_map_variant] at member
  obtain ⟨index, _, rfl⟩ := List.mem_map.mp member
  exact Identifier.isLegal_of_ofCandidate? (isJoined_variant nonempty joined index) found

/-! ## Fields -/

/-- Whether every field has the first identifier for its column's name that neither is in `used` nor
belongs to a field before it. -/
def AreFirstFree (used : List String) : List EntityField → Prop
  | [] => True
  | field :: rest =>
    IsFirstFree used (Name.snakeCase field.columnName) field.name ∧
      AreFirstFree (field.name :: used) rest

theorem AreFirstFree.nodup {used : List String} {fields : List EntityField}
    (first : AreFirstFree used fields) :
    (fields.map EntityField.name).Nodup ∧ ∀ field ∈ fields, field.name ∉ used := by
  induction fields generalizing used with
  | nil => exact ⟨List.nodup_nil, nofun⟩
  | cons field rest induction =>
    obtain ⟨⟨_, _, free, _⟩, restFirst⟩ := first
    obtain ⟨restDistinct, restFree⟩ := induction restFirst
    refine ⟨List.nodup_cons.mpr ⟨?_, restDistinct⟩, List.forall_mem_cons.mpr ⟨free, ?_⟩⟩
    · intro member
      obtain ⟨other, otherMember, same⟩ := List.mem_map.mp member
      exact restFree other otherMember (same ▸ List.mem_cons_self)
    · intro other otherMember otherUsed
      exact restFree other otherMember (List.mem_cons_of_mem _ otherUsed)

theorem isLegal_of_fieldsOf {types : TypeMap} {used : List String} {columns : List Column}
    {fields : List EntityField} (built : (fieldsOf types used columns).1 = .ok fields) :
    ∀ field ∈ fields, Identifier.IsLegal field.name := by
  induction columns generalizing used fields with
  | nil =>
    cases built
    exact nofun
  | cons column columns induction =>
    unfold fieldsOf at built
    split at built
    · cases built
    rename_i name fresh
    split at built
    · cases built
    obtain ⟨rest, restBuilt, rfl⟩ := Grammar.map_eq_ok.mp built
    exact List.forall_mem_cons.mpr
      ⟨isLegal_of_freshIdentifier? fresh (Name.isJoined_snakeCase _), induction restBuilt⟩

/-- The fields of columns exist unless a column's name has no letter and no digit; the first such
name is reported. -/
theorem fieldsOf_builtin (used : List String) (columns : List Column) :
    match (columns.map Column.name).find? (!Name.hasLetterOrDigit ·) with
    | some name => (fieldsOf .builtin used columns).1 = .error (.invalidIdentifier name)
    | none => ∃ fields, (fieldsOf .builtin used columns).1 = .ok fields ∧
        fields.map EntityField.columnName = columns.map Column.name ∧
        AreFirstFree used fields := by
  induction columns generalizing used with
  | nil => exact ⟨[], rfl, rfl, trivial⟩
  | cons column columns induction =>
    rw [List.map_cons, List.find?_cons, fieldsOf]
    cases named : Name.hasLetterOrDigit column.name with
    | false =>
      have empty := (Name.snakeCase_eq_empty_iff column.name).mpr named
      simp [freshIdentifier?, empty]
    | true =>
      have nonempty : Name.snakeCase column.name ≠ "" := by
        simp [Name.snakeCase_eq_empty_iff, named]
      obtain ⟨identifier, fresh, first⟩ :=
        exists_freshIdentifier nonempty (Name.isJoined_snakeCase column.name) used
      obtain ⟨type, typed, _⟩ := TypeMap.exists_columnType_builtin column
      have rest := induction (identifier :: used)
      simp only [fresh, typed, Bool.not_true]
      cases offending : (columns.map Column.name).find? (!Name.hasLetterOrDigit ·) with
      | some name =>
        rw [offending] at rest
        simp only [rest]
        rfl
      | none =>
        rw [offending] at rest
        obtain ⟨fields, built, names, restFirst⟩ := rest
        refine ⟨field identifier type column :: fields, ?_, ?_, first, restFirst⟩
        · simp only [built]
          rfl
        · rw [List.map_cons, names]
          rfl

/-! ## Tables -/

/-- All identifiers of an entity are legal. -/
theorem isLegal_of_ofTable {types : TypeMap} {table : Table} {entity : Entity}
    (built : ofTable types table = .ok entity) :
    ∀ identifier ∈ entity.name :: entity.module :: entity.fields.map EntityField.name,
      Identifier.IsLegal identifier := by
  have names := isNamedAfter_of_ofTable built
  have fieldsLegal : ∀ field ∈ entity.fields, Identifier.IsLegal field.name := by
    obtain ⟨fields, fieldsBuilt, rest⟩ := Grammar.bind_eq_ok.mp built
    unfold withFields? at rest
    dsimp only at rest
    split at rest
    · cases rest
      exact isLegal_of_fieldsOf fieldsBuilt
    · cases rest
  intro identifier member
  rcases List.mem_cons.mp member with rfl | member
  · exact Identifier.isLegal_of_ofCandidate? (Name.isJoined_pascalCase table.name) names.name
  rcases List.mem_cons.mp member with rfl | member
  · exact Identifier.isLegal_of_ofCandidate? (Name.isJoined_snakeCase table.name) names.module
  · obtain ⟨field, fieldMember, rfl⟩ := List.mem_map.mp member
    exact fieldsLegal field fieldMember

/-- With the built-in types a table has an entity unless the name of a column or of the table has no
letter and no digit; the first such name is reported, a column's before the table's. The entity has
a field for every column, in order, with different identifiers, and all of its identifiers are
legal. -/
theorem ofTable_builtin (table : Table) :
    match (table.columns.map Column.name ++ [table.name]).find? (!Name.hasLetterOrDigit ·) with
    | some name => ofTable .builtin table = .error (.invalidIdentifier name)
    | none => ∃ entity, ofTable .builtin table = .ok entity ∧
        entity.fields.map EntityField.columnName = table.columns.map Column.name ∧
        AreFirstFree [] entity.fields ∧
        (entity.fields.map EntityField.name).Nodup ∧
        ∀ identifier ∈ entity.name :: entity.module :: entity.fields.map EntityField.name,
          Identifier.IsLegal identifier := by
  have columns := fieldsOf_builtin [] table.columns
  rw [List.find?_append]
  cases offending : (table.columns.map Column.name).find? (!Name.hasLetterOrDigit ·) with
  | some name =>
    rw [offending] at columns
    simp only [Option.some_or, ofTable, build, columns]
    rfl
  | none =>
    rw [offending] at columns
    obtain ⟨fields, built, names, first⟩ := columns
    rw [Option.none_or, List.find?_cons]
    have build : ofTable .builtin table = withFields? table fields := by
      simp only [ofTable, build, built]
      rfl
    cases named : Name.hasLetterOrDigit table.name with
    | false =>
      have empty := (Name.snakeCase_eq_empty_iff table.name).mpr named
      simp only [Bool.not_false]
      rw [build, withFields?, empty]
      simp [Identifier.ofCandidate?]
    | true =>
      have moduleNonempty : Name.snakeCase table.name ≠ "" := by
        simp [Name.snakeCase_eq_empty_iff, named]
      have nameNonempty : Name.pascalCase table.name ≠ "" := by
        simp [Name.pascalCase_eq_empty_iff, named]
      obtain ⟨module, moduleFound⟩ := Identifier.exists_ofCandidate? moduleNonempty
      obtain ⟨name, nameFound⟩ := Identifier.exists_ofCandidate? nameNonempty
      obtain ⟨entity, entityBuilt, entityFields⟩ :
          ∃ entity, ofTable .builtin table = .ok entity ∧ entity.fields = fields := by
        rw [build, withFields?]
        simp only [nameFound, moduleFound]
        exact ⟨_, rfl, rfl⟩
      subst entityFields
      exact ⟨entity, entityBuilt, names, first, first.nodup.1, isLegal_of_ofTable entityBuilt⟩

end Entity

end SqlSchema
