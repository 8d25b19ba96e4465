import SqlSchema.Entity.Source
import SqlSchema.Proofs.FieldNames
import SqlSchema.Proofs.KeyMarks

/-!
Entities as they are read back from their code. No name ends its literal early, runs into the token
after it or is taken for another, so entities with the same code agree in everything that the code
is made from.
-/

namespace SqlSchema

open CodeToken

/-! ## Identifiers -/

/-- A legal identifier is read back from code. -/
theorem Identifier.IsLegal.isPlain {identifier : String} (legal : IsLegal identifier) :
    (word identifier).isPlain = true := by
  rcases legal with ⟨keyword, member, _, rfl⟩ | ⟨_, chars, noDigit, char, member, _⟩
  · have plain : ∀ keyword ∈ reserved, (word ("r#" ++ keyword)).isPlain = true := by decide +kernel
    exact plain keyword member
  · obtain ⟨first, rest, spelled⟩ := List.exists_cons_of_ne_nil (List.ne_nil_of_mem member)
    have starts (char : Char) (member : char ∈ identifier.toList) : startsWord char = true := by
      rcases chars char member with alphanum | rfl
      · simp [startsWord, alphanum]
      · rfl
    have inWord : identifier.toList.all isWordChar = true := by
      refine List.all_eq_true.mpr fun char member => ?_
      simp [isWordChar, starts char member]
    have firstMember : first ∈ identifier.toList := by simp [spelled]
    have head : identifier.toList.head?.any startsWord = true := by
      simpa [spelled] using starts first firstMember
    exact Bool.and_eq_true_iff.mpr ⟨head, inWord⟩

/-! ## Runs of items -/

namespace CodeToken

/-- Lists up to their first `stop` are the same where the whole lists are. -/
theorem append_cons_inj {α : Type} {stop : α} {lefts rights leftRest rightRest : List α}
    (leftFree : stop ∉ lefts) (rightFree : stop ∉ rights)
    (same : lefts ++ stop :: leftRest = rights ++ stop :: rightRest) :
    lefts = rights ∧ leftRest = rightRest := by
  induction lefts generalizing rights with
  | nil =>
    cases rights with
    | nil => exact ⟨rfl, (List.cons.inj same).2⟩
    | cons right rights => exact absurd (List.cons.inj same).1 (List.ne_of_not_mem_cons rightFree)
  | cons left lefts induction =>
    cases rights with
    | nil => exact absurd (List.cons.inj same).1.symm (List.ne_of_not_mem_cons leftFree)
    | cons right rights =>
      obtain ⟨rfl, tail⟩ := List.cons.inj same
      obtain ⟨rfl, rest⟩ := induction (List.not_mem_of_not_mem_cons leftFree)
        (List.not_mem_of_not_mem_cons rightFree) tail
      exact ⟨rfl, rest⟩

/-- Runs of items that end at the same token are the same up to it, if no item begins with it and
every item is determined by its tokens. -/
theorem flatMap_append_inj {α β : Type} {tokensOf : α → List CodeToken} {value : α → β}
    {stop : CodeToken} {lefts rights : List α} {leftRest rightRest : List CodeToken}
    (begins : ∀ item, ∃ first ∈ (tokensOf item).head?, first ≠ stop)
    (step : ∀ left ∈ lefts, ∀ right ∈ rights, ∀ leftRest rightRest,
      tokensOf left ++ leftRest = tokensOf right ++ rightRest →
        value left = value right ∧ leftRest = rightRest)
    (same : lefts.flatMap tokensOf ++ stop :: leftRest =
      rights.flatMap tokensOf ++ stop :: rightRest) :
    lefts.map value = rights.map value ∧ leftRest = rightRest := by
  induction lefts generalizing rights with
  | nil =>
    cases rights with
    | nil => exact ⟨rfl, (List.cons.inj same).2⟩
    | cons right rights =>
      obtain ⟨first, head, different⟩ := begins right
      obtain ⟨rest, spelled⟩ := List.head?_eq_some_iff.mp head
      simp only [List.flatMap_cons, spelled] at same
      exact absurd (List.cons.inj same).1.symm different
  | cons left lefts induction =>
    cases rights with
    | nil =>
      obtain ⟨first, head, different⟩ := begins left
      obtain ⟨rest, spelled⟩ := List.head?_eq_some_iff.mp head
      simp only [List.flatMap_cons, spelled] at same
      exact absurd (List.cons.inj same).1 different
    | cons right rights =>
      simp only [List.flatMap_cons, List.append_assoc] at same
      obtain ⟨head, tail⟩ := step left List.mem_cons_self right List.mem_cons_self _ _ same
      obtain ⟨values, rest⟩ := induction
        (fun left leftMember right rightMember => step left (List.mem_cons_of_mem _ leftMember)
          right (List.mem_cons_of_mem _ rightMember)) tail
      exact ⟨by rw [List.map_cons, List.map_cons, head, values], rest⟩

end CodeToken

/-! ## Sequences of texts -/

/-- The tokens of a text in a sequence after the first. -/
def nextText (text : String) : List CodeToken :=
  operator "," ++ [quoted text]

theorem textSequence_nil_append (rest : List CodeToken) :
    textSequence [] ++ rest = operator "&" ++ [opening .bracket] ++ closing .bracket :: rest := by
  simp [textSequence, commaSeparated, brackets, group]

theorem textSequence_cons_append (text : String) (texts : List String) (rest : List CodeToken) :
    textSequence (text :: texts) ++ rest =
      operator "&" ++ [opening .bracket] ++
        quoted text :: (texts.flatMap nextText ++ closing .bracket :: rest) := by
  have separated (text : String) :
      (operator ",").intercalate ((text :: texts).map fun text => [quoted text]) =
        quoted text :: texts.flatMap nextText := by
    induction texts generalizing text with
    | nil => rfl
    | cons next texts induction =>
      have tail := induction next
      rw [List.map_cons] at tail
      rw [List.map_cons, List.map_cons, List.intercalate_cons_cons, tail]
      simp [nextText]
  rw [textSequence, commaSeparated, separated]
  simp [brackets, group]

/-- A sequence in code determines its texts and where it ends. -/
theorem textSequence_append_inj {lefts rights : List String} {leftRest rightRest : List CodeToken}
    (same : textSequence lefts ++ leftRest = textSequence rights ++ rightRest) :
    lefts = rights ∧ leftRest = rightRest := by
  cases lefts with
  | nil =>
    cases rights with
    | nil => exact ⟨rfl, List.append_cancel_left same⟩
    | cons right rights =>
      rw [textSequence_nil_append, textSequence_cons_append] at same
      cases (List.cons.inj (List.append_cancel_left same)).1
  | cons left lefts =>
    cases rights with
    | nil =>
      rw [textSequence_nil_append, textSequence_cons_append] at same
      cases (List.cons.inj (List.append_cancel_left same)).1
    | cons right rights =>
      rw [textSequence_cons_append, textSequence_cons_append] at same
      obtain ⟨head, tail⟩ := List.cons.inj (List.append_cancel_left same)
      have begins (text : String) : ∃ first ∈ (nextText text).head?, first ≠ closing .bracket :=
        ⟨mark ',' false, by simp [nextText, operator], nofun⟩
      have step (left right : String) (leftRest rightRest : List CodeToken)
          (same : nextText left ++ leftRest = nextText right ++ rightRest) :
          id left = id right ∧ leftRest = rightRest := by
        simp only [nextText, List.append_assoc] at same
        obtain ⟨text, rest⟩ := List.cons.inj (List.append_cancel_left same)
        exact ⟨quoted_injective text, rest⟩
      obtain ⟨values, rest⟩ := flatMap_append_inj begins
        (fun left _ right _ leftRest rightRest => step left right leftRest rightRest) tail
      rw [List.map_id, List.map_id] at values
      exact ⟨by rw [quoted_injective head, values], rest⟩

theorem areReadableAfterMark_textSequence_append (texts : List String) {rest : List CodeToken}
    (readable : areReadableAfterMark rest = true) :
    areReadableAfterMark (textSequence texts ++ rest) = true := by
  have more (texts : List String) :
      areReadable (texts.flatMap nextText ++ closing .bracket :: rest) = true := by
    induction texts with
    | nil => exact areReadable_cons_iff.mpr ⟨rfl, nofun, areReadable_of_afterMark readable⟩
    | cons text texts induction =>
      rw [List.flatMap_cons, nextText, List.append_assoc, List.append_assoc]
      exact areReadable_append (by decide +kernel) (areReadableAfterMark_quoted_cons induction)
  cases texts with
  | nil =>
    rw [textSequence_nil_append, List.append_cons]
    exact areReadableAfterMark_append (by decide +kernel) readable
  | cons text texts =>
    rw [textSequence_cons_append]
    exact areReadableAfterMark_append (by decide +kernel)
      (areReadableAfterMark_quoted_cons (more texts))

/-! ## Fields -/

namespace EntityField

/-- What the code of a field is made from. -/
def declaration (field : EntityField) : String × CodeType × String × String :=
  (field.name, field.type, field.columnName, field.description)

/-- The tokens of every field before its description. -/
def beforeDescription : List CodeToken :=
  operator "#" ++ [opening .bracket, word "doc"] ++ operator "="

/-- The tokens of every field between its description and the name of its column. -/
def beforeColumnName : List CodeToken :=
  closing .bracket :: operator "#" ++
    [opening .bracket, word "serde", opening .parenthesis, word "rename"] ++ operator "="

/-- The tokens of every field between the name of its column and its own. -/
def beforeName : List CodeToken :=
  [closing .parenthesis, closing .bracket, word "pub"]

theorem codeTokens_append (field : EntityField) (rest : List CodeToken) :
    field.codeTokens ++ rest =
      beforeDescription ++ quoted (" " ++ field.description) :: (beforeColumnName ++
        quoted field.columnName :: (beforeName ++
          word field.name :: (operator ":" ++ (field.type.tokens ++ (operator "," ++ rest))))) := by
  simp [codeTokens, beforeDescription, beforeColumnName, beforeName, brackets, parens, group]

/-- The code of a field determines what it is made from and where it ends. -/
theorem codeTokens_append_inj {left right : EntityField} {leftRest rightRest : List CodeToken}
    (leftComma : mark ',' false ∉ left.type.tokens)
    (rightComma : mark ',' false ∉ right.type.tokens)
    (same : left.codeTokens ++ leftRest = right.codeTokens ++ rightRest) :
    left.declaration = right.declaration ∧ leftRest = rightRest := by
  rw [codeTokens_append, codeTokens_append] at same
  obtain ⟨description, same⟩ := List.cons.inj (List.append_cancel_left same)
  obtain ⟨columnName, same⟩ := List.cons.inj (List.append_cancel_left same)
  obtain ⟨name, same⟩ := List.cons.inj (List.append_cancel_left same)
  have typed := List.append_cancel_left same
  have comma : operator "," = [mark ',' false] := by simp [operator]
  rw [comma, List.singleton_append, List.singleton_append] at typed
  obtain ⟨type, rest⟩ := append_cons_inj leftComma rightComma typed
  have names : left.name = right.name := word.inj name
  have types : left.type = right.type := congrArg CodeType.mk type
  have descriptions : left.description = right.description :=
    String.append_right_inj " " |>.mp (quoted_injective description)
  refine ⟨?_, rest⟩
  rw [declaration, declaration, names, types, quoted_injective columnName, descriptions]

theorem areReadableAfterMark_codeTokens_append {field : EntityField} {rest : List CodeToken}
    (plain : (word field.name).isPlain = true)
    (typed : areReadableAfterMark (field.type.tokens ++ [closing .brace]) = true)
    (readable : areReadableAfterMark rest = true) :
    areReadableAfterMark (field.codeTokens ++ rest) = true := by
  rw [codeTokens_append]
  have afterType : areReadableAfterMark (operator "," ++ rest) = true :=
    areReadableAfterMark_append (by decide +kernel) readable
  refine areReadableAfterMark_append (by decide +kernel) (areReadableAfterMark_quoted_cons ?_)
  refine areReadable_append (by decide +kernel) (areReadableAfterMark_quoted_cons ?_)
  refine areReadable_append (by decide +kernel) (areReadableAfterMark_word_cons plain ?_)
  exact areReadable_append (by decide +kernel) (areReadableAfterMark_append typed afterType)

end EntityField

/-! ## Entities -/

/-- The declaration of a public constant up to its value. -/
def constantStart (name : String) (type : List CodeToken) : List CodeToken :=
  [word "pub", word "const", word name] ++ operator ":" ++ type ++ operator "="

namespace Entity

/-- The code of every entity before its description. -/
def beforeDescription : List CodeToken :=
  [word "use", word "serde"] ++ operator "::"
    ++ braces (commaSeparated [[word "Deserialize"], [word "Serialize"]]) ++ operator ";"
    ++ operator "#" ++ [opening .bracket, word "doc"] ++ operator "="

/-- The code of every entity between its description and its name. -/
def beforeName : List CodeToken :=
  closing .bracket :: operator "#"
    ++ brackets (word "derive" :: parens (commaSeparated
      (["Debug", "Clone", "PartialEq", "Serialize", "Deserialize"].map fun name => [word name])))
    ++ [word "pub", word "struct"]

/-- The constants of an entity. -/
def constantTokens (entity : Entity) : List CodeToken :=
  constantStart "SCHEMA_NAME" staticText ++ quoted entity.schema ::
    (operator ";" ++ constantStart "TABLE_NAME" staticText ++ quoted entity.tableName ::
      (operator ";" ++ constantStart "PRIMARY_KEY" staticTexts ++
        (textSequence entity.primaryKey ++
          (operator ";" ++ constantStart "IDENTITY_COLUMN"
              (word "Option" :: operator "<" ++ staticText ++ operator ">") ++
            (entity.identityValue ++
              (operator ";" ++ constantStart "COMPUTED_COLUMNS" staticTexts ++
                (textSequence (entity.computedFields.map EntityField.columnName) ++
                  (operator ";" ++ [closing .brace]))))))))

theorem codeTokens_eq (entity : Entity) :
    entity.codeTokens =
      beforeDescription ++ quoted (" " ++ entity.description) :: (beforeName ++
        word entity.name :: opening .brace ::
          (entity.fields.flatMap EntityField.codeTokens ++ closing .brace :: word "impl" ::
            word entity.name :: opening .brace :: entity.constantTokens)) := by
  simp [codeTokens, beforeDescription, beforeName, constantTokens, constant, constantStart, braces,
    brackets, group]

/-- Whether two entities agree in everything that their code is made from. -/
structure Agree (left right : Entity) : Prop where
  name : left.name = right.name
  description : left.description = right.description
  schema : left.schema = right.schema
  tableName : left.tableName = right.tableName
  /-- The identifiers, types, columns and descriptions of the fields. -/
  fields : left.fields.map EntityField.declaration = right.fields.map EntityField.declaration
  primaryKey : left.primaryKey = right.primaryKey
  identityColumn :
    left.identityField?.map EntityField.columnName = right.identityField?.map EntityField.columnName
  computedColumns :
    left.computedFields.map EntityField.columnName = right.computedFields.map EntityField.columnName

theorem identityValue_append_inj {left right : Entity} {leftRest rightRest : List CodeToken}
    (same : left.identityValue ++ leftRest = right.identityValue ++ rightRest) :
    left.identityField?.map EntityField.columnName =
        right.identityField?.map EntityField.columnName ∧
      leftRest = rightRest := by
  rw [identityValue, identityValue] at same
  cases leftFound : left.identityField? with
  | none =>
    rw [leftFound] at same
    cases rightFound : right.identityField? with
    | none =>
      rw [rightFound] at same
      exact ⟨rfl, List.append_cancel_left same⟩
    | some rightField =>
      rw [rightFound] at same
      exact absurd (word.inj (List.cons.inj same).1) (by decide)
  | some leftField =>
    rw [leftFound] at same
    cases rightFound : right.identityField? with
    | none =>
      rw [rightFound] at same
      exact absurd (word.inj (List.cons.inj same).1) (by decide)
    | some rightField =>
      rw [rightFound] at same
      obtain ⟨_, same⟩ := List.cons.inj (List.cons.inj same).2
      obtain ⟨name, rest⟩ := List.cons.inj same
      exact ⟨congrArg some (quoted_injective name), List.append_cancel_left rest⟩

/-- The constants determine the names that they are made from. -/
theorem constantTokens_inj {left right : Entity}
    (same : left.constantTokens = right.constantTokens) :
    left.schema = right.schema ∧ left.tableName = right.tableName ∧
      left.primaryKey = right.primaryKey ∧
      left.identityField?.map EntityField.columnName =
        right.identityField?.map EntityField.columnName ∧
      left.computedFields.map EntityField.columnName =
        right.computedFields.map EntityField.columnName := by
  rw [constantTokens, constantTokens] at same
  obtain ⟨schema, same⟩ := List.cons.inj (List.append_cancel_left same)
  obtain ⟨tableName, same⟩ := List.cons.inj (List.append_cancel_left same)
  obtain ⟨primaryKey, same⟩ := textSequence_append_inj (List.append_cancel_left same)
  obtain ⟨identity, same⟩ := identityValue_append_inj (List.append_cancel_left same)
  obtain ⟨computed, -⟩ := textSequence_append_inj (List.append_cancel_left same)
  exact ⟨quoted_injective schema, quoted_injective tableName, primaryKey, identity, computed⟩

/-- Entities with the same tokens agree, if the types of their fields have no comma. -/
theorem agree_of_codeTokens_eq {left right : Entity}
    (leftTyped : ∀ field ∈ left.fields, mark ',' false ∉ field.type.tokens)
    (rightTyped : ∀ field ∈ right.fields, mark ',' false ∉ field.type.tokens)
    (same : left.codeTokens = right.codeTokens) : left.Agree right := by
  -- What all entities have in common is cancelled piece by piece from the front.
  rw [codeTokens_eq, codeTokens_eq] at same
  obtain ⟨description, same⟩ := List.cons.inj (List.append_cancel_left same)
  obtain ⟨name, same⟩ := List.cons.inj (List.append_cancel_left same)
  have begins (field : EntityField) :
      ∃ first ∈ field.codeTokens.head?, first ≠ closing .brace :=
    ⟨mark '#' false, by simp [EntityField.codeTokens, operator], nofun⟩
  obtain ⟨fields, same⟩ := flatMap_append_inj begins
    (fun left leftMember right rightMember _ _ same => EntityField.codeTokens_append_inj
      (leftTyped left leftMember) (rightTyped right rightMember) same) (List.cons.inj same).2
  have constants : left.constantTokens = right.constantTokens := by
    simp only [List.cons.injEq, true_and] at same
    exact same.2
  obtain ⟨schema, tableName, primaryKey, identity, computed⟩ := constantTokens_inj constants
  exact
    { name := word.inj name
      description := String.append_right_inj " " |>.mp (quoted_injective description)
      schema
      tableName
      fields
      primaryKey
      identityColumn := identity
      computedColumns := computed }

/-! ### Readable code -/

theorem areReadableAfterMark_identityValue_append (entity : Entity) {rest : List CodeToken}
    (readable : areReadableAfterMark rest = true) :
    areReadableAfterMark (entity.identityValue ++ rest) = true := by
  unfold identityValue
  split
  · rename_i field _
    have closed : areReadable (closing .parenthesis :: rest) = true :=
      areReadable_cons_iff.mpr ⟨rfl, nofun, areReadable_of_afterMark readable⟩
    show areReadableAfterMark ([word "Some", opening .parenthesis] ++
      quoted field.columnName :: closing .parenthesis :: rest) = true
    exact areReadableAfterMark_append (by decide +kernel) (areReadableAfterMark_quoted_cons closed)
  · exact areReadableAfterMark_append (by decide +kernel) readable

theorem areReadableAfterMark_constantTokens (entity : Entity) :
    areReadableAfterMark entity.constantTokens = true := by
  rw [constantTokens]
  refine areReadableAfterMark_append (by decide +kernel) (areReadableAfterMark_quoted_cons ?_)
  refine areReadable_append (by decide +kernel) (areReadableAfterMark_quoted_cons ?_)
  refine areReadable_append (by decide +kernel) ?_
  apply areReadableAfterMark_textSequence_append
  refine areReadableAfterMark_append (by decide +kernel) ?_
  apply areReadableAfterMark_identityValue_append
  refine areReadableAfterMark_append (by decide +kernel) ?_
  apply areReadableAfterMark_textSequence_append
  decide +kernel

theorem areReadable_codeTokens {entity : Entity} (plain : (word entity.name).isPlain = true)
    (fields : ∀ field ∈ entity.fields, (word field.name).isPlain = true ∧
      areReadableAfterMark (field.type.tokens ++ [closing .brace]) = true) :
    areReadable entity.codeTokens = true := by
  have implementation : areReadableAfterMark (closing .brace :: word "impl" :: word entity.name ::
      opening .brace :: entity.constantTokens) = true := by
    have constants := areReadable_of_afterMark (areReadableAfterMark_constantTokens entity)
    have braces : areReadable (opening .brace :: entity.constantTokens) = true :=
      areReadable_cons_iff.mpr ⟨rfl, nofun, constants⟩
    show areReadableAfterMark ([closing .brace, word "impl"] ++ word entity.name ::
      opening .brace :: entity.constantTokens) = true
    exact areReadableAfterMark_append (by decide +kernel)
      (areReadableAfterMark_word_cons plain braces)
  have afterName : areReadableAfterMark (entity.fields.flatMap EntityField.codeTokens ++
      closing .brace :: word "impl" :: word entity.name :: opening .brace ::
        entity.constantTokens) = true := by
    -- Every field is readable in front of what may stand after a comma, and stands there itself.
    generalize closing .brace :: _ = rest at implementation ⊢
    generalize entity.fields = items at fields
    induction items with
    | nil => exact implementation
    | cons field items induction =>
      obtain ⟨⟨fieldPlain, typed⟩, others⟩ := List.forall_mem_cons.mp fields
      rw [List.flatMap_cons, List.append_assoc]
      exact EntityField.areReadableAfterMark_codeTokens_append fieldPlain typed (induction others)
  rw [codeTokens_eq]
  refine areReadable_append (by decide +kernel) (areReadableAfterMark_quoted_cons ?_)
  refine areReadable_append (by decide +kernel) (areReadableAfterMark_word_cons plain ?_)
  exact areReadable_cons_iff.mpr ⟨rfl, nofun, areReadable_of_afterMark afterName⟩

/-! ### Entities of tables -/

theorem isReadBeforeComma_of_ofTable {table : Table} {entity : Entity}
    (built : ofTable .builtin table = .ok entity) :
    ∀ field ∈ entity.fields, TypeMap.IsReadBeforeComma field.type := by
  intro field member
  obtain ⟨index, bound, rfl⟩ := List.getElem_of_mem member
  obtain ⟨sameLength, fieldsOf⟩ := List.forall₂_iff_get.mp (eq_of_ofTable built).1
  have typed := (fieldsOf index bound (sameLength ▸ bound)).type
  obtain ⟨type, found, isRead⟩ :=
    TypeMap.exists_columnType_builtin (table.columns.get ⟨index, sameLength ▸ bound⟩)
  rw [typed] at found
  cases found
  exact isRead

/-- The text of the code of an entity determines what the code is made from. -/
theorem agree_of_layout_eq {leftTable rightTable : Table} {left right : Entity}
    (leftBuilt : ofTable .builtin leftTable = .ok left)
    (rightBuilt : ofTable .builtin rightTable = .ok right)
    (same : layout left.codeTokens = layout right.codeTokens) : left.Agree right := by
  have readable {table : Table} {entity : Entity} (built : ofTable .builtin table = .ok entity) :
      areReadable entity.codeTokens = true := by
    have legal := isLegal_of_ofTable built
    refine areReadable_codeTokens (legal _ List.mem_cons_self).isPlain fun field member => ?_
    have name : field.name ∈ entity.fields.map EntityField.name := List.mem_map_of_mem member
    have fieldLegal := legal _ (List.mem_cons_of_mem _ (List.mem_cons_of_mem _ name))
    exact ⟨fieldLegal.isPlain, (isReadBeforeComma_of_ofTable built field member).1⟩
  have tokens := eq_of_layout_eq (readable leftBuilt) (readable rightBuilt) same
  exact agree_of_codeTokens_eq
    (fun field member => (isReadBeforeComma_of_ofTable leftBuilt field member).2)
    (fun field member => (isReadBeforeComma_of_ofTable rightBuilt field member).2) tokens

end Entity

/-- Whether a formatter keeps different code of entities apart: it lays code out in another way and
leaves what the code says as it is. -/
def Formatter.KeepsApart (formatter : Formatter) : Prop :=
  ∀ leftTable rightTable left right, Entity.ofTable .builtin leftTable = .ok left →
    Entity.ofTable .builtin rightTable = .ok right →
    formatter.format (layout left.codeTokens) = formatter.format (layout right.codeTokens) →
      layout left.codeTokens = layout right.codeTokens

/-- Without a program the code stays as it is. -/
theorem Formatter.keepsApart_missing : missing.KeepsApart :=
  fun _ _ _ _ _ _ same => same

/-- The code after the header determines the entity: entities of tables with the same code agree in
everything that the code is made from, whatever characters their names contain. -/
theorem Entity.agree_of_source_eq {formatter : Formatter} (keepsApart : formatter.KeepsApart)
    {leftTable rightTable : Table} {left right : Entity} {code : String}
    (leftBuilt : ofTable .builtin leftTable = .ok left)
    (rightBuilt : ofTable .builtin rightTable = .ok right)
    (leftSource : (left.source formatter).text = left.header ++ code)
    (rightSource : (right.source formatter).text = right.header ++ code) : left.Agree right := by
  have leftCode : formatter.format (layout left.codeTokens) = code :=
    String.append_right_inj left.header |>.mp leftSource
  have rightCode : formatter.format (layout right.codeTokens) = code :=
    String.append_right_inj right.header |>.mp rightSource
  apply agree_of_layout_eq leftBuilt rightBuilt
  exact keepsApart _ _ _ _ leftBuilt rightBuilt (leftCode.trans rightCode.symm)

/-- Two tables that differ in the length of a text. Names end with a quote and with a backslash, a
zero character stands before a digit, and a name of the key looks like two. -/
theorem Entity.agree_of_source_eq_two :
    let table (length : UInt32) : Table :=
      { schema := "a\"", name := "T\\", primaryKey := .ofList ["x\", \"y", "z"]
        columns := [{ name := "x\x007", dataType := "CHAR", argument1 := some length }] }
    ∃ left right code, ofTable .builtin (table 1) = .ok left ∧
      ofTable .builtin (table 2) = .ok right ∧
      (left.source .missing).text = left.header ++ code ∧
      (right.source .missing).text = right.header ++ code ∧ left.Agree right := by
  intro table
  have isBuilt : (ofTable .builtin (table 1)).toOption.isSome = true := by decide +kernel
  have same : (ofTable .builtin (table 2)).toOption = (ofTable .builtin (table 1)).toOption := by
    decide +kernel
  obtain ⟨left, leftBuilt⟩ := Grammar.exists_of_isSome isBuilt
  rw [leftBuilt] at same
  have rightBuilt : ofTable .builtin (table 2) = .ok left := Grammar.toOption_eq_some.mp same
  exact ⟨left, left, layout left.codeTokens, leftBuilt, rightBuilt, rfl, rfl,
    agree_of_source_eq Formatter.keepsApart_missing leftBuilt rightBuilt rfl rfl⟩

end SqlSchema
