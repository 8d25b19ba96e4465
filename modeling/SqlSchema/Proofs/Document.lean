import SqlSchema.Proofs.Key
import SqlSchema.Table.Document

/-!
Documents read back. What a document leaves out is what reading puts in its place, with one
exception: an argument of a data type that is 0 is left out like any other 0, and an argument that
is not there is read as none.
-/

namespace SqlSchema

namespace JsonValue

variable {fields : List (String × JsonValue)}

/-! ## Fields of an object -/

theorem field?_cons (name : String) (value : JsonValue) (rest : List (String × JsonValue))
    (key : String) :
    field? ((name, value) :: rest) key = if name = key then some value else field? rest key := by
  by_cases same : name = key <;> simp [field?, same]

theorem field?_eq_none {key : String} (absent : key ∉ fields.map Prod.fst) :
    field? fields key = none := by
  induction fields with
  | nil => rfl
  | cons field rest induction =>
    simp only [List.map_cons, List.mem_cons, not_or] at absent
    rw [field?_cons, if_neg (Ne.symm absent.1), induction absent.2]

/-- The order of fields does not matter where each key stands once. -/
theorem field?_of_perm {left right : List (String × JsonValue)} (perm : left.Perm right)
    (distinct : (left.map Prod.fst).Nodup) (key : String) : field? left key = field? right key := by
  induction perm with
  | nil => rfl
  | cons field _ induction =>
    rw [field?_cons, field?_cons, induction (List.nodup_cons.mp distinct).2]
  | swap first second rest =>
    have fresh : second.1 ∉ (first :: rest).map Prod.fst := (List.nodup_cons.mp distinct).1
    have different : second.1 ≠ first.1 := by
      intro same
      exact fresh (same ▸ List.mem_cons_self)
    rw [field?_cons, field?_cons, field?_cons, field?_cons]
    by_cases isFirst : first.1 = key
    · rw [if_pos isFirst, if_pos isFirst, if_neg (isFirst ▸ different)]
    · rw [if_neg isFirst, if_neg isFirst]
  | trans perm _ first second =>
    exact (first distinct).trans (second ((perm.map Prod.fst).nodup_iff.mp distinct))

theorem keys_fieldsWithoutDefaults (fields : List (String × JsonValue)) :
    ((fieldsWithoutDefaults fields).map Prod.fst).Sublist (fields.map Prod.fst) := by
  induction fields with
  | nil => exact List.Sublist.slnil
  | cons field rest induction =>
    unfold fieldsWithoutDefaults
    split
    · exact induction.cons _
    · exact induction.cons_cons _

theorem field?_fieldsWithoutDefaults (distinct : (fields.map Prod.fst).Nodup) (key : String) :
    field? (fieldsWithoutDefaults fields) key =
      ((field? fields key).filter fun value => !isDefault key value).map withoutDefaults := by
  induction fields with
  | nil => rfl
  | cons field rest induction =>
    rcases field with ⟨name, value⟩
    rcases List.nodup_cons.mp distinct with ⟨fresh, distinct⟩
    have others := induction distinct
    rw [field?_cons]
    unfold fieldsWithoutDefaults
    by_cases same : name = key
    · subst same
      rw [field?_eq_none fresh] at others
      cases default : isDefault name value <;>
        simp [Option.filter_some, default, field?_cons, others]
    · cases default : isDefault name value <;> simp [field?_cons, same, others]

theorem fieldsWithoutDefaults_append (front rest : List (String × JsonValue)) :
    fieldsWithoutDefaults (front ++ rest) =
      fieldsWithoutDefaults front ++ fieldsWithoutDefaults rest := by
  induction front with
  | nil => rfl
  | cons field front induction =>
    rw [List.cons_append, fieldsWithoutDefaults, fieldsWithoutDefaults, induction]
    split <;> rfl

/-- A number that is 0 is left out like one that is not there. -/
theorem fieldsWithoutDefaults_number (key : String) (number : Option UInt32) :
    fieldsWithoutDefaults (optionalField key ofUInt32 (number.filter (· != 0))) =
      fieldsWithoutDefaults (optionalField key ofUInt32 number) := by
  cases number with
  | none => rfl
  | some number =>
    by_cases isZero : number = 0
    · subst isZero
      rfl
    · rw [Option.filter_some_pos (by simpa using isZero)]

theorem keys_orderedFields (fields : List (String × JsonValue)) :
    (orderedFields fields).map Prod.fst = fields.map Prod.fst := by
  induction fields with
  | nil => rfl
  | cons field rest induction => rw [orderedFields, List.map_cons, induction, List.map_cons]

theorem field?_orderedFields (fields : List (String × JsonValue)) (key : String) :
    field? (orderedFields fields) key = (field? fields key).map ordered := by
  induction fields with
  | nil => rfl
  | cons field rest induction =>
    rw [orderedFields, field?_cons, field?_cons, induction]
    split <;> rfl

/-! ## Fields of a document -/

/-- A field of a document: nothing if the value is a default. -/
def kept (key : String) (value : Option JsonValue) : Option JsonValue :=
  (value.filter fun value => !isDefault key value).map fun value => value.withoutDefaults.ordered

theorem recordFields?_document (distinct : (fields.map Prod.fst).Nodup) (keys : List String) :
    recordFields? keys (object fields).withoutDefaults.ordered =
      some (keys.map fun key => kept key (field? fields key)) := by
  have distinctKept : ((orderedFields (fieldsWithoutDefaults fields)).map Prod.fst).Nodup := by
    rw [keys_orderedFields]
    exact distinct.sublist (keys_fieldsWithoutDefaults fields)
  rw [withoutDefaults, ordered, recordFields?]
  -- Each key stands once, before and after the fields are put in order.
  congr 2
  funext key
  rw [← field?_of_perm (List.mergeSort_perm _ _).symm distinctKept, field?_orderedFields,
    field?_fieldsWithoutDefaults distinct, Option.map_map]
  rfl

section

variable {key : String}

theorem kept_text (notConstraint : key ≠ "constraintType") (text : String) :
    kept key (some (string text)) = some (string text) := by
  have isKept : isDefault key (string text) = false := by simp [isDefault, notConstraint]
  simp [kept, Option.filter_some, isKept, withoutDefaults, ordered]

theorem fieldOr?_kept_text {default : String} (notConstraint : key ≠ "constraintType")
    (text : String) : fieldOr? default toString? (kept key (some (string text))) = some text := by
  rw [kept_text notConstraint]
  rfl

theorem fieldOr?_kept_flag (flag : Bool) :
    fieldOr? false toBool? (kept key (some (bool flag))) = some flag := by
  cases flag <;> rfl

theorem fieldOr?_kept_optionalText (notConstraint : key ≠ "constraintType")
    (text : Option String) :
    fieldOr? none (toOption? toString?) (kept key (text.map string)) = some text := by
  cases text with
  | none => rfl
  | some text =>
    rw [Option.map_some, kept_text notConstraint]
    rfl

/-- A number that is 0 is left out and read as none. -/
theorem fieldOr?_kept_number (number : Option UInt32) :
    fieldOr? none (toOption? toUInt32?) (kept key (number.map ofUInt32)) =
      some (number.filter (· != 0)) := by
  cases number with
  | none => rfl
  | some number =>
    by_cases isZero : number = 0
    · subst isZero
      rfl
    · have positive : number.toNat ≠ 0 := fun same => isZero (UInt32.toNat_inj.mp same)
      have isKept : kept key (some (ofUInt32 number)) = some (integer number.toNat) := by
        simp [kept, Option.filter_some, isDefault, ofUInt32, positive, withoutDefaults, ordered]
      have isRead : toUInt32? (integer number.toNat) = some number := by
        simp [toUInt32?, UInt32.toNat_lt_size]
      rw [Option.map_some, isKept, Option.filter_some_pos (by simpa using isZero)]
      simp [fieldOr?, toOption?, isRead]

theorem fieldOr?_kept_constraint (kind : ConstraintKind) :
    fieldOr? .none toConstraintKind? (kept "constraintType" (some (string kind.name))) =
      some kind := by
  cases kind <;> decide +kernel

theorem itemsWithoutDefaults_eq_map (items : List JsonValue) :
    itemsWithoutDefaults items = items.map withoutDefaults := by
  induction items with
  | nil => rfl
  | cons item rest induction => rw [itemsWithoutDefaults, induction, List.map_cons]

theorem orderedItems_eq_map (items : List JsonValue) : orderedItems items = items.map ordered := by
  induction items with
  | nil => rfl
  | cons item rest induction => rw [orderedItems, induction, List.map_cons]

/-- A list in a document gives the values that its items give. -/
theorem fieldOr?_kept_list {α β : Type} {default : List β} {decode : JsonValue → Option β}
    {encode : α → JsonValue} {convert : α → β}
    (read : ∀ item, decode (encode item).withoutDefaults.ordered = some (convert item))
    (items : List α) :
    fieldOr? default (toList? decode) (kept key (some (array (items.map encode)))) =
      some (items.map convert) := by
  have isKept : kept key (some (array (items.map encode))) =
      some (array (items.map fun item => (encode item).withoutDefaults.ordered)) := by
    simp [kept, Option.filter_some, isDefault, withoutDefaults, ordered,
      itemsWithoutDefaults_eq_map, orderedItems_eq_map, Function.comp_def]
  rw [isKept, fieldOr?, toList?]
  clear isKept
  induction items with
  | nil => rfl
  | cons item rest induction =>
    rw [List.map_cons, List.mapM_cons, read, induction]
    rfl

end

end JsonValue

open JsonValue

/-! ## Columns -/

namespace Column

/-- The column without the arguments of its data type that are 0. -/
def withoutZeroArguments (column : Column) : Column :=
  { column with
    argument1 := column.argument1.filter (· != 0)
    argument2 := column.argument2.filter (· != 0) }

/-- The fields of a column in a document, with those that are left out. -/
def documentFields (column : Column) : List (String × JsonValue) :=
  column.jsonFields ++ column.derivedFields

theorem nodup_documentFields (column : Column) :
    (column.documentFields.map Prod.fst).Nodup := by
  unfold documentFields jsonFields derivedFields
  cases column.argument1 <;> cases column.argument2 <;> cases column.referenceText <;>
    simp [optionalField]

theorem kept_documentFields (column : Column) :
    (jsonKeys.map fun key => kept key (field? column.documentFields key)) =
      [kept "name" (some (string column.name)), kept "dataType" (some (string column.dataType)),
        kept "dataTypeExtraInfo1" (column.argument1.map ofUInt32),
        kept "dataTypeExtraInfo2" (column.argument2.map ofUInt32),
        kept "computed" (some (bool column.isComputed)),
        kept "referenceColumn" (column.referenceText.map string),
        kept "constraintType" (some (string column.constraint.name)),
        kept "isPrimaryKeyExplicit" (some (bool column.isMarkedKey)),
        kept "isIdentityColumnExplicit" (some (bool column.isMarkedIdentity)),
        kept "sql" (some (string column.sql))] := by
  unfold documentFields jsonFields derivedFields
  cases column.argument1 <;> cases column.argument2 <;> cases column.referenceText <;>
    simp [jsonKeys, optionalField, field?]

theorem ofJson?_documentFields (column : Column) :
    ofJson? (object column.documentFields).withoutDefaults.ordered =
      some column.withoutZeroArguments := by
  unfold ofJson?
  rw [recordFields?_document column.nodup_documentFields, kept_documentFields]
  simp only [Option.bind_eq_bind, Option.bind_some]
  rw [fieldOr?_kept_text (by decide), fieldOr?_kept_text (by decide), fieldOr?_kept_number,
    fieldOr?_kept_number, fieldOr?_kept_flag, fieldOr?_kept_optionalText (by decide),
    fieldOr?_kept_constraint, fieldOr?_kept_flag, fieldOr?_kept_flag,
    fieldOr?_kept_text (by decide)]
  rfl

theorem withoutZeroArguments_eq_self {column : Column} :
    column.withoutZeroArguments = column ↔
      column.argument1 ≠ some 0 ∧ column.argument2 ≠ some 0 := by
  have argument (number : Option UInt32) :
      number.filter (· != 0) = number ↔ number ≠ some 0 := by
    cases number <;> simp [Option.filter_some]
  rw [← argument, ← argument]
  constructor
  · intro same
    exact ⟨congrArg argument1 same, congrArg argument2 same⟩
  · rintro ⟨first, second⟩
    rw [withoutZeroArguments, first, second]

/-- Arguments that are 0 are not in the document. -/
theorem document_withoutZeroArguments (column : Column) :
    (object column.withoutZeroArguments.documentFields).withoutDefaults =
      (object column.documentFields).withoutDefaults := by
  unfold documentFields jsonFields
  simp only [withoutDefaults, fieldsWithoutDefaults_append, withoutZeroArguments,
    fieldsWithoutDefaults_number]
  rfl

end Column

/-! ## Tables -/

namespace Table

/-- The table without the arguments of data types that are 0. -/
def withoutZeroArguments (table : Table) : Table :=
  { table with columns := table.columns.map Column.withoutZeroArguments }

/-- The fields of a table in a document, with those that are left out. -/
def documentFields (table : Table) : List (String × JsonValue) :=
  table.jsonFieldsWith (table.columns.map fun column => object column.documentFields) ++
    table.derivedFields

theorem document_eq (table : Table) :
    table.document = (object table.documentFields).withoutDefaults :=
  rfl

theorem nodup_documentFields (table : Table) : (table.documentFields.map Prod.fst).Nodup := by
  unfold documentFields jsonFieldsWith derivedFields
  cases table.outputPath <;> simp [optionalField]

theorem kept_documentFields (table : Table) :
    (jsonKeys.map fun key => kept key (field? table.documentFields key)) =
      [kept "schema" (some (string table.schema)), kept "name" (some (string table.name)),
        kept "columns"
          (some (array (table.columns.map fun column => object column.documentFields))),
        kept "primaryKeyColumns" (some (array (table.primaryKey.names.map string))),
        kept "sourceFilePath" (some (string table.sourcePath)),
        kept "outputFilePath" (table.outputPath.map string),
        kept "sql" (some (string table.sql))] := by
  unfold documentFields jsonFieldsWith derivedFields
  cases table.outputPath <;> simp [jsonKeys, optionalField, field?]

theorem ofJson?_ordered_document (table : Table) :
    ofJson? table.document.ordered = some table.withoutZeroArguments := by
  have nameRead : ∀ name : String,
      toString? (string name).withoutDefaults.ordered = some (id name) := fun _ => rfl
  rw [document_eq]
  unfold ofJson?
  rw [recordFields?_document table.nodup_documentFields, kept_documentFields,
    kept_text (by decide), kept_text (by decide)]
  simp only [Option.bind_eq_bind, Option.bind_some]
  rw [fieldOr?_kept_list Column.ofJson?_documentFields, fieldOr?_kept_list nameRead,
    fieldOr?_kept_text (by decide), fieldOr?_kept_optionalText (by decide),
    fieldOr?_kept_text (by decide)]
  simp only [toString?, Option.bind_some]
  rw [List.map_id, Key.ofList_names]
  rfl

/-! ## Tables with the same document -/

theorem document_withoutZeroArguments (table : Table) :
    table.withoutZeroArguments.document = table.document := by
  have columns : itemsWithoutDefaults (table.withoutZeroArguments.columns.map fun column =>
      object column.documentFields) =
        itemsWithoutDefaults (table.columns.map fun column => object column.documentFields) := by
    simp only [itemsWithoutDefaults_eq_map, withoutZeroArguments, List.map_map]
    apply List.map_congr_left
    intro column _
    exact column.document_withoutZeroArguments
  have derived : table.withoutZeroArguments.derivedFields = table.derivedFields := by
    have identity : table.withoutZeroArguments.hasIdentity = table.hasIdentity := by
      simp only [hasIdentity, withoutZeroArguments, List.any_map]
      rfl
    unfold derivedFields
    rw [identity]
    rfl
  rw [document_eq, document_eq]
  unfold documentFields
  rw [derived]
  simp only [withoutDefaults, fieldsWithoutDefaults_append, jsonFieldsWith, fieldsWithoutDefaults,
    columns]
  rfl

theorem withoutZeroArguments_eq_self {table : Table} :
    table.withoutZeroArguments = table ↔
      ∀ column ∈ table.columns, column.argument1 ≠ some 0 ∧ column.argument2 ≠ some 0 := by
  have columns : table.withoutZeroArguments = table ↔
      table.columns.map Column.withoutZeroArguments = table.columns.map id := by
    rw [List.map_id]
    constructor
    · exact congrArg Table.columns
    · intro same
      rw [withoutZeroArguments, same]
  rw [columns, List.map_inj_left]
  exact forall₂_congr fun column _ => column.withoutZeroArguments_eq_self

/-- A document, its fields in the order in which they are written, gives its table again but for the
arguments of data types that are 0. -/
theorem ofJson?_document (table other : Table) :
    ofJson? table.document.ordered = some table.withoutZeroArguments ∧
      (table.document.ordered = other.document.ordered ↔
        table.withoutZeroArguments = other.withoutZeroArguments) ∧
      (table.withoutZeroArguments = table ↔
        ∀ column ∈ table.columns, column.argument1 ≠ some 0 ∧ column.argument2 ≠ some 0) := by
  refine ⟨ofJson?_ordered_document table, ⟨?_, ?_⟩, withoutZeroArguments_eq_self⟩
  · intro same
    have read := ofJson?_ordered_document table
    rw [same, ofJson?_ordered_document other] at read
    exact (Option.some.inj read).symm
  · intro same
    rw [← document_withoutZeroArguments table, same, document_withoutZeroArguments]

/-- The second argument of `DECIMAL(18, 0)` is not in the document. -/
theorem ofJson?_document_ne_of_zero :
    ¬∀ table : Table, ofJson? table.document.ordered = some table := by
  intro always
  have read := always
    { schema := "dbo", name := "T",
      columns :=
        [{ name := "A", dataType := "DECIMAL", argument1 := some 18, argument2 := some 0 }] }
  rw [ofJson?_ordered_document] at read
  revert read
  decide +kernel

end Table

end SqlSchema
