import SqlSchema.Proofs.Document
import SqlSchema.Proofs.KeyRuns

/-!
Tables read back from JSON. What is written has every field that has a value, each once, so reading
gives the table again wherever the fields stand. The key is read as a list of names that is put in
order; the names of a key are in order already.
-/

namespace SqlSchema

/-! ## Fields -/

namespace JsonValue

/-- Whether rearranging a value changes nothing but the places of fields in objects, at all levels,
where each key stands once. -/
structure Rearranges (arrange : JsonValue → JsonValue) : Prop where
  string (text : String) : arrange (string text) = .string text
  bool (flag : Bool) : arrange (bool flag) = .bool flag
  integer (number : Int) : arrange (integer number) = .integer number
  array (items : List JsonValue) : arrange (array items) = .array (items.map arrange)
  object {fields : List (String × JsonValue)} (distinct : (fields.map Prod.fst).Nodup)
    (keys : List String) : recordFields? keys (arrange (object fields)) =
      some ((keys.map (field? fields)).map (Option.map arrange))

theorem rearranges_id : Rearranges id where
  string _ := rfl
  bool _ := rfl
  integer _ := rfl
  array items := by rw [List.map_id, id]
  object _ keys := by rw [Option.map_id, List.map_id, id, recordFields?]

theorem rearranges_ordered : Rearranges ordered where
  string _ := by rw [ordered] <;> simp
  bool _ := by rw [ordered] <;> simp
  integer _ := by rw [ordered] <;> simp
  array items := by rw [ordered, orderedItems_eq_map]
  object {fields} distinct keys := by
    have distinctOrdered : ((orderedFields fields).map Prod.fst).Nodup := by
      rwa [keys_orderedFields]
    rw [ordered, recordFields?, List.map_map]
    congr 2
    funext key
    rw [← field?_of_perm (List.mergeSort_perm _ _).symm distinctOrdered, field?_orderedFields]
    rfl

namespace Rearranges

variable {arrange : JsonValue → JsonValue}

theorem fieldOr?_text (rearranges : Rearranges arrange) (default text : String) :
    fieldOr? default toString? (some (arrange (.string text))) = some text := by
  rw [rearranges.string]
  rfl

theorem fieldOr?_flag (rearranges : Rearranges arrange) (default flag : Bool) :
    fieldOr? default toBool? (some (arrange (.bool flag))) = some flag := by
  rw [rearranges.bool]
  rfl

theorem fieldOr?_optionalText (rearranges : Rearranges arrange) (text : Option String) :
    fieldOr? none (toOption? toString?) ((text.map .string).map arrange) = some text := by
  cases text with
  | none => rfl
  | some text =>
    rw [Option.map_some, Option.map_some, rearranges.string]
    rfl

/-- A number is read as itself, also where it is 0. -/
theorem fieldOr?_number (rearranges : Rearranges arrange) (number : Option UInt32) :
    fieldOr? none (toOption? toUInt32?) ((number.map ofUInt32).map arrange) = some number := by
  cases number with
  | none => rfl
  | some number =>
    have isRead : toUInt32? (.integer number.toNat) = some number := by
      simp [toUInt32?, UInt32.toNat_lt_size]
    rw [Option.map_some, Option.map_some, ofUInt32, rearranges.integer, fieldOr?, toOption?, isRead]
    · rfl
    · simp

theorem fieldOr?_constraint (rearranges : Rearranges arrange) (kind : ConstraintKind) :
    fieldOr? .none toConstraintKind? (some (arrange (.string kind.name))) = some kind := by
  rw [rearranges.string]
  exact kind.ofName?_name

theorem fieldOr?_list {α : Type} (rearranges : Rearranges arrange)
    {decode : JsonValue → Option α} {encode : α → JsonValue}
    (read : ∀ item, decode (arrange (encode item)) = some item) (default items : List α) :
    fieldOr? default (toList? decode) (some (arrange (.array (items.map encode)))) =
      some items := by
  rw [rearranges.array, fieldOr?, toList?]
  induction items with
  | nil => rfl
  | cons item rest induction =>
    rw [List.map_cons, List.map_cons, List.mapM_cons, read, induction]
    rfl

end Rearranges

end JsonValue

open JsonValue

/-! ## Columns -/

namespace Column

theorem nodup_jsonFields (column : Column) : (column.jsonFields.map Prod.fst).Nodup :=
  column.nodup_documentFields.sublist
    ((List.sublist_append_left column.jsonFields column.derivedFields).map Prod.fst)

theorem map_field?_jsonFields (column : Column) :
    jsonKeys.map (field? column.jsonFields) =
      [some (string column.name), some (string column.dataType), column.argument1.map ofUInt32,
        column.argument2.map ofUInt32, some (bool column.isComputed),
        column.referenceText.map string, some (string column.constraint.name),
        some (bool column.isMarkedKey), some (bool column.isMarkedIdentity),
        some (string column.sql)] := by
  unfold jsonFields
  cases column.argument1 <;> cases column.argument2 <;> cases column.referenceText <;>
    simp [jsonKeys, optionalField, field?]

theorem ofJson?_of_rearranges {arrange : JsonValue → JsonValue} (rearranges : Rearranges arrange)
    (column : Column) : ofJson? (arrange column.toJson) = some column := by
  unfold ofJson?
  rw [toJson, rearranges.object column.nodup_jsonFields, map_field?_jsonFields]
  simp only [List.map_cons, List.map_nil, Option.map_some, Option.bind_eq_bind, Option.bind_some]
  rw [rearranges.fieldOr?_text, rearranges.fieldOr?_text, rearranges.fieldOr?_number,
    rearranges.fieldOr?_number, rearranges.fieldOr?_flag, rearranges.fieldOr?_optionalText,
    rearranges.fieldOr?_constraint, rearranges.fieldOr?_flag, rearranges.fieldOr?_flag,
    rearranges.fieldOr?_text]
  rfl

end Column

/-! ## Tables -/

namespace Table

theorem nodup_jsonFields (table : Table) (columns : List JsonValue) :
    ((table.jsonFieldsWith columns).map Prod.fst).Nodup := by
  unfold jsonFieldsWith
  cases table.outputPath <;> simp [optionalField]

theorem map_field?_jsonFields (table : Table) (columns : List JsonValue) :
    jsonKeys.map (field? (table.jsonFieldsWith columns)) =
      [some (string table.schema), some (string table.name), some (array columns),
        some (array (table.primaryKey.names.map string)), some (string table.sourcePath),
        table.outputPath.map string, some (string table.sql)] := by
  unfold jsonFieldsWith
  cases table.outputPath <;> simp [jsonKeys, optionalField, field?]

theorem ofJson?_of_rearranges {arrange : JsonValue → JsonValue} (rearranges : Rearranges arrange)
    (table : Table) : ofJson? (arrange table.toJson) = some table := by
  have nameRead (name : String) : toString? (arrange (string name)) = some name := by
    rw [rearranges.string]
    rfl
  unfold ofJson?
  rw [toJson, rearranges.object (table.nodup_jsonFields _), map_field?_jsonFields]
  simp only [List.map_cons, List.map_nil, Option.map_some, Option.bind_eq_bind, Option.bind_some,
    nameRead]
  rw [rearranges.fieldOr?_list (Column.ofJson?_of_rearranges rearranges),
    rearranges.fieldOr?_list nameRead, rearranges.fieldOr?_text, rearranges.fieldOr?_optionalText,
    rearranges.fieldOr?_text]
  simp only [Option.bind_some, Key.ofList_names]

/-- What the key of a table that was read from JSON is made of: the names listed, without blank ones
and without those that match one before them, in order. -/
structure HasListedKey (value : JsonValue) (table : Table) : Prop where
  listed : ∃ names, keyNames? value = some names ∧
    table.primaryKey.names = (names.foldl Key.appendNew []).mergeSort Key.comesBefore
  increasing : table.primaryKey.names.Pairwise fun left right =>
    Text.lowerCase left < Text.lowerCase right
  notBlank : ∀ name ∈ table.primaryKey.names, Text.isBlankText name = false

theorem hasListedKey_of_ofJson? {value : JsonValue} {table : Table}
    (read : ofJson? value = some table) : HasListedKey value table where
  listed := by
    obtain ⟨names, listed, same⟩ := exists_keyNames?_of_ofJson? read
    exact ⟨names, listed, by rw [same]; exact Key.names_merge_eq_mergeSort .empty names⟩
  increasing := table.primaryKey.increasing
  notBlank := table.primaryKey.notBlank

/-- A table is read back as it was written, with its fields as they are written or in the order of
their keys. Whatever JSON value a table is read from, its key is in order, and the table is read
back. -/
theorem ofJson?_toJson (table : Table) (value : JsonValue) :
    ofJson? table.toJson = some table ∧ ofJson? table.toJson.ordered = some table ∧
      ∀ read, ofJson? value = some read → HasListedKey value read ∧
        ofJson? read.toJson = some read ∧ ofJson? read.toJson.ordered = some read :=
  ⟨ofJson?_of_rearranges rearranges_id table, ofJson?_of_rearranges rearranges_ordered table,
    fun read isRead => ⟨hasListedKey_of_ofJson? isRead, ofJson?_of_rearranges rearranges_id read,
      ofJson?_of_rearranges rearranges_ordered read⟩⟩

/-- A table in a list of its fields, with a key in no order and an argument that is 0. -/
theorem ofJson?_toJson_list :
    let value := JsonValue.array [.string "dbo", .string "T",
      .array [.object [("constraintType", .object [("Check", .null)]),
        ("dataTypeExtraInfo1", .integer 0), ("referenceColumn", .null)]],
      .array [.string "b", .string " ", .string "A", .string "B"]]
    let read : Table :=
      { schema := "dbo", name := "T", columns := [{ argument1 := some 0, constraint := .check }]
        primaryKey := .ofList ["b", "A"] }
    ofJson? value = some read ∧ HasListedKey value read ∧ read.primaryKey.names = ["A", "b"] ∧
      ofJson? read.toJson = some read := by
  intro value read
  have isRead : ofJson? value = some read := by decide +kernel
  obtain ⟨listed, again, -⟩ := (ofJson?_toJson read value).2.2 read isRead
  exact ⟨isRead, listed, by decide +kernel, again⟩

end Table

end SqlSchema
