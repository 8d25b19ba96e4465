import SqlSchema.Entity.TypeMap
import SqlSchema.Proofs.CodeText

/-!
Types that the built-in map gives to columns. Every column has one, and its tokens are read back
from code: none of them is a comma, which ends the declaration of a field.
-/

namespace SqlSchema.TypeMap

/-- The texts of all types in the built-in map. -/
def builtinTexts : List String :=
  ["bool", "u8", "i16", "i32", "i64", "f32", "f64", "String", "chrono::NaiveDate",
    "chrono::NaiveTime", "chrono::NaiveDateTime", "chrono::DateTime<chrono::FixedOffset>",
    "uuid::Uuid", "Vec<u8>"]

theorem mem_builtinTexts {entry : String × String} (member : entry ∈ builtin.entries) :
    entry.2 ∈ builtinTexts := by
  have texts : ∀ entry ∈ builtin.entries, entry.2 ∈ builtinTexts := by decide +kernel
  exact texts entry member

theorem typeText_builtin_mem (sqlType : String) : builtin.typeText sqlType ∈ builtinTexts := by
  obtain ⟨entry, member, same⟩ | same := builtin.typeText_mem_or_eq sqlType
  · exact same ▸ mem_builtinTexts member
  · rw [same]
    decide

/-- The texts of the types that a column can have, with and without a value that may be missing. -/
def columnTexts : List String :=
  builtinTexts ++ builtinTexts.map fun text => "Option<" ++ text ++ ">"

theorem columnTypeText_builtin_mem (column : Column) :
    builtin.columnTypeText column ∈ columnTexts := by
  have member := typeText_builtin_mem column.dataType
  unfold columnTypeText
  dsimp only
  split
  · exact List.mem_append_right _ (List.mem_map_of_mem member)
  · exact List.mem_append_left _ member

/-- Whether the tokens of a type are read back between a colon and a comma. -/
def IsReadBeforeComma (type : CodeType) : Prop :=
  CodeToken.areReadableAfterMark (type.tokens ++ [.closing .brace]) = true ∧
    .mark ',' false ∉ type.tokens

instance (type : CodeType) : Decidable (IsReadBeforeComma type) :=
  inferInstanceAs (Decidable (_ ∧ _))

theorem exists_ofText?_of_mem {text : String} (member : text ∈ columnTexts) :
    ∃ type ∈ CodeType.ofText? text, IsReadBeforeComma type := by
  have readable : ∀ text ∈ columnTexts,
      ∃ type ∈ CodeType.ofText? text, IsReadBeforeComma type := by
    simp only [columnTexts, builtinTexts, List.map_cons, List.map_nil, List.forall_mem_append,
      List.forall_mem_cons]
    -- Each text is read on its own.
    and_intros <;> decide +kernel
  exact readable text member

/-- The built-in map has a type for every column. -/
theorem exists_columnType_builtin (column : Column) :
    ∃ type, builtin.columnType column = .ok type ∧ IsReadBeforeComma type := by
  obtain ⟨type, found, isRead⟩ := exists_ofText?_of_mem (columnTypeText_builtin_mem column)
  refine ⟨type, ?_, isRead⟩
  unfold columnType
  dsimp only
  rw [Option.mem_def.mp found]

end SqlSchema.TypeMap
