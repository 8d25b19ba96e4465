import Mathlib.Logic.Relation
import SqlSchema.Proofs.Extraction
import SqlSchema.Proofs.Outcome

/-!
Types of computed columns in accepted tables. Extraction leaves every column with a reference
without a type or with the fallback type, and resolution only moves these two along chains of
references that never end. Where the table is accepted no column is without a type, so the columns
on such chains agree, and all others have the type at the end of their chain.
-/

namespace SqlSchema

/-- Whether the reference of one column leads to another. -/
def Table.PointsTo (table : Table) (left right : Column) : Prop :=
  left ∈ table.columns ∧
    ∃ reference, left.reference? = some reference ∧ table.column? reference = some right

/-- Before resolution every column with a reference has no type or the fallback type. -/
theorem dataType_of_reference_markKeys {statement : CreateTable} (shape : statement.HasElements)
    (diagnostics : Diagnostics) (names : List String) :
    ∀ column ∈ markKeys names (Extraction.table statement diagnostics).1.columns,
      column.reference? ≠ none →
        column.dataType = "" ∨ column.dataType = Extraction.fallbackType := by
  intro column member referenced
  obtain ⟨index, before, found, rfl⟩ := exists_of_mem_markKeys member
  exact Extraction.dataType_of_reference shape diagnostics before (List.mem_of_getElem? found)
    referenced

theorem Accepts.isSettled {source path : String} {options : ReadingOptions} {table : Table}
    (accepted : Accepts source path options table) : IsSettled table.columns := by
  have notBlank := accepted.column_not_blank
  obtain ⟨statement, shape, extracted, equal, rfl, _⟩ := accepted.exists_statement
  let marked := markKeys extracted.primaryKey.names extracted.columns
  have columns : ({ extracted with sourcePath := path } : Table).resolve.columns =
      (settle marked.length marked).1 := by
    rw [length_markKeys]
    rfl
  rw [columns] at notBlank ⊢
  let allowed (type : String) : Prop := type = "" ∨ type = Extraction.fallbackType
  have types : ∀ column ∈ marked, column.reference? ≠ none → allowed column.dataType := by
    subst equal
    exact dataType_of_reference_markKeys shape _ _
  have start : EndlessTypesAre marked allowed marked := by
    intro column member endless
    apply types column member
    intro noReference
    rw [chainEnd_of_no_reference noReference] at endless
    cases endless
  have endlessTypes : EndlessTypesAre marked (· = Extraction.fallbackType)
      (settle marked.length marked).1 := by
    intro column member endless
    rcases endlessTypesAre_settle _ _ (.refl _) start column member endless with blank | fallback
    · have typed := (notBlank column member).2
      rw [blank] at typed
      cases typed
    · exact fallback
  exact isSettled_settle endlessTypes

/-- In an accepted table every column with a reference has the type of the first column that the
reference matches, or the reference as its type where no column matches. So columns that lead to
one another, round a cycle of any length or into one, have the same type and it is not blank; and
no further pass of resolution would change anything. -/
theorem dataType_eq_of_reference {source path : String} {options : ReadingOptions} {table : Table}
    (accepted : Accepts source path options table) :
    (∀ column ∈ table.columns, ∀ reference, column.reference? = some reference →
      match table.column? reference with
      | some target => column.dataType = target.dataType
      | none => column.dataType = reference) ∧
    (∀ left right, Relation.TransGen table.PointsTo left right →
      left.dataType = right.dataType ∧ Text.isBlankText left.dataType = false) ∧
    ∀ passes, settle passes table.columns = (table.columns, []) := by
  have settled := accepted.isSettled
  have step (left right : Column) (leads : table.PointsTo left right) :
      left.dataType = right.dataType := by
    obtain ⟨member, reference, found, target⟩ := leads
    have type := settled left member reference found
    unfold referencedType at type
    unfold Table.column? at target
    rwa [target] at type
  refine ⟨fun column member reference found => ?_, fun left right leads => ?_,
    settle_of_isSettled settled⟩
  · have type := settled column member reference found
    unfold referencedType at type
    unfold Table.column?
    split <;> rename_i target <;> rwa [target] at type
  · have member : left ∈ table.columns := by
      obtain ⟨_, first, _⟩ := Relation.TransGen.head'_iff.mp leads
      exact first.1
    refine ⟨?_, (accepted.column_not_blank left member).2⟩
    induction leads with
    | single first => exact step _ _ first
    | tail _ last induction => exact induction.trans (step _ _ last)

/-- Two columns that take their type from each other, kept from being without one by an option. -/
theorem dataType_eq_of_reference_cycle :
    let source := "CREATE TABLE T (A AS (B) SPARSE, B AS (A) SPARSE, C AS (A), D INT)"
    let left : Column :=
      { name := "A", dataType := "VARCHAR", isComputed := true, referenceText := some "B"
        sql := "A AS (B) SPARSE" }
    let right : Column :=
      { name := "B", dataType := "VARCHAR", isComputed := true, referenceText := some "A"
        sql := "B AS (A) SPARSE" }
    let last : Column :=
      { name := "C", dataType := "VARCHAR", isComputed := true, referenceText := some "A"
        sql := "C AS (A)" }
    let table : Table :=
      { schema := "dbo", name := "T", sourcePath := "t.sql", sql := source
        columns := [left, right, last, { name := "D", dataType := "INT", sql := "D INT" }] }
    Accepts source "t.sql" {} table ∧ settle 4 table.columns = (table.columns, []) := by
  intro source left right last table
  have accepted : Accepts source "t.sql" {} table := by decide +kernel
  exact ⟨accepted, (dataType_eq_of_reference accepted).2.2 4⟩

end SqlSchema
