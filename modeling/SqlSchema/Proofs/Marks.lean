import Mathlib.Data.List.Forall2
import SqlSchema.Proofs.Key
import SqlSchema.Table.Resolution

/-!
Key marks. Of every name of a key the first column that matches is marked, and nothing else about
the columns changes.
-/

namespace SqlSchema

section

variable {α β : Type} {relation : α → β → Prop} {items : List α} {others : List β}
  (related : List.Forall₂ relation items others)
include related

theorem exists_getElem?_of_forall₂ {index : Nat} {other : β} (found : others[index]? = some other) :
    ∃ item, items[index]? = some item ∧ relation item other := by
  induction related generalizing index with
  | nil => simp at found
  | @cons item _ _ _ first _ induction =>
    cases index with
    | zero =>
      cases found
      exact ⟨item, rfl, first⟩
    | succ index => exact induction found

theorem exists_mem_of_forall₂ {other : β} (member : other ∈ others) :
    ∃ item ∈ items, relation item other := by
  obtain ⟨index, found⟩ := List.mem_iff_getElem?.mp member
  obtain ⟨item, itemFound, holds⟩ := exists_getElem?_of_forall₂ related found
  exact ⟨item, List.mem_of_getElem? itemFound, holds⟩

end

/-- Where columns keep their names, a name leads to the same place. -/
theorem find?_of_forall₂ {relation : Column → Column → Prop}
    (names : ∀ {left right}, relation left right → right.name = left.name)
    {columns others : List Column} (related : List.Forall₂ relation columns others)
    (name : String) :
    Option.Rel relation (columns.find? fun column => namesMatch column.name name)
      (others.find? fun column => namesMatch column.name name) := by
  induction related with
  | nil => exact .none
  | @cons left right _ _ head _ induction =>
    simp only [List.find?_cons, names head]
    cases namesMatch left.name name with
    | true => exact .some head
    | false => exact induction

/-- Whether `name` stands for the column at `index`: the first that it matches. -/
def NamesColumn (columns : List Column) (name : String) (index : Nat) : Prop :=
  columns.findIdx? (fun column => namesMatch column.name name) = some index

instance (columns : List Column) (name : String) (index : Nat) :
    Decidable (NamesColumn columns name index) :=
  inferInstanceAs (Decidable (_ = _))

/-- The column with a mark if `holds`, and with the mark it has otherwise. -/
def Column.markedIf (holds : Bool) (column : Column) : Column :=
  { column with isMarkedKey := column.isMarkedKey || holds }

@[simp] theorem Column.name_markedIf (holds : Bool) (column : Column) :
    (column.markedIf holds).name = column.name :=
  rfl

@[simp] theorem Column.markedIf_false : Column.markedIf false = id := by
  funext column
  simp [Column.markedIf]

theorem Column.markedIf_markedIf (first second : Bool) (column : Column) :
    (column.markedIf first).markedIf second = column.markedIf (first || second) := by
  simp [Column.markedIf, Bool.or_assoc]

/-- A name stands for a column exactly if it matches that column and none before it. -/
theorem namesColumn_iff {columns : List Column} {name : String} {index : Nat} :
    NamesColumn columns name index ↔
      ∃ column, columns[index]? = some column ∧ namesMatch column.name name = true ∧
        ∀ earlier < index, ∀ other, columns[earlier]? = some other →
          namesMatch other.name name = false := by
  unfold NamesColumn
  rw [List.findIdx?_eq_some_iff_getElem]
  constructor
  · rintro ⟨bound, same, before⟩
    refine ⟨columns[index], List.getElem?_eq_getElem bound, same, ?_⟩
    intro earlier less other found
    obtain ⟨_, rfl⟩ := List.getElem?_eq_some_iff.mp found
    simpa using before earlier less
  · rintro ⟨column, found, same, before⟩
    obtain ⟨bound, rfl⟩ := List.getElem?_eq_some_iff.mp found
    refine ⟨bound, same, fun earlier less => ?_⟩
    simpa using before earlier less _ (List.getElem?_eq_getElem (by omega))

/-- Names that match stand for the same column. -/
theorem NamesColumn.congr {columns : List Column} {left right : String} {index : Nat}
    (stands : NamesColumn columns left index) (same : namesMatch left right = true) :
    NamesColumn columns right index := by
  unfold NamesColumn at stands ⊢
  simpa only [namesMatch_congr_right same] using stands

/-- Where no column is without a name, the names of a key stand for the same columns as the names
that it was made from. -/
theorem exists_namesColumn_ofList {columns : List Column}
    (notBlank : ∀ column ∈ columns, Text.isBlankText column.name = false) {names : List String}
    {index : Nat} :
    (∃ name ∈ (Key.ofList names).names, NamesColumn columns name index) ↔
      ∃ name ∈ names, NamesColumn columns name index := by
  constructor
  · rintro ⟨name, member, stands⟩
    have known : (Key.ofList names).contains name = true :=
      Key.contains_iff.mpr ⟨name, member, Text.equalIgnoringCase_refl name⟩
    obtain ⟨given, givenMember, same⟩ :=
      (Key.contains_ofList ((Key.ofList names).notBlank name member)).mp known
    exact ⟨given, givenMember, stands.congr (namesMatch_symm same)⟩
  · rintro ⟨name, member, stands⟩
    obtain ⟨column, found, same, -⟩ := namesColumn_iff.mp stands
    have nameNotBlank : Text.isBlankText name = false :=
      (isBlankText_congr same).symm.trans (notBlank column (List.mem_of_getElem? found))
    have known : (Key.ofList names).contains name = true :=
      (Key.contains_ofList nameNotBlank).mpr ⟨name, member, Text.equalIgnoringCase_refl name⟩
    obtain ⟨given, givenMember, same⟩ := Key.contains_iff.mp known
    exact ⟨given, givenMember, stands.congr (namesMatch_symm same)⟩

theorem getElem?_markKey (name : String) (columns : List Column) (index : Nat) :
    (markKey name columns)[index]? =
      columns[index]?.map (Column.markedIf (NamesColumn columns name index)) := by
  induction columns generalizing index with
  | nil => simp [markKey]
  | cons column columns induction =>
    unfold markKey
    cases same : namesMatch column.name name with
    | true =>
      cases index with
      | zero => simp [NamesColumn, List.findIdx?_cons, same, Column.markedIf]
      | succ index => simp [NamesColumn, List.findIdx?_cons, same]
    | false =>
      cases index with
      | zero => simp [NamesColumn, List.findIdx?_cons, same]
      | succ index =>
        have later : NamesColumn (column :: columns) name (index + 1) ↔
            NamesColumn columns name index := by
          simp [NamesColumn, List.findIdx?_cons, same]
        simp [induction, later]

/-- For which column a name stands depends on the names of the columns only. -/
theorem namesColumn_congr {left right : List Column}
    (names : left.map Column.name = right.map Column.name) {name : String} {index : Nat} :
    NamesColumn left name index ↔ NamesColumn right name index := by
  have same (columns : List Column) :
      columns.findIdx? (fun column => namesMatch column.name name) =
        (columns.map Column.name).findIdx? fun known => namesMatch known name := by
    rw [List.findIdx?_map]
    rfl
  rw [NamesColumn, NamesColumn, same, same, names]

theorem map_name_markKey (name : String) (columns : List Column) :
    (markKey name columns).map Column.name = columns.map Column.name := by
  apply List.ext_getElem?
  intro index
  rw [List.getElem?_map, List.getElem?_map, getElem?_markKey, Option.map_map]
  rfl

/-- After marking, a column is marked if it was or if a name of the key stands for it. -/
theorem getElem?_markKeys (names : List String) (columns : List Column) (index : Nat) :
    (markKeys names columns)[index]? =
      columns[index]?.map
        (Column.markedIf (∃ name ∈ names, NamesColumn columns name index)) := by
  induction names generalizing columns with
  | nil => simp [markKeys]
  | cons name names induction =>
    change (markKeys names (markKey name columns))[index]? = _
    rw [induction, getElem?_markKey, Option.map_map]
    congr 1
    funext column
    simp [Column.markedIf_markedIf, namesColumn_congr (map_name_markKey name columns)]

theorem map_name_markKeys (names : List String) (columns : List Column) :
    (markKeys names columns).map Column.name = columns.map Column.name := by
  apply List.ext_getElem?
  intro index
  rw [List.getElem?_map, List.getElem?_map, getElem?_markKeys, Option.map_map]
  rfl

theorem length_markKeys (names : List String) (columns : List Column) :
    (markKeys names columns).length = columns.length := by
  simpa using congrArg List.length (map_name_markKeys names columns)

/-- What marking a column keeps is kept by marking the columns of a key. -/
theorem forall₂_markKeys {α : Type} {relation : α → Column → Prop}
    (closed : ∀ item column holds, relation item column →
      relation item (column.markedIf holds)) {items : List α} (names : List String)
    {columns : List Column} (related : List.Forall₂ relation items columns) :
    List.Forall₂ relation items (markKeys names columns) := by
  have one (name : String) {items : List α} {columns : List Column}
      (related : List.Forall₂ relation items columns) :
      List.Forall₂ relation items (markKey name columns) := by
    induction related with
    | nil => exact .nil
    | @cons item column items columns first others induction =>
      unfold markKey
      split
      · have marked := closed item column true first
        rw [Column.markedIf, Bool.or_true] at marked
        exact .cons marked others
      · exact .cons first induction
  induction names generalizing columns with
  | nil => exact related
  | cons name names induction => exact induction (one name related)

theorem exists_of_mem_markKeys {names : List String} {columns : List Column} {column : Column}
    (member : column ∈ markKeys names columns) :
    ∃ index, ∃ before : Column, columns[index]? = some before ∧
      column = before.markedIf (∃ name ∈ names, NamesColumn columns name index) := by
  obtain ⟨index, found⟩ := List.mem_iff_getElem?.mp member
  rw [getElem?_markKeys] at found
  obtain ⟨before, beforeFound, equal⟩ := Option.map_eq_some_iff.mp found
  exact ⟨index, before, beforeFound, equal.symm⟩

end SqlSchema
