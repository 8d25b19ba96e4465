import SqlSchema.Proofs.ReferenceTypes

/-!
Resolving a table again. Key marks that are set stay, and settled columns keep their types. So a
second resolution changes nothing where the first one settles the columns: where every chain of
references ends, where the columns on endless chains have one type, and in every accepted table.
Round a cycle of columns with different types the types may move for ever.
-/

namespace SqlSchema

/-! ## Marks -/

/-- The same column, marked or not. -/
def Column.IsMarkedFrom (after before : Column) : Prop :=
  ∃ holds, after = before.markedIf holds

theorem forall₂_isMarkedFrom_markKeys (names : List String) (columns : List Column) :
    List.Forall₂ (fun before after => Column.IsMarkedFrom after before) columns
      (markKeys names columns) := by
  apply forall₂_markKeys
  · rintro before column holds ⟨marked, rfl⟩
    exact ⟨marked || holds, Column.markedIf_markedIf marked holds before⟩
  · exact List.forall₂_same.mpr fun column _ => ⟨false, by simp⟩

/-- A reference leads to the same column, marked or not. -/
theorem find?_markKeys (names : List String) (columns : List Column) (reference : String) :
    Option.Rel (fun before after => Column.IsMarkedFrom after before)
      (columns.find? fun column => namesMatch column.name reference)
      ((markKeys names columns).find? fun column => namesMatch column.name reference) :=
  find?_of_forall₂ (fun ⟨_, equal⟩ => by rw [equal, Column.name_markedIf])
    (forall₂_isMarkedFrom_markKeys names columns) reference

/-- Chains lead through the columns in the same way, marked or not. -/
theorem chainEnd_markKeys (names : List String) {columns : List Column} (steps : Nat)
    {before after : Column} (marked : after.IsMarkedFrom before) :
    chainEnd (markKeys names columns) steps after = chainEnd columns steps before := by
  induction steps generalizing before after with
  | zero =>
    obtain ⟨holds, rfl⟩ := marked
    rfl
  | succ steps induction =>
    have targets := find?_markKeys names columns
    have reference : after.reference? = before.reference? := by
      obtain ⟨holds, rfl⟩ := marked
      rfl
    cases found : before.reference? with
    | none =>
      rw [chainEnd_of_no_reference found, chainEnd_of_no_reference (reference.trans found)]
      obtain ⟨holds, rfl⟩ := marked
      rfl
    | some text =>
      have target := targets text
      cases leads : columns.find? fun column => namesMatch column.name text with
      | none =>
        rw [leads] at target
        cases markedLeads : (markKeys names columns).find? fun column =>
          namesMatch column.name text with
        | none =>
          rw [chainEnd_of_dangling found leads,
            chainEnd_of_dangling (reference.trans found) markedLeads]
        | some other => rw [markedLeads] at target; cases target
      | some next =>
        rw [leads] at target
        cases markedLeads : (markKeys names columns).find? fun column =>
          namesMatch column.name text with
        | none => rw [markedLeads] at target; cases target
        | some other =>
          rw [markedLeads] at target
          cases target with
          | some marked =>
            rw [chainEnd_of_target found leads,
              chainEnd_of_target (reference.trans found) markedLeads]
            exact induction marked

/-! ## Endless chains -/

/-- Whether the chain of references that begins at a column never ends. -/
def IsEndless (columns : List Column) (column : Column) : Prop :=
  ∀ steps, chainEnd columns steps column = none

theorem openChains_length_add (columns : List Column) (more : Nat) :
    openChains columns (columns.length + more) = openChains columns columns.length := by
  have stable (more : Nat) : openChains columns (columns.length + more + 1) =
      openChains columns (columns.length + more) := by
    induction more with
    | zero => exact openChains_length_succ columns
    | succ more induction => exact openChains_stable induction
  induction more with
  | zero => rfl
  | succ more induction => exact (stable more).trans induction

theorem chainEnd_of_le {columns : List Column} {steps more : Nat} {column : Column} {type : String}
    (ends : chainEnd columns steps column = some type) (le : steps ≤ more) :
    chainEnd columns more column = some type := by
  induction le with
  | refl => exact ends
  | step _ induction => exact chainEnd_succ induction

/-- One step for every column tells whether a chain ends. -/
theorem isEndless_iff {columns : List Column} {column : Column} (member : column ∈ columns) :
    IsEndless columns column ↔ chainEnd columns columns.length column = none := by
  constructor
  · intro endless
    exact endless columns.length
  · intro isOpen steps
    cases ends : chainEnd columns steps column with
    | none => rfl
    | some type =>
      have longer : chainEnd columns (columns.length + steps) column = some type :=
        chainEnd_of_le ends (Nat.le_add_left _ _)
      have stillOpen : column ∈ openChains columns (columns.length + steps) := by
        rw [openChains_length_add]
        exact mem_openChains.mpr ⟨member, isOpen⟩
      rw [(mem_openChains.mp stillOpen).2] at longer
      cases longer

/-! ## Resolving again -/

namespace Table

/-- The columns that the names of the key stand for are marked already. -/
theorem markKeys_resolve (table : Table) :
    markKeys table.primaryKey.names table.resolve.columns = table.resolve.columns := by
  apply List.ext_getElem?
  intro index
  rw [getElem?_markKeys]
  cases found : table.resolve.columns[index]? with
  | none => rfl
  | some column =>
    obtain ⟨before, -, retyped⟩ := exists_getElem?_of_resolve found
    have isMarked : column.isMarkedKey = (before.isMarkedKey ||
        decide (∃ name ∈ table.primaryKey.names, NamesColumn table.columns name index)) := by
      rw [retyped.fields]
      rfl
    simp only [namesColumn_congr table.map_name_resolve, Option.map_some, Option.some.injEq]
    rw [Column.markedIf, isMarked, Bool.or_assoc, Bool.or_self, ← isMarked]

/-- A table whose columns are settled is not changed by another resolution. -/
theorem resolve_of_isSettled {table : Table} (settled : IsSettled table.resolve.columns) :
    table.resolve.resolve = table.resolve := by
  have columns : table.resolve.resolve.columns = table.resolve.columns := by
    have marked := table.markKeys_resolve
    have unchanged := settle_of_isSettled settled table.resolve.columns.length
    change (settle table.resolve.columns.length
      (markKeys table.primaryKey.names table.resolve.columns)).1 = _
    rw [marked, unchanged]
  change { table.resolve with columns := table.resolve.resolve.columns } = table.resolve
  rw [columns]

/-- Columns on endless chains that have one type are settled by resolution, and so are all
others. -/
theorem isSettled_resolve {table : Table} {type : String}
    (agree : ∀ column ∈ table.columns, IsEndless table.columns column → column.dataType = type) :
    IsSettled table.resolve.columns := by
  let marked := markKeys table.primaryKey.names table.columns
  have length : marked.length = table.columns.length := length_markKeys _ _
  have start : EndlessTypesAre marked (· = type) marked := by
    intro column member endless
    obtain ⟨index, before, found, rfl⟩ := exists_of_mem_markKeys member
    have beforeMember := List.mem_of_getElem? found
    rw [chainEnd_markKeys _ _ ⟨_, rfl⟩, length] at endless
    exact agree before beforeMember ((isEndless_iff beforeMember).mpr endless)
  have columns : table.resolve.columns = (settle marked.length marked).1 := by
    rw [length]
    rfl
  rw [columns]
  exact isSettled_settle (endlessTypesAre_settle _ _ (.refl marked) start)

/-- Resolving a table twice is resolving it once, if the columns whose chain of references never
ends have one type. That holds if there are no such columns, however far and in whichever direction
the chains of the others lead. -/
theorem resolve_resolve {table : Table}
    (agree : ∀ left ∈ table.columns, ∀ right ∈ table.columns,
      IsEndless table.columns left → IsEndless table.columns right →
        left.dataType = right.dataType) :
    table.resolve.resolve = table.resolve := by
  apply resolve_of_isSettled
  rcases Classical.em (∃ column ∈ table.columns, IsEndless table.columns column) with
    ⟨known, knownMember, knownEndless⟩ | noneEndless
  · apply isSettled_resolve
    intro column member endless
    exact agree column member known knownMember endless knownEndless
  · have none : ∀ column ∈ table.columns, IsEndless table.columns column → column.dataType = "" :=
      fun column member endless => absurd ⟨column, member, endless⟩ noneEndless
    exact isSettled_resolve none

/-- A chain against the order of declaration beside two columns that refer to each other. -/
theorem resolve_resolve_chain :
    let columns : List Column :=
      [{ name := "A", isComputed := true, referenceText := some "b" },
        { name := "B", isComputed := true, referenceText := some "C" },
        { name := "C", dataType := "INT" },
        { name := "D", isComputed := true, referenceText := some "E" },
        { name := "E", isComputed := true, referenceText := some "D" }]
    let table : Table := { schema := "dbo", name := "T", columns, primaryKey := .ofList ["c"] }
    table.resolve.columns.map Column.dataType = ["INT", "INT", "INT", "", ""] ∧
      table.resolve.resolve = table.resolve := by
  intro columns table
  refine ⟨by decide +kernel, resolve_resolve ?_⟩
  have agree : ∀ left ∈ columns, ∀ right ∈ columns,
      chainEnd columns columns.length left = none →
        chainEnd columns columns.length right = none → left.dataType = right.dataType := by
    decide +kernel
  intro left leftMember right rightMember leftEndless rightEndless
  exact agree left leftMember right rightMember (leftEndless _) (rightEndless _)

/-- Round a cycle of three columns with different types each pass moves the types on. -/
theorem resolve_resolve_ne_of_cycle :
    ¬∀ table : Table, table.resolve.resolve = table.resolve := by
  intro always
  let columns : List Column :=
    [{ name := "A", dataType := "INT", isComputed := true, referenceText := some "B" },
      { name := "B", dataType := "DATE", isComputed := true, referenceText := some "C" },
      { name := "C", dataType := "MONEY", isComputed := true, referenceText := some "A" }]
  have same := always { schema := "dbo", name := "T", columns }
  revert same
  decide +kernel

end Table

/-- An accepted table is resolved: resolving it again does not change it. -/
theorem Accepts.resolve_eq {source path : String} {options : ReadingOptions} {table : Table}
    (accepted : Accepts source path options table) : table.resolve = table := by
  have settled := accepted.isSettled
  obtain ⟨_, _, extracted, _, equal, _⟩ := accepted.exists_statement
  rw [equal] at settled ⊢
  exact Table.resolve_of_isSettled settled

end SqlSchema
