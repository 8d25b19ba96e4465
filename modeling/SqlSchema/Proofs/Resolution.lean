import Mathlib.Data.List.Forall2
import SqlSchema.Proofs.Marks

/-!
Passes of resolution. A reference leads to the first column of its name, that column's reference to
the next, and so on. After as many passes as such a chain is long, its columns have the type at its
end. A chain that has not ended after one step for every column never ends; along it types only move
from column to column.
-/

namespace SqlSchema

/-! ## One pass -/

/-- The column after it has taken the type of its reference. -/
def Column.taking (columns : List Column) (column : Column) : Column :=
  match column.reference? with
  | none => column
  | some reference => { column with dataType := referencedType columns reference }

theorem settleFrom_cons (done rest : List Column) (column : Column) :
    (settleFrom done (column :: rest)).1 =
      (settleFrom (done ++ [column.taking (done ++ column :: rest)]) rest).1 := by
  unfold Column.taking
  rw [settleFrom]
  cases column.reference? with
  | none => rfl
  | some reference =>
    dsimp only
    split
    · rename_i same
      rw [← same]
    · rfl

/-- A pass that reports no change leaves the columns as they are. -/
theorem settleFrom_eq_of_no_change {done rest : List Column}
    (unchanged : (settleFrom done rest).2 = []) : (settleFrom done rest).1 = done ++ rest := by
  induction rest generalizing done with
  | nil => simp [settleFrom]
  | cons column rest induction =>
    rw [settleFrom] at unchanged ⊢
    cases reference : column.reference? with
    | none =>
      simp only [reference] at unchanged ⊢
      simpa using induction unchanged
    | some text =>
      simp only [reference] at unchanged ⊢
      split at unchanged
      · rename_i same
        rw [if_pos same]
        simpa using induction unchanged
      · simp at unchanged

/-- Whether every column with a reference has the type that the reference stands for. -/
def IsSettled (columns : List Column) : Prop :=
  ∀ column ∈ columns, ∀ reference, column.reference? = some reference →
    column.dataType = referencedType columns reference

/-- A pass over settled columns changes nothing. -/
theorem settleFrom_of_isSettled {done rest : List Column} (settled : IsSettled (done ++ rest)) :
    settleFrom done rest = (done ++ rest, []) := by
  induction rest generalizing done with
  | nil => simp [settleFrom]
  | cons column rest induction =>
    have next : settleFrom (done ++ [column]) rest = (done ++ column :: rest, []) := by
      have passed : IsSettled (done ++ [column] ++ rest) := by simpa using settled
      simpa using induction passed
    rw [settleFrom]
    cases reference : column.reference? with
    | none => exact next
    | some text =>
      have same := settled column (by simp) text reference
      simp only [if_pos same]
      exact next

/-- What several passes do to the columns, whether or not they stop early. -/
theorem settle_succ (passes : Nat) (columns : List Column) :
    (settle (passes + 1) columns).1 = (settle passes (settleFrom [] columns).1).1 := by
  rw [settle]
  cases changes : (settleFrom [] columns).2 with
  | cons change later =>
    have shape : settleFrom [] columns = ((settleFrom [] columns).1, change :: later) := by
      rw [← changes]
    rw [shape]
  | nil =>
    have same : (settleFrom [] columns).1 = columns := settleFrom_eq_of_no_change changes
    have shape : settleFrom [] columns = (columns, []) := Prod.ext same changes
    rw [shape]
    cases passes with
    | zero => rfl
    | succ passes => rw [settle, shape]

/-- What holds before the first pass and is carried from one pass to the next holds after all of
them. -/
theorem settle_induction {motive : Nat → List Column → Prop} {columns : List Column}
    (zero : motive 0 columns)
    (succ : ∀ passes current, motive passes current →
      motive (passes + 1) (settleFrom [] current).1)
    (passes : Nat) : motive passes (settle passes columns).1 := by
  induction passes generalizing motive columns with
  | zero => exact zero
  | succ passes induction =>
    rw [settle_succ]
    apply induction (motive := fun passes => motive (passes + 1))
    · exact succ 0 columns zero
    · exact fun passes => succ (passes + 1)

theorem settle_of_isSettled {columns : List Column} (settled : IsSettled columns) (passes : Nat) :
    settle passes columns = (columns, []) := by
  cases passes with
  | zero => rfl
  | succ passes =>
    have unchanged : settleFrom [] columns = (columns, []) := settleFrom_of_isSettled settled
    rw [settle, unchanged]

/-! ## What passes keep -/

/-- The same column up to its type, which is the same too unless the column has a reference. -/
structure Column.IsRetyped (before after : Column) : Prop where
  fields : after = { before with dataType := after.dataType }
  fixed : before.reference? = none → after.dataType = before.dataType

namespace Column.IsRetyped

variable {before middle after : Column}

theorem refl (column : Column) : column.IsRetyped column :=
  ⟨rfl, fun _ => rfl⟩

theorem name_eq (retyped : before.IsRetyped after) : after.name = before.name := by
  rw [retyped.fields]

theorem reference_eq (retyped : before.IsRetyped after) :
    after.reference? = before.reference? := by
  rw [retyped.fields]
  rfl

theorem trans (first : before.IsRetyped middle) (second : middle.IsRetyped after) :
    before.IsRetyped after := by
  refine ⟨?_, fun noReference => ?_⟩
  · rw [second.fields, first.fields]
  · rw [second.fixed (first.reference_eq.trans noReference), first.fixed noReference]

theorem taking (columns : List Column) (column : Column) :
    column.IsRetyped (column.taking columns) := by
  unfold Column.taking
  cases reference : column.reference? with
  | none => exact refl column
  | some text => exact ⟨rfl, fun noReference => by simp [reference] at noReference⟩

end Column.IsRetyped

/-- The same columns up to the types of those with a reference. -/
abbrev AreRetyped : List Column → List Column → Prop :=
  List.Forall₂ Column.IsRetyped

namespace AreRetyped

variable {before middle after : List Column}

theorem refl (columns : List Column) : AreRetyped columns columns :=
  List.forall₂_same.mpr fun column _ => .refl column

theorem trans (first : AreRetyped before middle) (second : AreRetyped middle after) :
    AreRetyped before after := by
  induction first generalizing after with
  | nil => exact second
  | cons head _ induction =>
    cases second with
    | cons headSecond tailSecond =>
      exact .cons (head.trans headSecond) (induction tailSecond)

/-- One column of a pass. -/
theorem step (done : List Column) (column : Column) (rest : List Column) :
    AreRetyped (done ++ column :: rest)
      (done ++ [column.taking (done ++ column :: rest)] ++ rest) := by
  rw [List.append_assoc]
  exact List.rel_append (refl done) (.cons (.taking _ column) (refl rest))

theorem settleFrom (done rest : List Column) :
    AreRetyped (done ++ rest) (settleFrom done rest).1 := by
  induction rest generalizing done with
  | nil => simpa [SqlSchema.settleFrom] using refl done
  | cons column rest induction =>
    rw [settleFrom_cons]
    exact trans (step done column rest) (induction _)

theorem settle (passes : Nat) (columns : List Column) :
    AreRetyped columns (settle passes columns).1 := by
  apply settle_induction (motive := fun _ => AreRetyped columns) (refl columns)
  intro _ current retyped
  exact retyped.trans (settleFrom [] current)

theorem map_name (retyped : AreRetyped before after) :
    after.map Column.name = before.map Column.name := by
  induction retyped with
  | nil => rfl
  | cons head _ induction => rw [List.map_cons, List.map_cons, head.name_eq, induction]

/-- A reference leads to the same column, up to its type. -/
theorem find? (retyped : AreRetyped before after) (reference : String) :
    Option.Rel Column.IsRetyped
      (before.find? fun column => namesMatch column.name reference)
      (after.find? fun column => namesMatch column.name reference) :=
  find?_of_forall₂ Column.IsRetyped.name_eq retyped reference

end AreRetyped

/-! ## Chains of references -/

/-- The type at the end of the chain that begins at a column: the type of its first column without a
reference, or its first reference that leads nowhere. None if the chain does not end within `steps`
references. -/
def chainEnd (columns : List Column) : (steps : Nat) → Column → Option String
  | 0, column =>
    match column.reference? with
    | none => some column.dataType
    | some _ => none
  | steps + 1, column =>
    match column.reference? with
    | none => some column.dataType
    | some reference =>
      match columns.find? fun column => namesMatch column.name reference with
      | none => some reference
      | some target => chainEnd columns steps target

theorem chainEnd_of_no_reference {columns : List Column} {column : Column}
    (noReference : column.reference? = none) (steps : Nat) :
    chainEnd columns steps column = some column.dataType := by
  cases steps <;> simp [chainEnd, noReference]

theorem chainEnd_of_dangling {columns : List Column} {column : Column} {reference : String}
    (found : column.reference? = some reference)
    (dangling : (columns.find? fun column => namesMatch column.name reference) = none)
    (steps : Nat) : chainEnd columns (steps + 1) column = some reference := by
  simp [chainEnd, found, dangling]

theorem chainEnd_of_target {columns : List Column} {column target : Column} {reference : String}
    (found : column.reference? = some reference)
    (leads : (columns.find? fun column => namesMatch column.name reference) = some target)
    (steps : Nat) : chainEnd columns (steps + 1) column = chainEnd columns steps target := by
  simp [chainEnd, found, leads]

theorem chainEnd_succ {columns : List Column} {steps : Nat} {column : Column} {type : String}
    (ends : chainEnd columns steps column = some type) :
    chainEnd columns (steps + 1) column = some type := by
  induction steps generalizing column with
  | zero =>
    cases found : column.reference? with
    | none => rwa [chainEnd_of_no_reference found] at ends ⊢
    | some reference => simp [chainEnd, found] at ends
  | succ steps induction =>
    cases found : column.reference? with
    | none => rwa [chainEnd_of_no_reference found] at ends ⊢
    | some reference =>
      cases leads : columns.find? fun column => namesMatch column.name reference with
      | none => rwa [chainEnd_of_dangling found leads] at ends ⊢
      | some target =>
        rw [chainEnd_of_target found leads] at ends ⊢
        exact induction ends

/-- A chain does not depend on the types that its columns take. -/
theorem chainEnd_of_isRetyped {columns : List Column} {before after : Column}
    (retyped : before.IsRetyped after) (steps : Nat) :
    chainEnd columns steps after = chainEnd columns steps before := by
  cases steps <;> cases found : before.reference? with
  | none => simp [chainEnd, retyped.reference_eq, found, retyped.fixed found]
  | some reference => simp [chainEnd, retyped.reference_eq, found]

/-! ### Every chain that ends does so within one step for every column -/

/-- The columns whose chain does not end within `steps` references. -/
def openChains (columns : List Column) (steps : Nat) : List Column :=
  columns.filter fun column => (chainEnd columns steps column).isNone

theorem mem_openChains {columns : List Column} {steps : Nat} {column : Column} :
    column ∈ openChains columns steps ↔
      column ∈ columns ∧ chainEnd columns steps column = none := by
  simp [openChains, List.mem_filter, Option.isNone_iff_eq_none]

theorem openChains_sublist (columns : List Column) (steps : Nat) :
    (openChains columns (steps + 1)).Sublist (openChains columns steps) := by
  apply List.monotone_filter_right
  intro column isOpen
  cases ends : chainEnd columns steps column with
  | none => rfl
  | some type => simp [chainEnd_succ ends] at isOpen

/-- A chain that is still open after a step leads to a chain that was open before it. -/
theorem exists_target_of_open {columns : List Column} {steps : Nat} {column : Column}
    (isOpen : chainEnd columns (steps + 1) column = none) :
    ∃ reference target, column.reference? = some reference ∧
      (columns.find? fun column => namesMatch column.name reference) = some target ∧
      chainEnd columns steps target = none := by
  cases found : column.reference? with
  | none => simp [chainEnd_of_no_reference found] at isOpen
  | some reference =>
    cases leads : columns.find? fun column => namesMatch column.name reference with
    | none => simp [chainEnd_of_dangling found leads] at isOpen
    | some target =>
      rw [chainEnd_of_target found leads] at isOpen
      exact ⟨reference, target, rfl, leads, isOpen⟩

theorem openChains_stable {columns : List Column} {steps : Nat}
    (stable : openChains columns (steps + 1) = openChains columns steps) :
    openChains columns (steps + 2) = openChains columns (steps + 1) := by
  apply List.filter_congr
  intro column _
  cases ends : chainEnd columns (steps + 1) column with
  | some type => rw [chainEnd_succ ends]
  | none =>
    obtain ⟨reference, target, found, leads, targetOpen⟩ := exists_target_of_open ends
    have target : target ∈ openChains columns (steps + 1) := by
      rw [stable]
      exact mem_openChains.mpr ⟨List.mem_of_find?_eq_some leads, targetOpen⟩
    rw [chainEnd_of_target found leads, (mem_openChains.mp target).2]

/-- With every step an open chain ends, or none ever will. -/
theorem openChains_shrink (columns : List Column) (steps : Nat) :
    openChains columns (steps + 1) = openChains columns steps ∨
      (openChains columns (steps + 1)).length + (steps + 1) ≤ columns.length := by
  have fewer (steps : Nat) :
      openChains columns (steps + 1) = openChains columns steps ∨
        (openChains columns (steps + 1)).length < (openChains columns steps).length := by
    have sublist := openChains_sublist columns steps
    rcases Nat.lt_or_ge (openChains columns (steps + 1)).length
      (openChains columns steps).length with less | notLess
    · exact .inr less
    · exact .inl (sublist.eq_of_length_le notLess)
  induction steps with
  | zero =>
    have bound : (openChains columns 0).length ≤ columns.length := List.length_filter_le _ _
    rcases fewer 0 with stable | less
    · exact .inl stable
    · exact .inr (by omega)
  | succ steps induction =>
    rcases induction with stable | bound
    · exact .inl (openChains_stable stable)
    · rcases fewer (steps + 1) with stable | less
      · exact .inl stable
      · exact .inr (by omega)

/-- Chains that do not end within one step for every column do not end at all. -/
theorem openChains_length_succ (columns : List Column) :
    openChains columns (columns.length + 1) = openChains columns columns.length := by
  rcases openChains_shrink columns columns.length with stable | bound
  · exact stable
  · omega

/-! ## Types along chains -/

/-- Whether the columns whose chain ends within `steps` references have the type at its end. -/
def HaveEndTypes (columns : List Column) (steps : Nat) (current : List Column) : Prop :=
  ∀ column ∈ current, ∀ type, chainEnd columns steps column = some type → column.dataType = type

theorem HaveEndTypes.of_succ {columns current : List Column} {steps : Nat}
    (known : HaveEndTypes columns (steps + 1) current) : HaveEndTypes columns steps current :=
  fun column member type ends => known column member type (chainEnd_succ ends)

/-- A reference stands for the type at the end of its chain if the columns after it have that
type. -/
theorem referencedType_of_chainEnd {columns current : List Column} {steps : Nat} {column : Column}
    {reference type : String} (retyped : AreRetyped columns current)
    (known : HaveEndTypes columns steps current) (found : column.reference? = some reference)
    (ends : chainEnd columns (steps + 1) column = some type) :
    referencedType current reference = type := by
  have targets := retyped.find? reference
  unfold referencedType
  cases leads : columns.find? fun column => namesMatch column.name reference with
  | none =>
    rw [leads] at targets
    rw [chainEnd_of_dangling found leads] at ends
    cases currentLeads : current.find? fun column => namesMatch column.name reference with
    | none => exact Option.some.inj ends
    | some target => rw [currentLeads] at targets; cases targets
  | some target =>
    rw [leads] at targets
    rw [chainEnd_of_target found leads] at ends
    cases currentLeads : current.find? fun column => namesMatch column.name reference with
    | none => rw [currentLeads] at targets; cases targets
    | some currentTarget =>
      rw [currentLeads] at targets
      cases targets with
      | some same =>
        apply known currentTarget (List.mem_of_find?_eq_some currentLeads)
        rw [chainEnd_of_isRetyped same]
        exact ends

/-- A column whose chain ends one step later takes the type at its end. -/
theorem dataType_taking {columns current : List Column} {steps : Nat} {column : Column}
    {type : String} (retyped : AreRetyped columns current)
    (known : HaveEndTypes columns steps current)
    (ends : chainEnd columns (steps + 1) column = some type) :
    (column.taking current).dataType = type := by
  unfold Column.taking
  cases found : column.reference? with
  | none =>
    rw [chainEnd_of_no_reference found] at ends
    exact Option.some.inj ends
  | some reference => exact referencedType_of_chainEnd retyped known found ends

/-- One pass carries types one step further along the chains. -/
theorem haveEndTypes_settleFrom {columns : List Column} {steps : Nat} (done rest : List Column)
    (retyped : AreRetyped columns (done ++ rest))
    (known : HaveEndTypes columns steps (done ++ rest))
    (doneKnown : HaveEndTypes columns (steps + 1) done) :
    HaveEndTypes columns (steps + 1) (settleFrom done rest).1 := by
  induction rest generalizing done with
  | nil => simpa [settleFrom] using doneKnown
  | cons column rest induction =>
    rw [settleFrom_cons]
    let taken := column.taking (done ++ column :: rest)
    have sameColumn : column.IsRetyped taken := .taking _ column
    have takenKnown : ∀ type, chainEnd columns (steps + 1) taken = some type →
        taken.dataType = type := by
      intro type ends
      rw [chainEnd_of_isRetyped sameColumn] at ends
      exact dataType_taking retyped known ends
    -- The columns passed are one step ahead of those to come; the pass carries both facts.
    apply induction
    · exact retyped.trans (.step done column rest)
    · intro other member type ends
      rw [List.append_assoc, List.mem_append, List.singleton_append, List.mem_cons] at member
      rcases member with member | rfl | member
      · exact known other (by simp [member]) type ends
      · exact takenKnown type (chainEnd_succ ends)
      · exact known other (by simp [member]) type ends
    · intro other member type ends
      rcases List.mem_append.mp member with member | member
      · exact doneKnown other member type ends
      · rw [List.mem_singleton.mp member] at ends ⊢
        exact takenKnown type ends

theorem haveEndTypes_zero {columns current : List Column} : HaveEndTypes columns 0 current := by
  intro column _ type ends
  cases found : column.reference? with
  | none =>
    rw [chainEnd_of_no_reference found] at ends
    exact Option.some.inj ends
  | some reference => simp [chainEnd, found] at ends

/-- After as many passes as a chain is long its columns have the type at its end. -/
theorem haveEndTypes_settle (columns : List Column) (passes : Nat) :
    HaveEndTypes columns passes (settle passes columns).1 := by
  have both : AreRetyped columns (settle passes columns).1 ∧
      HaveEndTypes columns passes (settle passes columns).1 := by
    apply settle_induction (motive := fun steps current =>
      AreRetyped columns current ∧ HaveEndTypes columns steps current)
    · exact ⟨.refl columns, haveEndTypes_zero⟩
    · rintro steps current ⟨retyped, known⟩
      refine ⟨retyped.trans (.settleFrom [] current), ?_⟩
      exact haveEndTypes_settleFrom [] current retyped known (by simp [HaveEndTypes])
  exact both.2

/-! ## Types on endless chains -/

/-- An endless chain leads from a column to a column on an endless chain. -/
theorem exists_endless_target {columns current : List Column}
    (retyped : AreRetyped columns current) {column : Column} (member : column ∈ current)
    (endless : chainEnd columns columns.length column = none) :
    ∃ reference target, column.reference? = some reference ∧
      (current.find? fun column => namesMatch column.name reference) = some target ∧
      chainEnd columns columns.length target = none := by
  obtain ⟨original, originalMember, same⟩ := exists_mem_of_forall₂ retyped member
  rw [chainEnd_of_isRetyped same] at endless
  have isOpen : original ∈ openChains columns (columns.length + 1) := by
    rw [openChains_length_succ]
    exact mem_openChains.mpr ⟨originalMember, endless⟩
  obtain ⟨reference, target, found, leads, targetEndless⟩ :=
    exists_target_of_open (mem_openChains.mp isOpen).2
  have targets := retyped.find? reference
  rw [leads] at targets
  cases currentLeads : current.find? fun column => namesMatch column.name reference with
  | none => rw [currentLeads] at targets; cases targets
  | some currentTarget =>
    rw [currentLeads] at targets
    cases targets with
    | some sameTarget =>
      refine ⟨reference, currentTarget, ?_, currentLeads, ?_⟩
      · rw [same.reference_eq, found]
      · rw [chainEnd_of_isRetyped sameTarget, targetEndless]

/-- Whether the columns on endless chains have only types for which `allowed` holds. -/
def EndlessTypesAre (columns : List Column) (allowed : String → Prop) (current : List Column) :
    Prop :=
  ∀ column ∈ current, chainEnd columns columns.length column = none → allowed column.dataType

/-- Passes only move types along endless chains. -/
theorem endlessTypesAre_settleFrom {columns : List Column} {allowed : String → Prop}
    (done rest : List Column) (retyped : AreRetyped columns (done ++ rest))
    (all : EndlessTypesAre columns allowed (done ++ rest)) :
    EndlessTypesAre columns allowed (settleFrom done rest).1 := by
  induction rest generalizing done with
  | nil => simpa [settleFrom] using all
  | cons column rest induction =>
    rw [settleFrom_cons]
    have sameColumn : column.IsRetyped (column.taking (done ++ column :: rest)) := .taking _ column
    apply induction
    · exact retyped.trans (.step done column rest)
    · intro other member endless
      rw [List.append_assoc, List.mem_append, List.singleton_append, List.mem_cons] at member
      rcases member with member | rfl | member
      · exact all other (by simp [member]) endless
      · rw [chainEnd_of_isRetyped sameColumn] at endless
        obtain ⟨reference, target, found, leads, targetEndless⟩ :=
          exists_endless_target retyped (by simp) endless
        have type : (column.taking (done ++ column :: rest)).dataType = target.dataType := by
          simp [Column.taking, found, referencedType, leads]
        rw [type]
        exact all target (List.mem_of_find?_eq_some leads) targetEndless
      · exact all other (by simp [member]) endless

theorem endlessTypesAre_settle {columns : List Column} {allowed : String → Prop} (passes : Nat)
    (current : List Column) (retyped : AreRetyped columns current)
    (all : EndlessTypesAre columns allowed current) :
    EndlessTypesAre columns allowed (settle passes current).1 := by
  have both : AreRetyped columns (settle passes current).1 ∧
      EndlessTypesAre columns allowed (settle passes current).1 := by
    apply settle_induction (motive := fun _ current =>
      AreRetyped columns current ∧ EndlessTypesAre columns allowed current)
    · exact ⟨retyped, all⟩
    · rintro _ current ⟨retyped, all⟩
      refine ⟨retyped.trans (.settleFrom [] current), ?_⟩
      exact endlessTypesAre_settleFrom [] current retyped all
  exact both.2

/-! ## One pass for every column -/

/-- One pass for every column settles the columns if those on endless chains agree on one type in
the end. -/
theorem isSettled_settle {columns : List Column} {type : String}
    (endless : EndlessTypesAre columns (· = type) (settle columns.length columns).1) :
    IsSettled (settle columns.length columns).1 := by
  intro column member reference found
  let final := (settle columns.length columns).1
  have retyped : AreRetyped columns final := .settle columns.length columns
  have known : HaveEndTypes columns columns.length final :=
    haveEndTypes_settle columns columns.length
  -- Columns on endless chains agree with the columns they lead to, all others with their ends.
  cases ends : chainEnd columns columns.length column with
  | none =>
    obtain ⟨reference', target, found', leads, targetEndless⟩ :=
      exists_endless_target retyped member ends
    obtain rfl : reference = reference' := Option.some.inj (found.symm.trans found')
    rw [referencedType, leads, endless column member ends]
    exact (endless target (List.mem_of_find?_eq_some leads) targetEndless).symm
  | some endType =>
    obtain ⟨original, originalMember, _⟩ := exists_mem_of_forall₂ retyped member
    obtain ⟨steps, length⟩ : ∃ steps, columns.length = steps + 1 :=
      Nat.exists_eq_add_one.mpr (List.length_pos_of_mem originalMember)
    rw [known column member endType ends]
    rw [length] at known ends
    exact (referencedType_of_chainEnd retyped known.of_succ found ends).symm

/-! ## Whole tables -/

namespace Table

theorem map_name_resolve (table : Table) :
    table.resolve.columns.map Column.name = table.columns.map Column.name :=
  (AreRetyped.settle _ _).map_name.trans (map_name_markKeys _ _)

/-- A column of a resolved table is the column of the table before, up to its type, and marked if it
was or if a name of the key stands for it. -/
theorem exists_getElem?_of_resolve {table : Table} {index : Nat} {column : Column}
    (found : table.resolve.columns[index]? = some column) :
    ∃ before, table.columns[index]? = some before ∧
      (before.markedIf (∃ name ∈ table.primaryKey.names,
        NamesColumn table.columns name index)).IsRetyped column := by
  obtain ⟨marked, markedFound, same⟩ := exists_getElem?_of_forall₂ (AreRetyped.settle _ _) found
  rw [getElem?_markKeys] at markedFound
  obtain ⟨before, beforeFound, rfl⟩ := Option.map_eq_some_iff.mp markedFound
  exact ⟨before, beforeFound, same⟩

end Table

end SqlSchema
