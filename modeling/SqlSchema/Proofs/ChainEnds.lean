import Mathlib.Data.Finset.Card
import Mathlib.Data.Finset.Range
import Mathlib.Logic.Relation
import SqlSchema.Proofs.Idempotence

/-!
Ends of chains of references. A column leads to the first column of the name that it refers to.
Where no chain goes round through several columns, every chain ends: at a column that keeps its
type, or at a reference that leads nowhere. The number of columns on a chain that take their type
from elsewhere falls with every step along it, and one pass settles the chains with one such column
more. So resolution gives every column the type at the end of its chain, in whatever order the
columns stand.
-/

namespace SqlSchema

/-! ## Chains -/

/-- The first column of the name that the column at `index` refers to. -/
def nextColumn? (columns : List Column) (index : Nat) : Option Nat := do
  let column ← columns[index]?
  let reference ← column.reference?
  columns.findIdx? fun column => namesMatch column.name reference

/-- Whether the reference of the column at `index` stands for the column at `next`. -/
def LeadsTo (columns : List Column) (index next : Nat) : Prop :=
  nextColumn? columns index = some next

/-- The type with which a chain ends at the column at `index`: the type of the column if it has no
reference or refers to itself, its reference if no column has that name. None if the chain goes
on. -/
def endType? (columns : List Column) (index : Nat) : Option String := do
  let column ← columns[index]?
  match column.reference?, nextColumn? columns index with
  | none, _ => some column.dataType
  | some reference, none => some reference
  | some _, some next => if next = index then some column.dataType else none

/-- Whether the chain of references that begins at the column at `index` ends with that type. -/
def ChainEndsIn (columns : List Column) (index : Nat) (type : String) : Prop :=
  ∃ last, Relation.ReflTransGen (LeadsTo columns) index last ∧ endType? columns last = some type

/-- Whether no chain of references goes round through two or more columns. A column may refer to
itself. -/
def HasNoLongCycle (columns : List Column) : Prop :=
  ∀ left right, Relation.TransGen (LeadsTo columns) left right →
    Relation.TransGen (LeadsTo columns) right left → left = right

section

variable {columns : List Column} {index next last : Nat} {column : Column} {reference type : String}

theorem leadsTo_iff (found : columns[index]? = some column)
    (refers : column.reference? = some reference) :
    LeadsTo columns index next ↔ NamesColumn columns reference next := by
  simp [LeadsTo, nextColumn?, found, refers, NamesColumn]

theorem isSome_of_leadsTo (leads : LeadsTo columns index next) :
    (columns[index]?.bind Column.reference?).isSome = true := by
  unfold LeadsTo nextColumn? at leads
  rcases Option.bind_eq_some_iff.mp leads with ⟨column, found, leads⟩
  rcases Option.bind_eq_some_iff.mp leads with ⟨reference, refers, -⟩
  simp [found, refers]

theorem endType?_of_no_reference (found : columns[index]? = some column)
    (none : column.reference? = none) : endType? columns index = some column.dataType := by
  simp [endType?, found, none]

theorem endType?_of_self (found : columns[index]? = some column)
    (self : LeadsTo columns index index) : endType? columns index = some column.dataType := by
  have next : nextColumn? columns index = some index := self
  cases refers : column.reference? <;> simp [endType?, found, refers, next]

theorem endType?_of_dangling (found : columns[index]? = some column)
    (refers : column.reference? = some reference)
    (nowhere : ∀ next, ¬LeadsTo columns index next) : endType? columns index = some reference := by
  have none : nextColumn? columns index = none := Option.eq_none_iff_forall_not_mem.mpr nowhere
  simp [endType?, found, refers, none]

/-- From the end of a chain no reference leads to another column. -/
theorem eq_of_endType? (ends : endType? columns index = some type)
    (leads : LeadsTo columns index next) : next = index := by
  unfold LeadsTo at leads
  cases found : columns[index]? with
  | none => simp [endType?, found] at ends
  | some column =>
    cases refers : column.reference? with
    | none => simp [nextColumn?, found, refers] at leads
    | some reference =>
      simp only [endType?, found, refers, leads, Option.bind_eq_bind, Option.bind_some] at ends
      split at ends
      · assumption
      · cases ends

theorem eq_of_endType?_of_reaches (ends : endType? columns index = some type)
    (reaches : Relation.ReflTransGen (LeadsTo columns) index last) : last = index := by
  induction reaches with
  | refl => rfl
  | tail _ leads induction =>
    subst induction
    exact eq_of_endType? ends leads

/-- A chain ends with one type. -/
theorem ChainEndsIn.type_eq {other : String} (left : ChainEndsIn columns index type)
    (right : ChainEndsIn columns index other) : type = other := by
  rcases left with ⟨last, reaches, ends⟩
  rcases right with ⟨last', reaches', ends'⟩
  have one : Relator.RightUnique (LeadsTo columns) :=
    fun _ _ _ first second => Option.some.inj (first.symm.trans second)
  have same : last = last' := by
    rcases Relation.ReflTransGen.total_of_right_unique one reaches reaches' with further | further
    · exact (eq_of_endType?_of_reaches ends further).symm
    · exact eq_of_endType?_of_reaches ends' further
  subst same
  exact Option.some.inj (ends.symm.trans ends')

theorem ChainEndsIn.of_end (ends : endType? columns index = some type) :
    ChainEndsIn columns index type :=
  ⟨index, .refl, ends⟩

theorem ChainEndsIn.of_leadsTo (leads : LeadsTo columns index next)
    (ends : ChainEndsIn columns next type) : ChainEndsIn columns index type := by
  rcases ends with ⟨last, reaches, ends⟩
  exact ⟨last, reaches.head leads, ends⟩

/-! ### Columns that take their type from elsewhere -/

/-- Whether the column at `index` has a reference and does not refer to itself. -/
def isMoving (columns : List Column) (index : Nat) : Bool :=
  (columns[index]?.bind Column.reference?).isSome && nextColumn? columns index != some index

open scoped Classical in
/-- The columns on the chain from `index` that take their type from elsewhere. -/
noncomputable def movingColumns (columns : List Column) (index : Nat) : Finset Nat :=
  (Finset.range columns.length).filter fun other =>
    Relation.ReflTransGen (LeadsTo columns) index other ∧ isMoving columns other = true

theorem mem_movingColumns {other : Nat} :
    other ∈ movingColumns columns index ↔
      Relation.ReflTransGen (LeadsTo columns) index other ∧ isMoving columns other = true := by
  classical
  rw [movingColumns, Finset.mem_filter, Finset.mem_range, and_iff_right_iff_imp]
  rintro ⟨-, moving⟩
  apply Decidable.byContradiction
  intro outside
  simp [isMoving, List.getElem?_eq_none (Nat.not_lt.mp outside)] at moving

theorem card_movingColumns_le (columns : List Column) (index : Nat) :
    (movingColumns columns index).card ≤ columns.length := by
  classical
  apply le_trans (Finset.card_filter_le _ _)
  rw [Finset.card_range]

/-- Without a cycle fewer columns move along the chain after a step to another column. -/
theorem card_movingColumns_lt (acyclic : HasNoLongCycle columns)
    (leads : LeadsTo columns index next) (different : next ≠ index) :
    (movingColumns columns next).card < (movingColumns columns index).card := by
  apply Finset.card_lt_card
  constructor
  · intro other member
    rcases mem_movingColumns.mp member with ⟨reaches, moving⟩
    exact mem_movingColumns.mpr ⟨reaches.head leads, moving⟩
  · intro subset
    have moving : isMoving columns index = true := by
      have refers := isSome_of_leadsTo leads
      unfold LeadsTo at leads
      simp [isMoving, refers, leads, different]
    have member : index ∈ movingColumns columns next :=
      subset (mem_movingColumns.mpr ⟨.refl, moving⟩)
    rcases Relation.reflTransGen_iff_eq_or_transGen.mp (mem_movingColumns.mp member).1 with
      same | back
    · exact different same.symm
    · exact different (acyclic index next (.single leads) back).symm

theorem isMoving_of_not_ends (found : columns[index]? = some column)
    (notEnds : endType? columns index ≠ some column.dataType) : isMoving columns index = true := by
  cases refers : column.reference? with
  | none => exact absurd (endType?_of_no_reference found refers) notEnds
  | some reference =>
    have elsewhere : nextColumn? columns index ≠ some index :=
      fun self => notEnds (endType?_of_self found self)
    simp [isMoving, found, refers, elsewhere]

/-- No column moves along a chain that ends at its first column, if that keeps its type. -/
theorem movingColumns_eq_empty (ends : endType? columns index = some type)
    (keeps : isMoving columns index = false) : movingColumns columns index = ∅ := by
  apply Finset.eq_empty_of_forall_notMem
  intro other member
  rcases mem_movingColumns.mp member with ⟨reaches, moving⟩
  have same := eq_of_endType?_of_reaches ends reaches
  subst same
  rw [keeps] at moving
  cases moving

end

/-! ## Links -/

/-- What chains of references depend on: the name of a column and its reference. -/
def Column.link (column : Column) : String × Option String :=
  (column.name, column.reference?)

section

variable {columns others : List Column} (links : others.map Column.link = columns.map Column.link)
include links

theorem map_name_of_link : others.map Column.name = columns.map Column.name := by
  have names := congrArg (List.map Prod.fst) links
  rwa [List.map_map, List.map_map] at names

theorem nextColumn?_of_link (index : Nat) :
    nextColumn? others index = nextColumn? columns index := by
  have through (columns : List Column) : nextColumn? columns index =
      (columns.map Column.link)[index]?.bind fun link => link.2.bind fun reference =>
        (columns.map Column.name).findIdx? fun name => namesMatch name reference := by
    simp only [List.getElem?_map, List.findIdx?_map]
    unfold nextColumn?
    cases columns[index]? <;> rfl
  rw [through, through, links, map_name_of_link links]

theorem exists_of_link {index : Nat} {column : Column} (found : others[index]? = some column) :
    ∃ original, columns[index]? = some original ∧ original.reference? = column.reference? := by
  have same := congrArg (·[index]?) links
  simp only [List.getElem?_map, found] at same
  rcases Option.map_eq_some_iff.mp same.symm with ⟨original, originalFound, equal⟩
  exact ⟨original, originalFound, congrArg Prod.snd equal⟩

end

theorem AreRetyped.map_link {before after : List Column} (retyped : AreRetyped before after) :
    after.map Column.link = before.map Column.link := by
  induction retyped with
  | nil => rfl
  | cons head _ induction =>
    rw [List.map_cons, List.map_cons, induction, Column.link, head.name_eq, head.reference_eq]
    rfl

theorem map_markKeys {α : Type} {field : Column → α}
    (kept : ∀ holds column, field (Column.markedIf holds column) = field column)
    (names : List String) (columns : List Column) :
    (markKeys names columns).map field = columns.map field := by
  apply List.ext_getElem?
  intro index
  rw [List.getElem?_map, List.getElem?_map, getElem?_markKeys, Option.map_map]
  congr 1
  funext column
  exact kept _ column

/-! ## One pass, column by column -/

theorem take_settleFrom (done rest : List Column) :
    (settleFrom done rest).1.take done.length = done := by
  induction rest generalizing done with
  | nil => simp [settleFrom]
  | cons column rest induction =>
    have longer := congrArg (List.take done.length)
      (induction (done ++ [column.taking (done ++ column :: rest)]))
    rw [settleFrom_cons]
    simpa [List.take_take] using longer

/-- In a pass each column takes its type from the columns before it as the pass leaves them and from
those after it as the pass finds them. -/
theorem getElem?_settleFrom (done rest : List Column) (index : Nat) :
    (settleFrom done rest).1[done.length + index]? =
      rest[index]?.map (Column.taking
        ((settleFrom done rest).1.take (done.length + index) ++ rest.drop index)) := by
  induction rest generalizing done index with
  | nil => simp [settleFrom]
  | cons column rest induction =>
    rw [settleFrom_cons]
    cases index with
    | zero =>
      let next := done ++ [column.taking (done ++ column :: rest)]
      have length : done.length < next.length := by simp [next]
      have passed : (settleFrom next rest).1.take next.length = next := take_settleFrom next rest
      have before : (settleFrom next rest).1.take done.length = done := by
        rw [← Nat.min_eq_left length.le, ← List.take_take, passed]
        simp [next]
      have here : (settleFrom next rest).1[done.length]? = next[done.length]? := by
        rw [← List.getElem?_take_of_lt length, passed]
      rw [Nat.add_zero, here, before]
      simp [next]
    | succ index =>
      have next := induction (done ++ [column.taking (done ++ column :: rest)]) index
      rw [List.length_append, List.length_singleton, Nat.add_assoc, Nat.add_comm 1] at next
      simpa using next

section

variable {columns : List Column} {index next : Nat} {column : Column} {reference : String}

/-- The columns as a pass finds them when it comes to the column at `index`. -/
def midPass (columns : List Column) (index : Nat) : List Column :=
  (settleFrom [] columns).1.take index ++ columns.drop index

theorem exists_of_settleFrom (found : (settleFrom [] columns).1[index]? = some column) :
    ∃ before, columns[index]? = some before ∧ column = before.taking (midPass columns index) := by
  have step := getElem?_settleFrom [] columns index
  rw [List.length_nil, Nat.zero_add, found] at step
  rcases Option.map_eq_some_iff.mp step.symm with ⟨before, beforeFound, equal⟩
  exact ⟨before, beforeFound, equal.symm⟩

theorem getElem?_midPass_of_lt (less : next < index) (inside : index < columns.length) :
    (midPass columns index)[next]? = (settleFrom [] columns).1[next]? := by
  have length := (AreRetyped.settleFrom [] columns).length_eq
  rw [List.nil_append] at length
  rw [midPass, List.getElem?_append_left (by rw [List.length_take]; omega),
    List.getElem?_take_of_lt less]

theorem getElem?_midPass_of_le (notLess : index ≤ next) (inside : index < columns.length) :
    (midPass columns index)[next]? = columns[next]? := by
  have length := (AreRetyped.settleFrom [] columns).length_eq
  rw [List.nil_append] at length
  have before : ((settleFrom [] columns).1.take index).length = index := by
    rw [List.length_take]
    omega
  rw [midPass, List.getElem?_append_right (by omega), before, List.getElem?_drop,
    Nat.add_sub_cancel' notLess]

theorem map_link_midPass (columns : List Column) (index : Nat) :
    (midPass columns index).map Column.link = columns.map Column.link := by
  have same := (AreRetyped.settleFrom [] columns).map_link
  rw [List.nil_append] at same
  rw [midPass, List.map_append, List.map_take, List.map_drop, same, List.take_append_drop]

/-! ### References -/

/-- A reference stands for the type of the column that it leads to. -/
theorem referencedType_of_leadsTo {target : Column} (found : columns[index]? = some column)
    (refers : column.reference? = some reference) (leads : LeadsTo columns index next)
    (targetFound : columns[next]? = some target) :
    referencedType columns reference = target.dataType := by
  rcases namesColumn_iff.mp ((leadsTo_iff found refers).mp leads) with
    ⟨named, namedFound, same, before⟩
  cases targetFound.symm.trans namedFound
  rcases List.getElem?_eq_some_iff.mp namedFound with ⟨inside, equal⟩
  have first : columns.find? (fun column => namesMatch column.name reference) = some target := by
    refine List.find?_eq_some_iff_getElem.mpr ⟨same, next, inside, equal, fun earlier less => ?_⟩
    simpa using before earlier less _ (List.getElem?_eq_getElem (by omega))
  rw [referencedType, first]

/-- A reference that leads nowhere stands for itself. -/
theorem referencedType_of_nowhere (found : columns[index]? = some column)
    (refers : column.reference? = some reference) (nowhere : nextColumn? columns index = none) :
    referencedType columns reference = reference := by
  simp only [nextColumn?, found, refers, Option.bind_eq_bind, Option.bind_some] at nowhere
  have none : columns.find? (fun column => namesMatch column.name reference) = none := by
    apply List.find?_eq_none.mpr
    intro other member
    simp [List.findIdx?_eq_none_iff.mp nowhere other member]
  rw [referencedType, none]

theorem Column.taking_of_no_reference (none : column.reference? = none) :
    column.taking columns = column := by
  simp [Column.taking, none]

theorem Column.dataType_taking_of_reference (refers : column.reference? = some reference) :
    (column.taking columns).dataType = referencedType columns reference := by
  simp [Column.taking, refers]

end

/-! ## All passes -/

/-- Whether the columns have the type at the end of their chain, of which at most `moving` columns
take their type from elsewhere. -/
def HaveChainEnds (columns : List Column) (moving : Nat) (current : List Column) : Prop :=
  ∀ index column, current[index]? = some column →
    (movingColumns columns index).card ≤ moving → ChainEndsIn columns index column.dataType

section

variable {columns current : List Column} {moving : Nat}

/-- A column at which its own chain ends has the type at that end. -/
theorem HaveChainEnds.of_keeping (known : HaveChainEnds columns moving current) {index : Nat}
    {column : Column} {type : String} (found : current[index]? = some column)
    (ends : endType? columns index = some type) (keeps : isMoving columns index = false) :
    ChainEndsIn columns index column.dataType := by
  apply known index column found
  rw [movingColumns_eq_empty ends keeps, Finset.card_empty]
  exact Nat.zero_le moving

/-- One pass settles the chains with one moving column more. -/
theorem haveChainEnds_settleFrom (acyclic : HasNoLongCycle columns)
    (links : current.map Column.link = columns.map Column.link)
    (known : HaveChainEnds columns moving current) :
    HaveChainEnds columns (moving + 1) (settleFrom [] current).1 := by
  intro index
  -- The pass goes from left to right, so the columns before this one are a step ahead already.
  induction index using Nat.strong_induction_on with
  | _ index induction =>
    intro taken takenFound few
    rcases exists_of_settleFrom takenFound with ⟨column, found, rfl⟩
    rcases List.getElem?_eq_some_iff.mp found with ⟨inside, -⟩
    rcases exists_of_link links found with ⟨original, originalFound, sameReference⟩
    have midLinks := (map_link_midPass current index).trans links
    have midFound : (midPass current index)[index]? = some column :=
      (getElem?_midPass_of_le le_rfl inside).trans found
    cases refers : column.reference? with
    | none =>
      have ends := endType?_of_no_reference originalFound (sameReference.trans refers)
      rw [Column.taking_of_no_reference refers]
      apply known.of_keeping found ends
      simp [isMoving, originalFound, sameReference, refers]
    | some reference =>
      rw [Column.dataType_taking_of_reference refers]
      cases leads : nextColumn? columns index with
      | none =>
        have midNowhere := (nextColumn?_of_link midLinks index).trans leads
        rw [referencedType_of_nowhere midFound refers midNowhere]
        apply ChainEndsIn.of_end
        apply endType?_of_dangling originalFound (sameReference.trans refers)
        simp [LeadsTo, leads]
      | some next =>
        have midLeads : LeadsTo (midPass current index) index next :=
          (nextColumn?_of_link midLinks index).trans leads
        rcases namesColumn_iff.mp ((leadsTo_iff midFound refers).mp midLeads) with
          ⟨target, targetFound, -, -⟩
        rw [referencedType_of_leadsTo midFound refers midLeads targetFound]
        by_cases self : next = index
        · subst self
          cases midFound.symm.trans targetFound
          apply known.of_keeping found (endType?_of_self originalFound leads)
          simp [isMoving, leads]
        · have fewer := card_movingColumns_lt acyclic leads self
          apply ChainEndsIn.of_leadsTo leads
          rcases Nat.lt_or_ge next index with earlier | later
          · rw [getElem?_midPass_of_lt earlier inside] at targetFound
            exact induction next earlier target targetFound (by omega)
          · rw [getElem?_midPass_of_le later inside] at targetFound
            exact known next target targetFound (by omega)

theorem haveChainEnds_settle (acyclic : HasNoLongCycle columns) (passes : Nat)
    (links : current.map Column.link = columns.map Column.link)
    (known : HaveChainEnds columns 0 current) :
    HaveChainEnds columns passes (settle passes current).1 := by
  have both : (settle passes current).1.map Column.link = columns.map Column.link ∧
      HaveChainEnds columns passes (settle passes current).1 := by
    apply settle_induction (motive := fun moving current =>
      current.map Column.link = columns.map Column.link ∧ HaveChainEnds columns moving current)
    · exact ⟨links, known⟩
    · rintro moving current ⟨links, known⟩
      have retyped := AreRetyped.settleFrom [] current
      exact ⟨retyped.map_link.trans links, haveChainEnds_settleFrom acyclic links known⟩
  exact both.2

/-- Before the first pass the columns have the type at the end of their chain where no column moves
along it. -/
theorem haveChainEnds_zero (types : current.map Column.dataType = columns.map Column.dataType) :
    HaveChainEnds columns 0 current := by
  intro index column found few
  have same := congrArg (·[index]?) types
  simp only [List.getElem?_map, found] at same
  rcases Option.map_eq_some_iff.mp same.symm with ⟨original, originalFound, equal⟩
  rw [← equal]
  apply ChainEndsIn.of_end
  apply Decidable.byContradiction
  intro notEnds
  have member : index ∈ movingColumns columns index :=
    mem_movingColumns.mpr ⟨.refl, isMoving_of_not_ends originalFound notEnds⟩
  rw [Finset.card_eq_zero.mp (Nat.le_zero.mp few)] at member
  exact absurd member (Finset.notMem_empty index)

/-- Columns with the types at the ends of their chains are settled. -/
theorem isSettled_of_chainEnds (links : current.map Column.link = columns.map Column.link)
    (ends : ∀ index column, current[index]? = some column →
      ChainEndsIn columns index column.dataType) : IsSettled current := by
  intro column member reference refers
  rcases List.mem_iff_getElem?.mp member with ⟨index, found⟩
  rcases exists_of_link links found with ⟨original, originalFound, sameReference⟩
  have same := nextColumn?_of_link links index
  apply (ends index column found).type_eq
  cases leads : nextColumn? columns index with
  | none =>
    rw [referencedType_of_nowhere found refers (same.trans leads)]
    apply ChainEndsIn.of_end
    apply endType?_of_dangling originalFound (sameReference.trans refers)
    simp [LeadsTo, leads]
  | some next =>
    have currentLeads : LeadsTo current index next := same.trans leads
    rcases namesColumn_iff.mp ((leadsTo_iff found refers).mp currentLeads) with
      ⟨target, targetFound, -, -⟩
    rw [referencedType_of_leadsTo found refers currentLeads targetFound]
    exact (ends next target targetFound).of_leadsTo leads

end

/-! ## Whole tables -/

/-- Where a number falls with every step to another column, no chain goes round. -/
theorem hasNoLongCycle_of_rank {columns : List Column} (rank : Nat → Nat)
    (falls : ∀ index < columns.length, ∀ next ∈ nextColumn? columns index,
      next = index ∨ rank next < rank index) : HasNoLongCycle columns := by
  have step {index next : Nat} (leads : LeadsTo columns index next) :
      next = index ∨ rank next < rank index := by
    apply falls index _ next leads
    have refers := isSome_of_leadsTo leads
    apply Decidable.byContradiction
    intro outside
    simp [List.getElem?_eq_none (Nat.not_lt.mp outside)] at refers
  have steps {left right : Nat} (reaches : Relation.TransGen (LeadsTo columns) left right) :
      right = left ∨ rank right < rank left := by
    induction reaches with
    | single leads => exact step leads
    | tail _ leads induction =>
      rcases step leads with same | less
      · rwa [same]
      · rcases induction with same | less'
        · exact .inr (same ▸ less)
        · exact .inr (less.trans less')
  intro left right forth back
  rcases steps forth with same | less
  · exact same.symm
  · rcases steps back with same | less'
    · exact same
    · omega

namespace Table

/-- Resolution gives every column the type at the end of its chain of references, if no chain goes
round through several columns. Besides the types it changes the key marks only, no further pass
would change anything, and neither does another resolution. -/
theorem resolve_of_hasNoLongCycle {table : Table} (acyclic : HasNoLongCycle table.columns) :
    table.resolve = { table with columns := table.resolve.columns } ∧
    table.resolve.columns.length = table.columns.length ∧
    (∀ index column, table.columns[index]? = some column →
      ∃ type, (∀ other, ChainEndsIn table.columns index other ↔ other = type) ∧
        table.resolve.columns[index]? = some
          { column.markedIf (∃ name ∈ table.primaryKey.names, NamesColumn table.columns name index)
            with dataType := type }) ∧
    (∀ passes, settle passes table.resolve.columns = (table.resolve.columns, [])) ∧
    table.resolve.resolve = table.resolve := by
  let marked := markKeys table.primaryKey.names table.columns
  have retyped : AreRetyped marked table.resolve.columns := .settle _ _
  have length : table.resolve.columns.length = table.columns.length :=
    retyped.length_eq.symm.trans (length_markKeys _ _)
  have markedLinks : marked.map Column.link = table.columns.map Column.link :=
    map_markKeys (fun _ _ => rfl) _ _
  have markedTypes : marked.map Column.dataType = table.columns.map Column.dataType :=
    map_markKeys (fun _ _ => rfl) _ _
  have links := retyped.map_link.trans markedLinks
  have ends : ∀ index column, table.resolve.columns[index]? = some column →
      ChainEndsIn table.columns index column.dataType := by
    intro index column found
    have all := haveChainEnds_settle acyclic table.columns.length markedLinks
      (haveChainEnds_zero markedTypes)
    exact all index column found (card_movingColumns_le table.columns index)
  have settled := isSettled_of_chainEnds links ends
  refine ⟨rfl, length, ?_, settle_of_isSettled settled, resolve_of_isSettled settled⟩
  intro index column found
  rcases List.getElem?_eq_some_iff.mp found with ⟨inside, -⟩
  have resolved := List.getElem?_eq_getElem (show index < table.resolve.columns.length by omega)
  rcases exists_getElem?_of_resolve resolved with ⟨before, beforeFound, same⟩
  cases found.symm.trans beforeFound
  refine ⟨table.resolve.columns[index].dataType, fun other => ?_, ?_⟩
  · constructor
    · intro otherEnds
      exact otherEnds.type_eq (ends index _ resolved)
    · rintro rfl
      exact ends index _ resolved
  · rw [resolved, ← same.fields]

/-- References forward and backward, to the column itself, to the first of two columns of one name
and to no column. -/
theorem resolve_of_hasNoLongCycle_table :
    let columns : List Column :=
      [{ name := "A", isComputed := true, referenceText := some "b" },
        { name := "B", isComputed := true, referenceText := some "C" },
        { name := "C", dataType := "INT", isComputed := true, referenceText := some "c" },
        { name := "D", isComputed := true, referenceText := some "date" },
        { name := "b", dataType := "MONEY" },
        { name := "E", isComputed := true, referenceText := some "D" }]
    let table : Table := { schema := "dbo", name := "T", columns, primaryKey := .ofList ["e"] }
    HasNoLongCycle columns ∧
      table.resolve.columns.map Column.dataType = ["INT", "INT", "INT", "date", "MONEY", "date"] ∧
      table.resolve.resolve = table.resolve := by
  intro columns table
  have acyclic : HasNoLongCycle columns :=
    hasNoLongCycle_of_rank (fun index => [2, 1, 0, 0, 0, 1].getD index 0) (by decide +kernel)
  exact ⟨acyclic, by decide +kernel, (resolve_of_hasNoLongCycle acyclic).2.2.2.2⟩

end Table

end SqlSchema
