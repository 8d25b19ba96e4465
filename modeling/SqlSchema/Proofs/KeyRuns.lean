import Mathlib.Data.List.Sort
import SqlSchema.Proofs.Key
import SqlSchema.Table.Json

/-!
Keys made by several operations. However the names are given to a key, in one list or in many, by
merging, inserting or reading, the key is the one made of all of them in order: of every name that
is not blank it has the first spelling given, and those in order without regard to case.
-/

namespace SqlSchema

/-! ## First spellings -/

/-- The first of the names that matches. -/
def firstSpelling? (given : List String) (name : String) : Option String :=
  given.find? fun known => namesMatch known name

section

variable {given others : List String} {name other : String}

theorem firstSpelling?_congr (same : namesMatch name other = true) :
    firstSpelling? given name = firstSpelling? given other := by
  unfold firstSpelling?
  congr 1
  funext known
  exact namesMatch_congr_right same known

theorem namesMatch_of_firstSpelling? (first : firstSpelling? given name = some other) :
    namesMatch other name = true := by
  unfold firstSpelling? at first
  simpa using List.find?_some first

/-- The first spelling of a name is the first spelling of itself. -/
theorem firstSpelling?_self (first : firstSpelling? given name = some other) :
    firstSpelling? given other = some other := by
  rw [firstSpelling?_congr (namesMatch_of_firstSpelling? first), first]

theorem firstSpelling?_append :
    firstSpelling? (given ++ others) name =
      (firstSpelling? given name).or (firstSpelling? others name) :=
  List.find?_append

theorem firstSpelling?_eq_none_iff :
    firstSpelling? given name = none ↔ ∀ known ∈ given, namesMatch known name = false := by
  simp [firstSpelling?, List.find?_eq_none]

theorem exists_firstSpelling? (member : other ∈ given) (same : namesMatch other name = true) :
    ∃ first, firstSpelling? given name = some first := by
  cases found : firstSpelling? given name with
  | some first => exact ⟨first, rfl⟩
  | none =>
    rw [firstSpelling?_eq_none_iff.mp found other member] at same
    cases same

end

/-- Texts that increase in some order are given by which texts they are. -/
theorem eq_of_increasing (order : String → String) {left right : List String}
    (leftIncreasing : left.Pairwise fun first second => order first < order second)
    (rightIncreasing : right.Pairwise fun first second => order first < order second)
    (same : ∀ text, text ∈ left ↔ text ∈ right) : left = right := by
  let before (first second : String) : Prop := order first < order second
  have irreflexive : Std.Irrefl before := ⟨fun _ => String.lt_irrefl _⟩
  have antisymmetric : Std.Antisymm before :=
    ⟨fun _ _ less greater => absurd (String.lt_trans less greater) (String.lt_irrefl _)⟩
  exact leftIncreasing.eq_of_mem_iff rightIncreasing same

namespace Key

/-! ## Members of a key -/

section

variable {key : Key} {given : List String} {name other : String}

theorem nodup_map_lowerCase (key : Key) : (key.names.map Text.lowerCase).Nodup := by
  apply List.pairwise_map.mpr
  apply key.increasing.imp
  intro left right less same
  rw [same] at less
  exact String.lt_irrefl _ less

/-- In a key no two names match. -/
theorem eq_of_namesMatch (member : name ∈ key.names) (otherMember : other ∈ key.names)
    (same : namesMatch name other = true) : name = other :=
  List.inj_on_of_nodup_map key.nodup_map_lowerCase member otherMember
    (Text.equalIgnoringCase_iff.mp same)

theorem firstSpelling?_names (member : name ∈ key.names) :
    firstSpelling? key.names name = some name := by
  rcases exists_firstSpelling? member (Text.equalIgnoringCase_refl name) with ⟨first, found⟩
  have firstMember : first ∈ key.names := List.mem_of_find?_eq_some found
  rw [found, eq_of_namesMatch firstMember member (namesMatch_of_firstSpelling? found)]

theorem mem_insert :
    other ∈ (key.insert name).names ↔
      other ∈ key.names ∨
        other = name ∧ Text.isBlankText name = false ∧ key.contains name = false := by
  unfold insert
  split
  · rename_i blank
    simp [blank]
  split
  · rename_i present
    simp [present]
  · rename_i notBlank absent
    simp [mem_place, notBlank, absent, or_comm]

/-- A key is given by its names, in whatever order they are listed. -/
theorem eq_of_mem_iff {left right : Key}
    (same : ∀ name, name ∈ left.names ↔ name ∈ right.names) : left = right := by
  have names := eq_of_increasing Text.lowerCase left.increasing right.increasing same
  rcases left with ⟨_, _, _⟩
  rcases right with ⟨_, _, _⟩
  exact (mk.injEq ..).mpr names

end

/-! ## First spellings in a key -/

/-- Whether the names of the key are the first spellings of the names given that are not blank. -/
def HoldsFirst (key : Key) (given : List String) : Prop :=
  ∀ name, name ∈ key.names ↔ Text.isBlankText name = false ∧ firstSpelling? given name = some name

namespace HoldsFirst

variable {key other : Key} {given others : List String}

theorem empty : Key.empty.HoldsFirst [] := by
  intro name
  simp [Key.empty, firstSpelling?]

/-- The key has the first spelling of every name given that is not blank. -/
theorem mem_of_firstSpelling? (holds : key.HoldsFirst given) {name first : String}
    (notBlank : Text.isBlankText name = false) (found : firstSpelling? given name = some first) :
    first ∈ key.names := by
  have same := namesMatch_of_firstSpelling? found
  exact (holds first).mpr ⟨(isBlankText_congr same).trans notBlank, firstSpelling?_self found⟩

theorem contains_iff (holds : key.HoldsFirst given) {name : String} :
    key.contains name = true ↔
      ∃ known ∈ given, Text.isBlankText known = false ∧ namesMatch known name = true := by
  rw [Key.contains_iff]
  constructor
  · rintro ⟨known, member, same⟩
    rcases (holds known).mp member with ⟨notBlank, found⟩
    exact ⟨known, List.mem_of_find?_eq_some found, notBlank, same⟩
  · rintro ⟨known, member, notBlank, same⟩
    rcases exists_firstSpelling? member same with ⟨first, found⟩
    have nameNotBlank := (isBlankText_congr same).symm.trans notBlank
    exact ⟨first, holds.mem_of_firstSpelling? nameNotBlank found,
      namesMatch_of_firstSpelling? found⟩

/-- The columns that the key stands for are those of the names given. -/
theorem mem_map_lowerCase (holds : key.HoldsFirst given) {text : String} :
    text ∈ key.names.map Text.lowerCase ↔
      ∃ known ∈ given, Text.isBlankText known = false ∧ Text.lowerCase known = text := by
  rw [List.mem_map]
  constructor
  · rintro ⟨name, member, rfl⟩
    rcases (holds name).mp member with ⟨notBlank, found⟩
    exact ⟨name, List.mem_of_find?_eq_some found, notBlank, rfl⟩
  · rintro ⟨known, member, notBlank, rfl⟩
    have contains := holds.contains_iff.mpr
      ⟨known, member, notBlank, Text.equalIgnoringCase_refl known⟩
    rcases Key.contains_iff.mp contains with ⟨name, nameMember, same⟩
    exact ⟨name, nameMember, Text.equalIgnoringCase_iff.mp same⟩

/-- A name is new to the key exactly if no name given matches it. -/
theorem contains_eq_false_iff (holds : key.HoldsFirst given) {name : String}
    (notBlank : Text.isBlankText name = false) :
    key.contains name = false ↔ firstSpelling? given name = none := by
  rw [firstSpelling?_eq_none_iff, Bool.eq_false_iff, ne_eq, holds.contains_iff]
  constructor
  · intro new known member
    apply Bool.eq_false_iff.mpr
    intro same
    exact new ⟨known, member, (isBlankText_congr same).trans notBlank, same⟩
  · rintro none ⟨known, member, -, same⟩
    rw [none known member] at same
    cases same

/-- Inserting a name keeps the first spellings. -/
theorem insert (holds : key.HoldsFirst given) (new : String) :
    (key.insert new).HoldsFirst (given ++ [new]) := by
  intro name
  rw [mem_insert, holds name, firstSpelling?_append]
  constructor
  · rintro (⟨notBlank, found⟩ | ⟨rfl, notBlank, isNew⟩)
    · exact ⟨notBlank, by rw [found, Option.some_or]⟩
    · rw [(holds.contains_eq_false_iff notBlank).mp isNew, Option.none_or]
      exact ⟨notBlank, by simp [firstSpelling?, Text.equalIgnoringCase_refl]⟩
  · rintro ⟨notBlank, found⟩
    cases known : firstSpelling? given name with
    | some first =>
      rw [known, Option.some_or] at found
      exact .inl ⟨notBlank, found⟩
    | none =>
      rw [known, Option.none_or] at found
      have same : name = new := List.mem_singleton.mp (List.mem_of_find?_eq_some found)
      subst same
      exact .inr ⟨rfl, notBlank, (holds.contains_eq_false_iff notBlank).mpr known⟩

theorem merge (holds : key.HoldsFirst given) (names : List String) :
    (key.merge names).HoldsFirst (given ++ names) := by
  induction names generalizing key given with
  | nil => simpa [Key.merge] using holds
  | cons name names induction =>
    rw [merge_cons, List.append_cons]
    exact induction (holds.insert name)

theorem ofList (names : List String) : (Key.ofList names).HoldsFirst names :=
  empty.merge names

/-- Two keys with the first spellings of the same names are equal. -/
theorem eq (left : key.HoldsFirst given) (right : other.HoldsFirst given) : key = other :=
  eq_of_mem_iff fun name => (left name).trans (right name).symm

/-- The names of a key stand for all names that it was made from. -/
theorem merge_names (holds : key.HoldsFirst given) (otherHolds : other.HoldsFirst others) :
    (key.merge other.names).HoldsFirst (given ++ others) := by
  intro name
  have all := holds.merge other.names name
  rw [firstSpelling?_append] at all ⊢
  rw [all]
  apply and_congr_right
  intro notBlank
  cases known : firstSpelling? given name with
  | some first => rw [Option.some_or, Option.some_or]
  | none =>
    rw [Option.none_or, Option.none_or]
    constructor
    · intro found
      exact ((otherHolds name).mp (List.mem_of_find?_eq_some found)).2
    · intro found
      exact firstSpelling?_names ((otherHolds name).mpr ⟨notBlank, found⟩)

/-- Names that match names given already change nothing. -/
theorem merge_of_known (holds : key.HoldsFirst given) {again : List String}
    (known : ∀ name ∈ again, ∃ other ∈ given, namesMatch other name = true) :
    key.merge again = key := by
  apply eq (holds.merge again)
  intro name
  rw [holds name, firstSpelling?_append]
  cases found : firstSpelling? given name with
  | some first => rw [Option.some_or]
  | none =>
    rw [Option.none_or]
    apply and_congr_right
    intro notBlank
    constructor
    · intro impossible
      cases impossible
    · intro foundAgain
      rcases known name (List.mem_of_find?_eq_some foundAgain) with ⟨other, member, same⟩
      rw [firstSpelling?_eq_none_iff.mp found other member] at same
      cases same

end HoldsFirst

/-! ## Appending and sorting -/

/-- The order of names in a key: by lower case, and as spelled where that is equal. -/
def comesBefore (left right : String) : Bool :=
  Text.lowerCase left < Text.lowerCase right ∨
    Text.lowerCase left = Text.lowerCase right ∧ left ≤ right

/-- The names with a new one behind them, unless it is blank or matches one of them. -/
def appendNew (names : List String) (name : String) : List String :=
  if Text.isBlankText name = true ∨ names.any (fun known => namesMatch known name) = true then names
  else names ++ [name]

theorem comesBefore_trans (first second third : String) (before : comesBefore first second = true)
    (after : comesBefore second third = true) : comesBefore first third = true := by
  simp only [comesBefore, decide_eq_true_eq] at before after ⊢
  rcases before with less | ⟨same, spelled⟩
  · rcases after with less' | ⟨same', -⟩
    · exact .inl (String.lt_trans less less')
    · exact .inl (same' ▸ less)
  · rcases after with less' | ⟨same', spelled'⟩
    · exact .inl (same ▸ less')
    · exact .inr ⟨same.trans same', String.le_trans spelled spelled'⟩

theorem comesBefore_total (left right : String) :
    (comesBefore left right || comesBefore right left) = true := by
  simp only [comesBefore, Bool.or_eq_true, decide_eq_true_eq]
  by_cases less : Text.lowerCase left < Text.lowerCase right
  · exact .inl (.inl less)
  by_cases greater : Text.lowerCase right < Text.lowerCase left
  · exact .inr (.inl greater)
  have same := String.le_antisymm (String.not_lt.mp greater) (String.not_lt.mp less)
  rcases String.le_total left right with spelled | spelled
  · exact .inl (.inr ⟨same, spelled⟩)
  · exact .inr (.inr ⟨same.symm, spelled⟩)

theorem comesBefore_antisymm {left right : String} (before : comesBefore left right = true)
    (after : comesBefore right left = true) : left = right := by
  simp only [comesBefore, decide_eq_true_eq] at before after
  rcases before with less | ⟨same, spelled⟩
  · rcases after with greater | ⟨same, -⟩
    · exact absurd (String.lt_trans less greater) (String.lt_irrefl _)
    · exact absurd (same ▸ less) (String.lt_irrefl _)
  · rcases after with greater | ⟨-, spelled'⟩
    · exact absurd (same ▸ greater) (String.lt_irrefl _)
    · exact String.le_antisymm spelled spelled'

theorem perm_place (name : String) (names : List String) :
    (place name names).Perm (names ++ [name]) := by
  induction names with
  | nil => exact .refl _
  | cons head tail induction =>
    unfold place
    split
    · exact (List.perm_append_singleton name (head :: tail)).symm
    · exact induction.cons head

theorem perm_insert {key : Key} {names : List String} (perm : key.names.Perm names)
    (name : String) : (key.insert name).names.Perm (appendNew names name) := by
  have contains : names.any (fun known => namesMatch known name) = key.contains name :=
    perm.symm.any_eq
  unfold insert appendNew
  rw [contains]
  split
  · rename_i blank
    rwa [if_pos (.inl blank)]
  split
  · rename_i present
    rwa [if_pos (.inr present)]
  · rename_i notBlank absent
    rw [if_neg (not_or.mpr ⟨notBlank, absent⟩)]
    exact (perm_place name key.names).trans (perm.append_right [name])

theorem perm_merge {key : Key} {known : List String} (perm : key.names.Perm known)
    (names : List String) : (key.merge names).names.Perm (names.foldl appendNew known) := by
  induction names generalizing key known with
  | nil => exact perm
  | cons name names induction =>
    rw [merge_cons, List.foldl_cons]
    exact induction (perm_insert perm name)

/-- Merging names is appending those that are new and sorting all of them. -/
theorem names_merge_eq_mergeSort (key : Key) (names : List String) :
    (key.merge names).names = (names.foldl appendNew key.names).mergeSort comesBefore := by
  have sorted := List.pairwise_mergeSort comesBefore_trans comesBefore_total
    (names.foldl appendNew key.names)
  have increasing : (key.merge names).names.Pairwise fun left right => comesBefore left right :=
    (key.merge names).increasing.imp fun less => decide_eq_true (.inl less)
  apply List.Perm.eq_of_pairwise _ increasing sorted
  · exact (perm_merge (.refl _) names).trans (List.mergeSort_perm _ _).symm
  · exact fun _ _ _ _ => comesBefore_antisymm

/-! ## The order of the names given -/

/-- In another order the names give a key with the same columns, spelled differently at most. -/
theorem map_lowerCase_ofList_of_perm {given others : List String} (perm : others.Perm given) :
    (ofList others).names.map Text.lowerCase = (ofList given).names.map Text.lowerCase := by
  have increasing (key : Key) : (key.names.map Text.lowerCase).Pairwise fun first second =>
      id first < id second := List.pairwise_map.mpr key.increasing
  apply eq_of_increasing id (increasing _) (increasing _)
  intro text
  rw [(HoldsFirst.ofList others).mem_map_lowerCase, (HoldsFirst.ofList given).mem_map_lowerCase]
  simp only [perm.mem_iff]

end Key

namespace Table

open JsonValue

/-- The names that the JSON value of a table lists as its key. -/
def keyNames? (value : JsonValue) : Option (List String) := do
  let [_, _, _, key, _, _, _] ← recordFields? jsonKeys value | none
  fieldOr? [] (toList? toString?) key

theorem exists_keyNames?_of_ofJson? {value : JsonValue} {table : Table}
    (read : ofJson? value = some table) :
    ∃ names, keyNames? value = some names ∧ table.primaryKey = Key.ofList names := by
  unfold ofJson? at read
  rcases Option.bind_eq_some_iff.mp read with ⟨fields, recordRead, read⟩
  split at read
  · rcases Option.bind_eq_some_iff.mp read with ⟨_, _, read⟩
    rcases Option.bind_eq_some_iff.mp read with ⟨_, _, read⟩
    rcases Option.bind_eq_some_iff.mp read with ⟨_, _, read⟩
    rcases Option.bind_eq_some_iff.mp read with ⟨names, keyRead, read⟩
    rcases Option.bind_eq_some_iff.mp read with ⟨_, _, read⟩
    rcases Option.bind_eq_some_iff.mp read with ⟨_, _, read⟩
    rcases Option.bind_eq_some_iff.mp read with ⟨_, _, read⟩
    cases read
    refine ⟨names, ?_, rfl⟩
    simp only [keyNames?, recordRead]
    exact keyRead
  · cases read

end Table

/-! ## Runs of operations -/

namespace Key

/-- Whether a run of operations that gives the names `given`, in this order, makes the key. A key
can be merged into another as a whole; the names that it was made from then count as given. So a key
that is written as a list and read again is made from the same names. -/
inductive IsMadeFrom : (given : List String) → Key → Prop
  | empty : IsMadeFrom [] .empty
  | ofList (names : List String) : IsMadeFrom names (.ofList names)
  | read {value : JsonValue} {names : List String} {table : Table}
    (found : Table.ofJson? value = some table) (listed : Table.keyNames? value = some names) :
    IsMadeFrom names table.primaryKey
  | insert {given : List String} {key : Key} (made : IsMadeFrom given key) (name : String) :
    IsMadeFrom (given ++ [name]) (key.insert name)
  | merge {given : List String} {key : Key} (made : IsMadeFrom given key) (names : List String) :
    IsMadeFrom (given ++ names) (key.merge names)
  | mergeKey {given others : List String} {key other : Key} (made : IsMadeFrom given key)
    (otherMade : IsMadeFrom others other) : IsMadeFrom (given ++ others) (key.merge other.names)

/-- Every operation keeps the first spellings. -/
theorem IsMadeFrom.holdsFirst {given : List String} {key : Key} (made : IsMadeFrom given key) :
    key.HoldsFirst given := by
  induction made with
  | empty => exact .empty
  | ofList names => exact .ofList names
  | read found listed =>
    rcases Table.exists_keyNames?_of_ofJson? found with ⟨names, listed', equal⟩
    cases listed.symm.trans listed'
    rw [equal]
    exact .ofList _
  | insert _ name holds => exact holds.insert name
  | merge _ names holds => exact holds.merge names
  | mergeKey _ _ holds otherHolds => exact holds.merge_names otherHolds

/-- However a key is made, it is the key of all names given to it in order: these appended where
they are new and sorted. It is strictly increasing by lower case, has no blank name, and for every
name given that is not blank exactly one name that matches, the first one given. It contains what
matches a name given that is not blank. Names that match names given before change nothing, and the
names in another order give the same names up to case. -/
theorem eq_ofList_of_isMadeFrom {given : List String} {key : Key} (made : IsMadeFrom given key) :
    key = ofList given ∧
    key.names = (given.foldl appendNew []).mergeSort comesBefore ∧
    key.names.Pairwise (fun left right => Text.lowerCase left < Text.lowerCase right) ∧
    (∀ name ∈ key.names,
      Text.isBlankText name = false ∧ firstSpelling? given name = some name) ∧
    (∀ name ∈ given, Text.isBlankText name = false →
      ∃ first, firstSpelling? given name = some first ∧
        ∀ known, known ∈ key.names ∧ namesMatch known name = true ↔ known = first) ∧
    (∀ name, key.contains name = true ↔
      ∃ known ∈ given, Text.isBlankText known = false ∧ namesMatch known name = true) ∧
    (∀ again : List String, (∀ name ∈ again, ∃ known ∈ given, namesMatch known name = true) →
      key.merge again = key) ∧
    (∀ others : List String, others.Perm given →
      (ofList others).names.map Text.lowerCase = key.names.map Text.lowerCase) := by
  have holds := made.holdsFirst
  have equal : key = ofList given := holds.eq (.ofList given)
  have sorted := names_merge_eq_mergeSort .empty given
  refine ⟨equal, ?_, key.increasing, fun name => (holds name).mp, ?_, fun _ => holds.contains_iff,
    fun _ => holds.merge_of_known, ?_⟩
  · rw [equal]
    exact sorted
  · intro name member notBlank
    rcases exists_firstSpelling? member (Text.equalIgnoringCase_refl name) with ⟨first, found⟩
    refine ⟨first, found, fun known => ⟨?_, ?_⟩⟩
    · rintro ⟨knownMember, same⟩
      have knownFirst := ((holds known).mp knownMember).2
      rw [firstSpelling?_congr same, found] at knownFirst
      exact (Option.some.inj knownFirst).symm
    · rintro rfl
      exact ⟨holds.mem_of_firstSpelling? notBlank found, namesMatch_of_firstSpelling? found⟩
  · intro others perm
    rw [equal]
    exact map_lowerCase_ofList_of_perm perm

/-- A key read with a table, then merged with names and with another key. -/
theorem eq_ofList_of_isMadeFrom_read :
    let value := JsonValue.object [("schema", .string "dbo"), ("name", .string "T"),
      ("primaryKeyColumns", .array [.string "b", .string "A", .string "B"])]
    let read : Table := { schema := "dbo", name := "T", primaryKey := .ofList ["b", "A", "B"] }
    let key := ((read.primaryKey.merge [" ", "a"]).merge (ofList ["C", "B"]).names).insert "c"
    Table.ofJson? value = some read ∧ key = ofList ["b", "A", "B", " ", "a", "C", "B", "c"] ∧
      key.names = ["A", "b", "C"] := by
  intro value read key
  have found : Table.ofJson? value = some read := by decide +kernel
  have listed : Table.keyNames? value = some ["b", "A", "B"] := by decide +kernel
  have made : IsMadeFrom ["b", "A", "B", " ", "a", "C", "B", "c"] key :=
    (((IsMadeFrom.read found listed).merge [" ", "a"]).mergeKey (.ofList ["C", "B"])).insert "c"
  exact ⟨found, (eq_ofList_of_isMadeFrom made).1, by decide +kernel⟩

end Key

end SqlSchema
