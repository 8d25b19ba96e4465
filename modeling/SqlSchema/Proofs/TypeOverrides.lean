import Mathlib
import SqlSchema.Proofs.AcceptedTypes
import SqlSchema.Proofs.ByteOrder
import SqlSchema.Proofs.DistinctKeys
import SqlSchema.Setting.Types

/-!
Entries of the type map. However entries are added to the built-in map, some of them refused, the
map answers for a SQL type as the list of them read backwards does. Of the entries in a settings
file whose keys differ only in case, the last one in the order of bytes wins, wherever it stands in
the file.
-/

namespace SqlSchema

/-! ## Upper and lower case -/

/-- Upper and lower case tell the same texts apart. -/
theorem Text.upperCase_eq_iff {left right : String} :
    Text.upperCase left = Text.upperCase right ↔ Text.equalIgnoringCase left right = true := by
  rw [upperCase, upperCase, String.ofList_inj, equalIgnoringCase, beq_iff_eq]
  constructor
  · intro same
    have lowered := congrArg (List.map Char.toLower) same
    simpa only [List.map_map, Function.comp_def, Char.toLower_toUpper_eq_toLower] using lowered
  · intro same
    have raised := congrArg (List.map Char.toUpper) same
    simpa only [List.map_map, Function.comp_def, Char.toUpper_toLower_eq_toUpper] using raised

namespace TypeMap

/-! ## Runs of insertions -/

/-- Whether the text of an entry is a type. -/
def isAccepted (pair : String × String) : Bool :=
  (CodeType.ofText? pair.2).isSome

/-- The map after an entry has been tried: the same map if the entry is refused. -/
def afterInsert (map : TypeMap) (pair : String × String) : TypeMap :=
  match map.insert pair.1 pair.2 with
  | .ok next => next
  | .error _ => map

/-- The map after entries have been tried one after the other. -/
def afterInserts (map : TypeMap) (pairs : List (String × String)) : TypeMap :=
  pairs.foldl afterInsert map

/-- The type in the last of the entries that was accepted and is for the SQL type, in any case. -/
def lastType? (pairs : List (String × String)) (sqlType : String) : Option String :=
  (pairs.reverse.find? fun pair =>
    isAccepted pair && Text.equalIgnoringCase pair.1 sqlType).map Prod.snd

/-- The built-in type for a SQL type, in any case. -/
def builtinType? (sqlType : String) : Option String :=
  (builtin.entries.find? fun entry => Text.equalIgnoringCase entry.1 sqlType).map Prod.snd

section

variable {map : TypeMap} {pair : String × String} {pairs : List (String × String)}
  {sqlType : String}

theorem insert_of_isAccepted (accepted : isAccepted pair = true) :
    map.insert pair.1 pair.2 = .ok ⟨(Text.upperCase pair.1, pair.2) :: map.entries⟩ :=
  insert_of_isSome accepted

theorem insert_of_not_isAccepted (refused : isAccepted pair = false) :
    map.insert pair.1 pair.2 = .error (.invalidType pair.2 pair.1) :=
  insert_of_none (Option.isSome_eq_false_iff.mp refused |> Option.isNone_iff_eq_none.mp)

theorem afterInsert_of_not_isAccepted (refused : isAccepted pair = false) :
    map.afterInsert pair = map := by
  rw [afterInsert, insert_of_not_isAccepted refused]

/-- An entry that is accepted answers for its SQL type, in any case, and for nothing else. -/
theorem find?_afterInsert : (map.afterInsert pair).find? sqlType =
    if isAccepted pair && Text.equalIgnoringCase pair.1 sqlType then some pair.2
    else map.find? sqlType := by
  cases accepted : isAccepted pair with
  | false => rw [afterInsert_of_not_isAccepted accepted, Bool.false_and, if_neg Bool.false_ne_true]
  | true =>
    rw [afterInsert, insert_of_isAccepted accepted, Bool.true_and]
    cases same : Text.equalIgnoringCase pair.1 sqlType with
    | true =>
      have isKey : Text.upperCase sqlType = Text.upperCase pair.1 :=
        (Text.upperCase_eq_iff.mpr same).symm
      simp [find?, isKey]
    | false =>
      have notKey : (Text.upperCase sqlType == Text.upperCase pair.1) = false := by
        refine beq_eq_false_iff_ne.mpr fun isKey => ?_
        rw [Text.upperCase_eq_iff.mp isKey.symm] at same
        cases same
      simp [find?, List.lookup_cons, notKey]

/-- A built-in SQL type is written in upper case. -/
theorem find?_builtin (sqlType : String) : builtin.find? sqlType = builtinType? sqlType := by
  have upper : ∀ entry ∈ builtin.entries, Text.upperCase entry.1 = entry.1 := by decide +kernel
  unfold find? builtinType?
  generalize builtin.entries = entries at upper
  induction entries with
  | nil => rfl
  | cons entry rest induction =>
    obtain ⟨isUpper, restUpper⟩ := List.forall_mem_cons.mp upper
    have sameKey : (Text.upperCase sqlType == entry.1) =
        Text.equalIgnoringCase entry.1 sqlType := by
      rw [Bool.eq_iff_iff, beq_iff_eq, ← Text.upperCase_eq_iff, isUpper, eq_comm]
    rw [List.lookup_cons, List.find?_cons, sameKey]
    cases Text.equalIgnoringCase entry.1 sqlType with
    | true => rfl
    | false => exact induction restUpper

/-- The map answers as its entries do, read backwards, and then as the built-in map. -/
theorem find?_afterInserts (pairs : List (String × String)) (sqlType : String) :
    (builtin.afterInserts pairs).find? sqlType =
      (lastType? pairs sqlType).or (builtinType? sqlType) := by
  induction pairs using List.reverseRecOn with
  | nil => exact find?_builtin sqlType
  | append_singleton pairs pair induction =>
    have step : builtin.afterInserts (pairs ++ [pair]) =
        (builtin.afterInserts pairs).afterInsert pair :=
      List.foldl_concat ..
    rw [step, find?_afterInsert, induction]
    unfold lastType?
    rw [List.reverse_append, List.reverse_singleton, List.singleton_append, List.find?_cons]
    cases isAccepted pair && Text.equalIgnoringCase pair.1 sqlType <;> rfl

/-- Entries are added up to the first that is refused. -/
theorem insertAll_eq (map : TypeMap) (pairs : List (String × String)) :
    map.insertAll pairs =
      match pairs.find? fun pair => !isAccepted pair with
      | some pair => .error (.invalidType pair.2 pair.1)
      | none => .ok (map.afterInserts pairs) := by
  induction pairs generalizing map with
  | nil => rfl
  | cons pair pairs induction =>
    rw [insertAll_cons, List.find?_cons]
    cases accepted : isAccepted pair with
    | false =>
      rw [insert_of_not_isAccepted accepted]
      rfl
    | true =>
      have step : map.afterInsert pair = ⟨(Text.upperCase pair.1, pair.2) :: map.entries⟩ := by
        rw [afterInsert, insert_of_isAccepted accepted]
      rw [insert_of_isAccepted accepted, ← step]
      exact induction (map.afterInsert pair)

/-- What an insertion does does not depend on the map. -/
theorem isOk_insert (map : TypeMap) (pair : String × String) :
    (map.insert pair.1 pair.2).isOk = isAccepted pair := by
  cases accepted : isAccepted pair with
  | false => rw [insert_of_not_isAccepted accepted]; rfl
  | true => rw [insert_of_isAccepted accepted]; rfl

theorem exists_insertAll_eq_error_iff :
    (∃ error, map.insertAll pairs = .error error) ↔ ∃ pair ∈ pairs, isAccepted pair = false := by
  rw [insertAll_eq]
  cases found : pairs.find? fun pair => !isAccepted pair with
  | none =>
    have all := List.find?_eq_none.mp found
    simpa using all
  | some pair =>
    have refused : isAccepted pair = false := by simpa using List.find?_some found
    exact ⟨fun _ => ⟨pair, List.mem_of_find?_eq_some found, refused⟩, fun _ => ⟨_, rfl⟩⟩

theorem eq_afterInserts_of_insertAll {last : TypeMap} (inserted : map.insertAll pairs = .ok last) :
    (∀ pair ∈ pairs, isAccepted pair = true) ∧ last = map.afterInserts pairs := by
  rw [insertAll_eq] at inserted
  split at inserted
  · cases inserted
  · rename_i found
    cases inserted
    exact ⟨by simpa using List.find?_eq_none.mp found, rfl⟩

end

/-! ## Overrides in a settings file -/

/-- The overrides in the section `type_map`, in the order in which they are written. -/
def overrides? (entries : List (String × Setting)) : Option (List (String × String)) :=
  match entries.lookup "type_map" with
  | none => some []
  | some (.table fields) => texts? fields
  | some (.moment written) => some [(momentKey, written)]
  | some _ => none

/-- Whether a file is a settings file with overrides, in the order in which they are written. -/
def HasOverrides (files : FileTree) (path : String) (overrides : List (String × String)) : Prop :=
  ∃ text entries, files.readText path = .ok text ∧ Toml.read? text = some entries ∧
    overrides? entries = some overrides

theorem hasOverrides_iff {files : FileTree} {path : String} {overrides : List (String × String)} :
    HasOverrides files path overrides ↔
      ((files.readText path).toOption.bind Toml.read?).bind overrides? = some overrides := by
  unfold HasOverrides
  cases files.readText path with
  | error cause => simp [Except.toOption]
  | ok text => simp [Except.toOption, Option.bind_eq_some_iff]

instance (files : FileTree) (path : String) (overrides : List (String × String)) :
    Decidable (HasOverrides files path overrides) :=
  decidable_of_iff _ hasOverrides_iff.symm

/-- Whether an override is the last one for a SQL type, in any case, in the order of the bytes of
what stands in the file for the SQL type. -/
def IsLastOverride (overrides : List (String × String)) (sqlType : String)
    (pair : String × String) : Prop :=
  pair ∈ overrides ∧ Text.equalIgnoringCase pair.1 sqlType = true ∧
    ∀ other ∈ overrides, Text.equalIgnoringCase other.1 sqlType = true →
      other = pair ∨ Text.bytes other.1 < Text.bytes pair.1

/-- Whether a map answers for a SQL type with what was found for it, if anything. -/
def Answers (map : TypeMap) (sqlType : String) (found : Option String) : Prop :=
  map.typeText sqlType = found.getD fallback ∧ map.contains sqlType = found.isSome

theorem answers_of_find? {map : TypeMap} {sqlType : String} {found : Option String}
    (isFound : map.find? sqlType = found) : map.Answers sqlType found :=
  ⟨by rw [typeText, isFound], by rw [contains, isFound]⟩

section

variable {files : FileTree} {path : String} {entries fields : List (String × Setting)}
  {overrides others stored : List (String × String)}

theorem pairs?_eq_map_ordered (entries : List (String × Setting)) :
    pairs? entries = (overrides? entries).map ordered := by
  unfold pairs? overrides?
  cases entries.lookup "type_map" with
  | none => rw [Option.map_some, ordered, List.mergeSort_nil]
  | some value =>
    cases value with
    | moment written => rw [Option.map_some, ordered, List.mergeSort_singleton]
    | _ => rfl

/-- The overrides of a settings file are stored in the order of their SQL types. -/
theorem loadPairs_eq_ok_iff : loadPairs files path = .ok stored ↔
    ∃ overrides, HasOverrides files path overrides ∧ stored = ordered overrides := by
  unfold loadPairs HasOverrides
  constructor
  · intro loaded
    split at loaded
    · cases loaded
    rename_i text isText
    split at loaded
    · rename_i pairs found
      cases loaded
      obtain ⟨entries, isRead, found⟩ := Option.bind_eq_some_iff.mp found
      rw [pairs?_eq_map_ordered] at found
      obtain ⟨overrides, isOverrides, rfl⟩ := Option.map_eq_some_iff.mp found
      exact ⟨overrides, ⟨text, entries, isText, isRead, isOverrides⟩, rfl⟩
    · cases loaded
  · rintro ⟨overrides, ⟨text, entries, isText, isRead, found⟩, rfl⟩
    simp only [isText, isRead, Option.bind_some, pairs?_eq_map_ordered, found, Option.map_some]

theorem map_fst_texts? (found : texts? fields = some overrides) :
    overrides.map Prod.fst = fields.map Prod.fst := by
  fun_induction texts? fields generalizing overrides with
  | case1 =>
    cases found
    rfl
  | case2 key text rest induction =>
    obtain ⟨others, isRest, rfl⟩ := Option.map_eq_some_iff.mp found
    rw [List.map_cons, List.map_cons, induction isRest]
  | case3 => cases found

/-- No two overrides in a settings file are for the same text. -/
theorem HasOverrides.nodup (isFile : HasOverrides files path overrides) :
    (overrides.map Prod.fst).Nodup := by
  obtain ⟨text, entries, -, isRead, found⟩ := isFile
  unfold overrides? at found
  split at found
  · cases found
    exact List.nodup_nil
  · rename_i fields isSection
    obtain ⟨distinct, -⟩ := (Toml.isDistinct_of_read? isRead).lookup isSection
    rwa [map_fst_texts? found]
  · cases found
    exact List.nodup_singleton _
  · cases found

/-! ## The order of overrides -/

theorem ordered_perm (overrides : List (String × String)) : (ordered overrides).Perm overrides :=
  List.mergeSort_perm overrides _

/-- Overrides with different keys are stored from the smallest key to the greatest. -/
theorem pairwise_ordered (distinct : (overrides.map Prod.fst).Nodup) :
    (ordered overrides).Pairwise fun left right => left.1 < right.1 := by
  have sorted : (ordered overrides).Pairwise fun left right => left.1 ≤ right.1 := by
    have isLe (left right : String × String) :
        (!decide (right.1 < left.1)) = true ↔ left.1 ≤ right.1 := by
      rw [Bool.not_eq_true', decide_eq_false_iff_not, not_lt]
    have sorted : (ordered overrides).Pairwise fun left right => !decide (right.1 < left.1) := by
      refine List.pairwise_mergeSort (fun left middle right => ?_) (fun left right => ?_) overrides
      · simp only [isLe]
        exact le_trans
      · rw [Bool.or_eq_true, isLe, isLe]
        exact le_total left.1 right.1
    exact sorted.imp (isLe _ _).mp
  have nodup : ((ordered overrides).map Prod.fst).Nodup :=
    ((ordered_perm overrides).map Prod.fst).nodup_iff.mpr distinct
  exact sorted.imp₂ (fun _ _ => lt_of_le_of_ne) (List.pairwise_map.mp nodup)

/-- Overrides with different keys are stored alike, however they are permuted. -/
theorem ordered_congr (distinct : (overrides.map Prod.fst).Nodup) (perm : others.Perm overrides) :
    ordered others = ordered overrides := by
  have distinct' : (others.map Prod.fst).Nodup := (perm.map Prod.fst).nodup_iff.mpr distinct
  have stored : (ordered others).Perm (ordered overrides) :=
    (ordered_perm others).trans (perm.trans (ordered_perm overrides).symm)
  exact stored.eq_of_pairwise (fun _ _ _ _ less greater => absurd less greater.asymm)
    (pairwise_ordered distinct') (pairwise_ordered distinct)

/-- Of stored overrides that are all types, the last one in the order of bytes answers. -/
theorem lastType?_ordered (distinct : (overrides.map Prod.fst).Nodup)
    (accepted : ∀ pair ∈ overrides, isAccepted pair = true) (sqlType : String) :
    (∃ pair, IsLastOverride overrides sqlType pair ∧
      lastType? (ordered overrides) sqlType = some pair.2) ∨
    (∀ pair ∈ overrides, Text.equalIgnoringCase pair.1 sqlType = false) ∧
      lastType? (ordered overrides) sqlType = none := by
  have isMember (pair : String × String) : pair ∈ ordered overrides ↔ pair ∈ overrides :=
    (ordered_perm overrides).mem_iff
  unfold lastType?
  cases found : (ordered overrides).reverse.find? fun pair =>
      isAccepted pair && Text.equalIgnoringCase pair.1 sqlType with
  | none =>
    refine .inr ⟨fun pair member => ?_, rfl⟩
    have stored := List.mem_reverse.mpr ((isMember pair).mpr member)
    have noMatch := List.find?_eq_none.mp found pair stored
    simpa [accepted pair member] using noMatch
  | some pair =>
    obtain ⟨isMatch, later, earlier, split, notLater⟩ := List.find?_eq_some_iff_append.mp found
    have stored : ordered overrides = earlier.reverse ++ pair :: later.reverse := by
      rw [← List.reverse_reverse (ordered overrides), split]
      simp
    refine .inl ⟨pair, ⟨(isMember pair).mp ?_, (Bool.and_eq_true_iff.mp isMatch).2, ?_⟩, rfl⟩
    · rw [stored]
      exact List.mem_append_right _ List.mem_cons_self
    · intro other member same
      have sorted := pairwise_ordered distinct
      have place := (isMember other).mpr member
      rw [stored] at sorted place
      rcases List.mem_append.mp place with before | after
      · exact .inr (Text.lt_iff_bytes_lt.mp
          ((List.pairwise_append.mp sorted).2.2 other before pair List.mem_cons_self))
      · rcases List.mem_cons.mp after with isPair | isLater
        · exact .inl isPair
        · have notMatch := notLater other (List.mem_reverse.mp isLater)
          simp [accepted other member, same] at notMatch

/-- Maps from the built-in one. Whether a text is refused does not depend on the map, and what is
refused changes nothing. After any entries have been tried a map answers for a SQL type with the
last entry for it, in any case, that was accepted, else as the built-in map does. A settings file
is refused exactly if some override is not a type; else the last override for the SQL type in the
order of bytes answers, in whatever order they are written. -/
theorem answers_of_overrides :
    (∀ (map : TypeMap) pair, (map.insert pair.1 pair.2).isOk = isAccepted pair) ∧
    (∀ pairs pair, isAccepted pair = false →
      builtin.afterInserts (pairs ++ [pair]) = builtin.afterInserts pairs) ∧
    (∀ pairs sqlType, (builtin.afterInserts pairs).Answers sqlType
      ((lastType? pairs sqlType).or (builtinType? sqlType))) ∧
    (∀ files path stored, loadPairs files path = .ok stored →
      ∃ overrides, HasOverrides files path overrides) ∧
    ∀ files path overrides, HasOverrides files path overrides →
      ∃ stored, loadPairs files path = .ok stored ∧
        ((∃ error, builtin.insertAll stored = .error error) ↔
          ∃ pair ∈ overrides, isAccepted pair = false) ∧
        (∀ map, builtin.insertAll stored = .ok map → ∀ sqlType,
          (∃ pair, IsLastOverride overrides sqlType pair ∧ map.Answers sqlType (some pair.2)) ∨
          (∀ pair ∈ overrides, Text.equalIgnoringCase pair.1 sqlType = false) ∧
            map.Answers sqlType (builtinType? sqlType)) ∧
        ∀ files' path' others, HasOverrides files' path' others → others.Perm overrides →
          loadPairs files' path' = .ok stored := by
  refine ⟨isOk_insert, ?_, fun pairs sqlType => answers_of_find? (find?_afterInserts pairs sqlType),
    ?_, ?_⟩
  · intro pairs pair refused
    rw [afterInserts, List.foldl_concat]
    exact afterInsert_of_not_isAccepted refused
  · intro files path stored loaded
    obtain ⟨overrides, isFile, -⟩ := loadPairs_eq_ok_iff.mp loaded
    exact ⟨overrides, isFile⟩
  · intro files path overrides isFile
    refine ⟨ordered overrides, loadPairs_eq_ok_iff.mpr ⟨overrides, isFile, rfl⟩, ?_, ?_, ?_⟩
    · simp only [exists_insertAll_eq_error_iff, (ordered_perm overrides).mem_iff]
    · intro map inserted sqlType
      obtain ⟨accepted, rfl⟩ := eq_afterInserts_of_insertAll inserted
      simp only [(ordered_perm overrides).mem_iff] at accepted
      have found := find?_afterInserts (ordered overrides) sqlType
      rcases lastType?_ordered isFile.nodup accepted sqlType with
        ⟨pair, isLast, last⟩ | ⟨none, last⟩
      · rw [last, Option.some_or] at found
        exact .inl ⟨pair, isLast, answers_of_find? found⟩
      · rw [last, Option.none_or] at found
        exact .inr ⟨none, answers_of_find? found⟩
    · intro files' path' others isFile' perm
      exact loadPairs_eq_ok_iff.mpr ⟨others, isFile', (ordered_congr isFile.nodup perm).symm⟩

/-- Of two overrides for the same SQL type the one in lower case comes last in the order of bytes,
though it is written first. -/
theorem answers_of_overrides_int :
    let files := FileTree.directory
      [("a.toml", .file "[type_map]\nint = \"u8\"\nInt = \"u16\"\n".toUTF8)]
    let overrides := [("int", "u8"), ("Int", "u16")]
    HasOverrides files "a.toml" overrides ∧ isAccepted ("int", "u8 u16") = false ∧
    builtin.afterInserts (overrides ++ [("int", "u8 u16")]) = builtin.afterInserts overrides ∧
    ∃ stored map, loadPairs files "a.toml" = .ok stored ∧ builtin.insertAll stored = .ok map ∧
      map.typeText "INT" = "u8" ∧ map.contains "INT" = true := by
  intro files overrides
  have isFile : HasOverrides files "a.toml" overrides := by decide +kernel
  have refused : isAccepted ("int", "u8 u16") = false := by decide +kernel
  obtain ⟨-, unchanged, -, -, ofFile⟩ := answers_of_overrides
  obtain ⟨stored, loaded, fails, answers, -⟩ := ofFile files "a.toml" overrides isFile
  refine ⟨isFile, refused, unchanged overrides _ refused, stored, ?_⟩
  cases inserted : builtin.insertAll stored with
  | error error =>
    have noError : ¬ ∃ pair ∈ overrides, isAccepted pair = false := by decide +kernel
    exact absurd (fails.mp ⟨error, inserted⟩) noError
  | ok map =>
    refine ⟨map, loaded, rfl, ?_⟩
    rcases answers map inserted "INT" with ⟨pair, ⟨member, -, isLast⟩, found⟩ | ⟨noMatch, -⟩
    · have isInt : pair = ("int", "u8") := by
        have last := isLast ("int", "u8") List.mem_cons_self (by decide +kernel)
        rcases last with same | less
        · exact same.symm
        · simp only [overrides, List.mem_cons, List.not_mem_nil, or_false] at member
          rcases member with rfl | rfl
          · rfl
          · exact absurd less (by decide +kernel)
      rw [isInt] at found
      exact found
    · exact absurd (noMatch ("int", "u8") List.mem_cons_self) (by decide +kernel)

end

end TypeMap

end SqlSchema
