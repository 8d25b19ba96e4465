import Mathlib.Data.List.Nodup
import SqlSchema.Setting.Toml

/-!
Keys of a settings file. A file that sets a key twice is refused, so in every section that is read,
each key stands once.
-/

namespace SqlSchema

/-! ## Entries with different keys -/

namespace Association

/-- Whether each key stands once and all values have a property. -/
structure IsDistinct {α : Type} (holds : α → Prop) (entries : List (String × α)) : Prop where
  distinct : (entries.map Prod.fst).Nodup
  inner : ∀ entry ∈ entries, holds entry.2

namespace IsDistinct

variable {α β : Type} {holds : α → Prop} {key : String} {value : α} {entries : List (String × α)}

theorem nil : IsDistinct holds ([] : List (String × α)) :=
  ⟨List.nodup_nil, fun _ member => absurd member List.not_mem_nil⟩

theorem lookup (isDistinct : IsDistinct holds entries) (found : entries.lookup key = some value) :
    holds value := by
  obtain ⟨front, back, rfl, -⟩ := List.lookup_eq_some_iff.mp found
  exact isDistinct.inner (key, value) (List.mem_append_right front List.mem_cons_self)

theorem put (isDistinct : IsDistinct holds entries) (isValue : holds value) :
    IsDistinct holds (Association.put key value entries) := by
  have keys : (Association.put key value entries).map Prod.fst =
      if key ∈ entries.map Prod.fst then entries.map Prod.fst
      else entries.map Prod.fst ++ [key] := by
    clear isDistinct
    induction entries with
    | nil => rfl
    | cons entry rest induction =>
      by_cases same : entry.1 = key
      · simp [Association.put, same]
      · rw [Association.put, if_neg same, List.map_cons, induction]
        by_cases member : key ∈ rest.map Prod.fst
        · simp [member]
        · simp [member, Ne.symm same]
  constructor
  · rw [keys]
    split
    · exact isDistinct.distinct
    · rename_i new
      rw [← List.concat_eq_append]
      exact isDistinct.distinct.concat new
  · have inner := isDistinct.inner
    clear isDistinct keys
    induction entries with
    | nil => simpa [Association.put] using isValue
    | cons entry rest induction =>
      obtain ⟨first, others⟩ := List.forall_mem_cons.mp inner
      unfold Association.put
      split
      · exact List.forall_mem_cons.mpr ⟨isValue, others⟩
      · exact List.forall_mem_cons.mpr ⟨first, induction others⟩

/-- Other values under the same keys. -/
theorem of_map {holds : β → Prop} {change : α → β} (distinct : (entries.map Prod.fst).Nodup)
    (changed : ∀ entry ∈ entries, holds (change entry.2)) :
    IsDistinct holds (entries.map fun entry => (entry.1, change entry.2)) where
  distinct := by rwa [List.map_map]
  inner entry member := by
    obtain ⟨source, sourceMember, rfl⟩ := List.mem_map.mp member
    exact changed source sourceMember

end IsDistinct

end Association

open Association (IsDistinct)

/-- Whether each key stands once in every section of a value. -/
inductive Setting.HasDistinctKeys : Setting → Prop
  | boolean (value : Bool) : HasDistinctKeys (.boolean value)
  | integer (value : Int) : HasDistinctKeys (.integer value)
  | float (value : Double) : HasDistinctKeys (.float value)
  | text (value : String) : HasDistinctKeys (.text value)
  | moment (value : String) : HasDistinctKeys (.moment value)
  | list {items : List Setting} (inner : ∀ item ∈ items, item.HasDistinctKeys) :
    HasDistinctKeys (.list items)
  | table {entries : List (String × Setting)} (distinct : (entries.map Prod.fst).Nodup)
    (inner : ∀ entry ∈ entries, entry.2.HasDistinctKeys) : HasDistinctKeys (.table entries)

namespace SectionNode

/-- Whether each key stands once in every section of a node. -/
inductive HasDistinctKeys : SectionNode → Prop
  | leaf {value : Setting} (inner : value.HasDistinctKeys) : HasDistinctKeys (.leaf value)
  | single {origin : SectionOrigin} {entries : Entries} (distinct : (entries.map Prod.fst).Nodup)
    (inner : ∀ entry ∈ entries, entry.2.HasDistinctKeys) : HasDistinctKeys (.single origin entries)
  | repeated {sections : List Entries}
    (distinct : ∀ entries ∈ sections, (entries.map Prod.fst).Nodup)
    (inner : ∀ entries ∈ sections, ∀ entry ∈ entries, entry.2.HasDistinctKeys) :
    HasDistinctKeys (.repeated sections)

/-- Whether each key stands once in a section and in every section below it. -/
abbrev AreDistinct (entries : Entries) : Prop :=
  IsDistinct HasDistinctKeys entries

section

variable {key : String} {home path : List String} {origin own : SectionOrigin} {setting : Setting}
  {node : SectionNode} {entries changed : Entries} {sections : List Entries}

theorem hasDistinctKeys_single :
    (single origin entries).HasDistinctKeys ↔ AreDistinct entries :=
  ⟨fun (.single distinct inner) => ⟨distinct, inner⟩,
    fun isDistinct => .single isDistinct.distinct isDistinct.inner⟩

theorem hasDistinctKeys_repeated :
    (repeated sections).HasDistinctKeys ↔ ∀ entries ∈ sections, AreDistinct entries :=
  ⟨fun (.repeated distinct inner) entries member =>
      ⟨distinct entries member, inner entries member⟩,
    fun all => .repeated (fun entries member => (all entries member).distinct)
      fun entries member => (all entries member).inner⟩

/-! ## Changes -/

/-- A change of a section below another one keeps keys distinct if it does so in that section. -/
theorem AreDistinct.change {act : SectionOrigin → Entries → Option Entries}
    (keeps : ∀ own entries changed, act own entries = some changed → AreDistinct entries →
      AreDistinct changed)
    (found : change origin path act own entries = some changed) (distinct : AreDistinct entries) :
    AreDistinct changed := by
  induction path generalizing own entries changed with
  | nil => exact keeps own entries changed found distinct
  | cons key rest induction =>
    unfold SectionNode.change at found
    split at found
    · obtain ⟨inner, innerFound, rfl⟩ := Option.map_eq_some_iff.mp found
      exact distinct.put (hasDistinctKeys_single.mpr (induction innerFound .nil))
    · cases found
    · rename_i known inner isSingle
      split at found
      · cases found
      · obtain ⟨inner', innerFound, rfl⟩ := Option.map_eq_some_iff.mp found
        have innerDistinct := hasDistinctKeys_single.mp (distinct.lookup isSingle)
        exact distinct.put (hasDistinctKeys_single.mpr (induction innerFound innerDistinct))
    · rename_i sections isRepeated
      split at found
      · cases found
      · rename_i last isLast
        obtain ⟨last', lastFound, rfl⟩ := Option.map_eq_some_iff.mp found
        have allDistinct := hasDistinctKeys_repeated.mp (distinct.lookup isRepeated)
        have lastDistinct := induction lastFound (allDistinct last (List.mem_of_getLast? isLast))
        refine distinct.put (hasDistinctKeys_repeated.mpr fun other member => ?_)
        rcases List.mem_append.mp member with member | member
        · exact allDistinct other (List.dropLast_subset sections member)
        · rw [List.mem_singleton.mp member]
          exact lastDistinct

theorem AreDistinct.assign (found : assign home path key setting entries = some changed)
    (isDistinct : setting.HasDistinctKeys) (distinct : AreDistinct entries) :
    AreDistinct changed := by
  refine AreDistinct.change (fun own entries changed found distinct => ?_) found distinct
  refine AreDistinct.change (fun own entries changed found distinct => ?_) found distinct
  split at found
  · cases found
  split at found
  · cases found
  · cases found
    exact distinct.put (.leaf isDistinct)

theorem AreDistinct.openSingle (found : openSingle home key entries = some changed)
    (distinct : AreDistinct entries) : AreDistinct changed := by
  refine AreDistinct.change (fun own entries changed found distinct => ?_) found distinct
  split at found
  · cases found
    exact distinct.put (hasDistinctKeys_single.mpr .nil)
  · rename_i inner isSingle
    cases found
    have innerDistinct := hasDistinctKeys_single.mp (distinct.lookup isSingle)
    exact distinct.put (hasDistinctKeys_single.mpr innerDistinct)
  · cases found

theorem AreDistinct.openRepeated (found : openRepeated home key entries = some changed)
    (distinct : AreDistinct entries) : AreDistinct changed := by
  have concat {sections : List Entries} (all : ∀ entries ∈ sections, AreDistinct entries) :
      (repeated (sections ++ [[]])).HasDistinctKeys :=
    hasDistinctKeys_repeated.mpr (List.forall_mem_append.mpr
      ⟨all, List.forall_mem_singleton.mpr .nil⟩)
  refine AreDistinct.change (fun own entries changed found distinct => ?_) found distinct
  split at found
  · cases found
    exact distinct.put (concat fun _ member => absurd member List.not_mem_nil)
  · rename_i sections isRepeated
    cases found
    exact distinct.put (concat (hasDistinctKeys_repeated.mp (distinct.lookup isRepeated)))
  · cases found

end

/-! ## Finished sections -/

theorem finishEntries_eq_map (entries : Entries) :
    finishEntries entries = entries.map fun entry => (entry.1, entry.2.finish) := by
  induction entries with
  | nil => rfl
  | cons entry rest induction => rw [finishEntries, List.map_cons, induction]

theorem finishSections_eq_map (sections : List Entries) :
    finishSections sections = sections.map fun entries => .table (finishEntries entries) := by
  induction sections with
  | nil => rfl
  | cons entries rest induction => rw [finishSections, List.map_cons, induction]

theorem hasDistinctKeys_finish {node : SectionNode} (distinct : node.HasDistinctKeys) :
    node.finish.HasDistinctKeys := by
  have table {entries : Entries} (distinct : (entries.map Prod.fst).Nodup)
      (inner : ∀ entry ∈ entries, entry.2.finish.HasDistinctKeys) :
      (Setting.table (finishEntries entries)).HasDistinctKeys := by
    have finished : IsDistinct Setting.HasDistinctKeys (finishEntries entries) := by
      rw [finishEntries_eq_map]
      exact .of_map distinct inner
    exact .table finished.distinct finished.inner
  induction distinct with
  | leaf inner =>
    rw [finish]
    exact inner
  | single distinct _ induction =>
    rw [finish]
    exact table distinct induction
  | repeated distinct _ induction =>
    rw [finish, finishSections_eq_map]
    refine .list fun item member => ?_
    obtain ⟨entries, entriesMember, rfl⟩ := List.mem_map.mp member
    exact table (distinct entries entriesMember) (induction entries entriesMember)

theorem AreDistinct.finishEntries {entries : Entries} (distinct : AreDistinct entries) :
    IsDistinct Setting.HasDistinctKeys (finishEntries entries) := by
  rw [finishEntries_eq_map]
  exact .of_map distinct.distinct fun entry member =>
    hasDistinctKeys_finish (distinct.inner entry member)

end SectionNode

namespace Toml

/-! ## Readers -/

variable {α β : Type} {holds : α → Prop} {holdsNext : β → Prop}

/-- Whether all values that a reader finds have a property. -/
def Yields (reader : Reader α) (holds : α → Prop) : Prop :=
  ∀ chars value rest, reader chars = some (value, rest) → holds value

theorem yields_pure {value : α} (isValue : holds value) : Yields (pure value) holds := by
  rintro chars found rest ⟨⟩
  exact isValue

theorem yields_failure : Yields (failure : Reader α) holds := by
  rintro chars found rest ⟨⟩

theorem yields_bind {first : Reader α} {next : α → Reader β} (yieldsFirst : Yields first holds)
    (yieldsNext : ∀ value, holds value → Yields (next value) holdsNext) :
    Yields (first >>= next) holdsNext := by
  intro chars value rest found
  obtain ⟨⟨middle, between⟩, foundFirst, foundNext⟩ := Option.bind_eq_some_iff.mp found
  exact yieldsNext middle (yieldsFirst chars middle between foundFirst) between value rest foundNext

/-- What a reader finds first may not matter. -/
theorem yields_next {first : Reader α} {next : α → Reader β}
    (yieldsNext : ∀ value, Yields (next value) holdsNext) :
    Yields (first >>= next) holdsNext := by
  have anything : Yields first fun _ => True := fun _ _ _ _ => trivial
  exact yields_bind anything fun value _ => yieldsNext value

theorem yields_lift {result : Option α} (isResult : ∀ value, result = some value → holds value) :
    Yields (liftM result : Reader α) holds := by
  intro chars value rest found
  obtain ⟨found', isFound, ⟨⟩⟩ := Option.bind_eq_some_iff.mp found
  exact isResult _ isFound

theorem yields_ite {condition : Prop} [Decidable condition] {left right : Reader α}
    (yieldsLeft : Yields left holds) (yieldsRight : Yields right holds) :
    Yields (if condition then left else right) holds := by
  split
  · exact yieldsLeft
  · exact yieldsRight

/-! ## Values -/

theorem yields_bounded (number : Int) : Yields (bounded number) Setting.HasDistinctKeys :=
  yields_ite (yields_pure (.integer number)) yields_failure

theorem yields_basedNumber (base : Nat) (isDigit : Char → Bool) :
    Yields (basedNumber base isDigit) Setting.HasDistinctKeys :=
  yields_next fun _ => yields_next fun _ => yields_bounded _

theorem yields_decimalNumber (isNegative : Bool) :
    Yields (decimalNumber isNegative) Setting.HasDistinctKeys := by
  refine yields_next fun isInfinite => yields_ite (yields_next fun _ => yields_pure (.float _)) ?_
  refine yields_next fun isNaN => yields_ite (yields_next fun _ => yields_pure (.float _)) ?_
  refine yields_next fun whole => yields_ite yields_failure ?_
  refine yields_next fun rest => yields_ite (yields_bounded _) ?_
  split
  · exact yields_ite yields_failure (yields_pure (.float _))
  · exact yields_failure

theorem yields_number : Yields number Setting.HasDistinctKeys := by
  refine yields_next fun _ => yields_ite (yields_basedNumber _ _) ?_
  refine yields_next fun _ => yields_ite (yields_basedNumber _ _) ?_
  refine yields_next fun _ => yields_ite (yields_basedNumber _ _) ?_
  refine yields_next fun _ => yields_ite (yields_next fun _ => yields_decimalNumber _) ?_
  exact yields_next fun _ =>
    yields_ite (yields_next fun _ => yields_decimalNumber _) (yields_decimalNumber _)

theorem yields_scalar : Yields scalar Setting.HasDistinctKeys := by
  refine yields_next fun chars => yields_ite (yields_next fun _ => yields_next fun text => ?_) ?_
  · exact yields_pure (.text text)
  refine yields_next fun _ => yields_ite (yields_next fun _ => yields_pure (.boolean _)) ?_
  refine yields_next fun _ => yields_ite (yields_next fun _ => yields_pure (.boolean _)) ?_
  refine yields_next fun rest => ?_
  split
  · exact yields_next fun _ => yields_pure (.moment _)
  · exact yields_number

section

variable {value : Reader Setting} (yieldsValue : Yields value Setting.HasDistinctKeys)

include yieldsValue

theorem yields_listItems (count : Nat) :
    Yields (listItems value count) fun items => ∀ item ∈ items, item.HasDistinctKeys := by
  induction count with
  | zero => exact yields_failure
  | succ count induction =>
    refine yields_next fun _ => yields_next fun _ => yields_ite ?_ ?_
    · exact yields_next fun _ => yields_pure fun _ member => absurd member List.not_mem_nil
    · refine yields_bind yieldsValue fun first isFirst => ?_
      refine yields_next fun _ => yields_next fun _ => yields_ite ?_ ?_
      · refine yields_next fun _ => yields_bind induction fun others areOthers => ?_
        exact yields_pure (List.forall_mem_cons.mpr ⟨isFirst, areOthers⟩)
      · exact yields_next fun _ => yields_pure (List.forall_mem_singleton.mpr isFirst)

theorem yields_assignment :
    Yields (assignment value) fun found => found.2.2.HasDistinctKeys :=
  yields_next fun _ => yields_next fun _ => yields_next fun _ =>
    yields_bind yieldsValue fun _ isSetting => yields_pure isSetting

theorem yields_inlineEntries (count : Nat) {entries : SectionNode.Entries}
    (distinct : SectionNode.AreDistinct entries) :
    Yields (inlineEntries value count entries) SectionNode.AreDistinct := by
  induction count generalizing entries with
  | zero => exact yields_failure
  | succ count induction =>
    refine yields_bind (yields_assignment yieldsValue) fun found isSetting => ?_
    refine yields_next fun _ => ?_
    refine yields_bind (yields_lift fun changed assigned => distinct.assign assigned isSetting)
      fun changed changedDistinct => ?_
    exact yields_next fun _ => yields_ite (yields_next fun _ => induction changedDistinct)
      (yields_next fun _ => yields_pure changedDistinct)

theorem yields_inlineSection : Yields (inlineSection value) Setting.HasDistinctKeys := by
  refine yields_next fun _ => yields_next fun _ => yields_next fun _ => yields_ite ?_ ?_
  · exact yields_next fun _ =>
      yields_pure (.table List.nodup_nil fun _ member => absurd member List.not_mem_nil)
  · refine yields_next fun chars =>
      yields_bind (yields_inlineEntries yieldsValue _ .nil) fun entries distinct => ?_
    exact yields_pure (.table distinct.finishEntries.distinct distinct.finishEntries.inner)

end

theorem yields_value (depth : Nat) : Yields (value depth) Setting.HasDistinctKeys := by
  induction depth with
  | zero => exact yields_scalar
  | succ depth induction =>
    refine yields_next fun _ => yields_ite ?_ (yields_next fun _ => yields_ite ?_ yields_scalar)
    · refine yields_next fun _ => yields_next fun chars => ?_
      exact yields_bind (yields_listItems induction _) fun items areItems =>
        yields_pure (.list areItems)
    · exact yields_inlineSection induction

/-! ## Files -/

theorem yields_line {file : OpenFile} (distinct : SectionNode.AreDistinct file.entries) :
    Yields (line file) fun next => SectionNode.AreDistinct next.entries := by
  refine yields_next fun _ => yields_ite ?_ (yields_next fun _ => yields_ite ?_ ?_)
  · refine yields_next fun _ => yields_next fun path => yields_next fun _ => ?_
    exact yields_bind (yields_lift fun changed opened => distinct.openRepeated opened)
      fun changed changedDistinct => yields_pure changedDistinct
  · refine yields_next fun _ => yields_next fun path => yields_next fun _ => ?_
    exact yields_bind (yields_lift fun changed opened => distinct.openSingle opened)
      fun changed changedDistinct => yields_pure changedDistinct
  · refine yields_next fun chars => yields_ite (yields_pure distinct) ?_
    refine yields_bind (yields_assignment (yields_value greatestDepth)) fun found isSetting => ?_
    exact yields_bind (yields_lift fun changed assigned => distinct.assign assigned isSetting)
      fun changed changedDistinct => yields_pure changedDistinct

theorem yields_lines (count : Nat) {file : OpenFile}
    (distinct : SectionNode.AreDistinct file.entries) :
    Yields (lines count file) fun last => SectionNode.AreDistinct last.entries := by
  induction count generalizing file with
  | zero => exact yields_failure
  | succ count induction =>
    refine yields_next fun _ => yields_bind (yields_line distinct) fun next nextDistinct => ?_
    refine yields_next fun _ => yields_next fun _ => yields_next fun chars => ?_
    exact yields_ite (yields_pure nextDistinct) (yields_next fun _ =>
      yields_ite (induction nextDistinct) yields_failure)

/-- In a settings file that is read each key stands once, in every section. -/
theorem isDistinct_of_read? {text : String} {entries : List (String × Setting)}
    (found : read? text = some entries) : IsDistinct Setting.HasDistinctKeys entries := by
  obtain ⟨file, run, rfl⟩ := Option.map_eq_some_iff.mp found
  obtain ⟨⟨last, rest⟩, ran, rfl⟩ := Option.map_eq_some_iff.mp run
  exact (yields_lines _ .nil _ _ _ ran).finishEntries

end Toml

end SqlSchema
