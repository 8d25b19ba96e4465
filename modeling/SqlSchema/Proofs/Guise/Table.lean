import SqlSchema.Proofs.Guise.Basic
import SqlSchema.Proofs.Key
import SqlSchema.Proofs.Outcome

/-!
Tables in normal form. A normal form is a guise in which tables are compared: it also says what
remains of the texts of nodes. Keys, marks and references compare names without regard to case, so
resolving a table in normal form gives the resolved table in that form. Types are compared as they
are written, which only decides how early resolution stops and not where it ends.
-/

namespace SqlSchema

/-- A guise that has no other form in itself, with what remains of the texts of nodes. -/
structure NormalForm extends Guise where
  sql : String → String
  text_text (original : String) : text (text original) = text original
  sql_of_shows {original shown : String} (shows : Shows original shown) : sql shown = sql original

/-! ## Texts -/

namespace Guise

variable (guise : Guise)

theorem lowerCase_see (text : String) : Text.lowerCase (see guise text) = Text.lowerCase text := by
  refine Text.equalIgnoringCase_iff.mp ?_
  rw [equalIgnoringCase_see]
  exact Text.equalIgnoringCase_refl text

@[simp] theorem namesMatch_see (left right : String) :
    namesMatch (see guise left) (see guise right) = namesMatch left right := by
  rw [Bool.eq_iff_iff, namesMatch, namesMatch, Text.equalIgnoringCase_iff,
    Text.equalIgnoringCase_iff, lowerCase_see, lowerCase_see]

@[simp] theorem isBlankText_see (text : String) :
    Text.isBlankText (see guise text) = Text.isBlankText text :=
  isBlankText_congr (Text.equalIgnoringCase_iff.mpr (guise.lowerCase_see text))

end Guise

/-! ## Keys -/

namespace Key

/-- The key in another guise. -/
def seen (guise : Guise) (key : Key) : Key where
  names := see guise key.names
  increasing := by
    refine List.pairwise_map.mpr (key.increasing.imp fun less => ?_)
    rwa [guise.lowerCase_see, guise.lowerCase_see]
  notBlank := by
    intro name member
    obtain ⟨original, originalMember, rfl⟩ := List.mem_map.mp member
    rw [Guise.isBlankText_see]
    exact key.notBlank original originalMember

variable (guise : Guise)

theorem eq_of_names {left right : Key} (same : left.names = right.names) : left = right := by
  cases left
  cases right
  cases same
  rfl

theorem see_place (name : String) (names : List String) :
    see guise (place name names) = place (see guise name) (see guise names) := by
  induction names with
  | nil => rfl
  | cons head tail induction =>
    simp only [Guise.see_cons, place, Guise.lowerCase_see]
    split
    · rfl
    · rw [Guise.see_cons, induction]

theorem contains_seen (key : Key) (name : String) :
    (key.seen guise).contains (see guise name) = key.contains name := by
  have same : (namesMatch · (see guise name)) ∘ see guise = (namesMatch · name) :=
    funext fun other => Guise.namesMatch_see guise other name
  exact List.any_map.trans (congrArg key.names.any same)

theorem seen_insert (key : Key) (name : String) :
    (key.insert name).seen guise = (key.seen guise).insert (see guise name) := by
  unfold insert
  simp only [Guise.isBlankText_see, contains_seen]
  split
  · rfl
  split
  · rfl
  · exact eq_of_names (see_place guise name key.names)

theorem seen_merge (key : Key) (names : List String) :
    (key.merge names).seen guise = (key.seen guise).merge (see guise names) := by
  induction names generalizing key with
  | nil => rfl
  | cons name names induction =>
    rw [merge_cons, induction, seen_insert, Guise.see_cons, merge_cons]

end Key

/-! ## Columns and tables -/

/-- The column in normal form. -/
def Column.normal (form : NormalForm) (column : Column) : Column :=
  { column with
    name := form.text column.name
    dataType := form.text column.dataType
    referenceText := column.referenceText.map form.text
    sql := form.sql column.sql }

/-- The table in normal form. -/
def Table.normal (form : NormalForm) (table : Table) : Table :=
  { table with
    schema := form.text table.schema
    name := form.text table.name
    columns := table.columns.map (Column.normal form)
    primaryKey := table.primaryKey.seen form.toGuise
    sql := form.sql table.sql }

/-! ## Resolution -/

variable (form : NormalForm)

theorem map_normal_markKey (name : String) (columns : List Column) :
    (markKey name columns).map (Column.normal form) =
      markKey (form.text name) (columns.map (Column.normal form)) := by
  induction columns with
  | nil => rfl
  | cons column columns induction =>
    have same : namesMatch (column.normal form).name (form.text name) =
        namesMatch column.name name := form.namesMatch_see _ _
    rw [List.map_cons, markKey, markKey, same]
    split
    · rfl
    · rw [List.map_cons, induction]

theorem map_normal_markKeys (names : List String) (columns : List Column) :
    (markKeys names columns).map (Column.normal form) =
      markKeys (names.map form.text) (columns.map (Column.normal form)) := by
  induction names generalizing columns with
  | nil => rfl
  | cons name names induction =>
    change (markKeys names (markKey name columns)).map (Column.normal form) = _
    rw [induction, map_normal_markKey]
    rfl

theorem text_referencedType (columns : List Column) (reference : String) :
    form.text (referencedType columns reference) =
      referencedType (columns.map (Column.normal form)) (form.text reference) := by
  have found : (columns.map (Column.normal form)).find? (fun column =>
      namesMatch column.name (form.text reference)) =
      (columns.find? fun column => namesMatch column.name reference).map (Column.normal form) := by
    have same : (fun column : Column => namesMatch column.name (form.text reference)) ∘
        Column.normal form = fun column => namesMatch column.name reference :=
      funext fun column => form.namesMatch_see column.name reference
    rw [List.find?_map, same]
  unfold referencedType
  rw [found]
  cases columns.find? fun column => namesMatch column.name reference <;> rfl

theorem Column.reference?_normal (column : Column) :
    (column.normal form).reference? = column.reference?.map form.text := by
  unfold reference?
  change (column.referenceText.map form.text).filter _ = _
  cases column.referenceText with
  | none => rfl
  | some text =>
    have blank : Text.isBlankText (form.text text) = Text.isBlankText text :=
      form.isBlankText_see text
    simp only [Option.map_some, Option.filter_some, blank]
    split <;> rfl

theorem Column.normal_taking (columns : List Column) (column : Column) :
    (column.taking columns).normal form =
      (column.normal form).taking (columns.map (Column.normal form)) := by
  unfold Column.taking
  rw [Column.reference?_normal]
  cases column.reference? with
  | none => rfl
  | some reference =>
    simp only [Option.map_some, ← text_referencedType]
    rfl

/-- A pass over columns in normal form does what the pass over the columns does. It may report
fewer changes. -/
theorem map_normal_settleFrom (done rest : List Column) :
    (settleFrom done rest).1.map (Column.normal form) =
      (settleFrom (done.map (Column.normal form)) (rest.map (Column.normal form))).1 := by
  induction rest generalizing done with
  | nil => rfl
  | cons column rest induction =>
    rw [List.map_cons, settleFrom_cons, settleFrom_cons, induction, List.map_append,
      List.map_singleton, Column.normal_taking, List.map_append, List.map_cons]

/-- The passes may stop at different times, but a pass that reports no change changes nothing, so
counting all of them comes to the same. -/
theorem map_normal_settle (passes : Nat) (columns : List Column) :
    (settle passes columns).1.map (Column.normal form) =
      (settle passes (columns.map (Column.normal form))).1 := by
  induction passes generalizing columns with
  | zero => rfl
  | succ passes induction =>
    rw [settle_succ, settle_succ, induction, map_normal_settleFrom, List.map_nil]

namespace Table

theorem normal_resolve (table : Table) :
    table.resolve.normal form = (table.normal form).resolve := by
  have columns : table.resolve.columns.map (Column.normal form) =
      (table.normal form).resolve.columns := by
    change (settle table.columns.length (markKeys table.primaryKey.names table.columns)).1.map _ =
      (settle (table.columns.map (Column.normal form)).length (markKeys
        (table.primaryKey.names.map form.text) (table.columns.map (Column.normal form)))).1
    rw [map_normal_settle, map_normal_markKeys, List.length_map]
  change { table.normal form with columns := table.resolve.columns.map (Column.normal form) } =
    { table.normal form with columns := (table.normal form).resolve.columns }
  rw [columns]

theorem defect?_normal_eq_none_iff (table : Table) :
    (table.normal form).defect? = none ↔ table.defect? = none := by
  have blank (text : String) : Text.isBlankText (form.text text) = Text.isBlankText text :=
    form.isBlankText_see text
  rw [defect?_eq_none_iff, defect?_eq_none_iff]
  simp [normal, Column.normal, blank]

end Table

end SqlSchema
