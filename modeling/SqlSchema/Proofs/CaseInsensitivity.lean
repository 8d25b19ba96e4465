import SqlSchema.Proofs.Guise.Extraction
import SqlSchema.Proofs.Respelling.LowerCase
import SqlSchema.Proofs.Tiling

/-!
Keywords and names are read without regard to case. Scripts that differ only in the case of ASCII
letters are compared through the same script in small letters: each step from characters to tables
yields what it yields there, up to case.
-/

namespace SqlSchema

open Respelling

/-! ## What differs only in case -/

/-- Whether the tokens differ at most in the case of their texts. -/
structure Token.SameUpToCase (left right : Token) : Prop where
  kind : left.kind = right.kind
  start : left.start = right.start
  stop : left.stop = right.stop
  line : left.line = right.line
  opensLine : left.opensLine = right.opensLine
  text : Text.equalIgnoringCase left.text right.text = true

/-- Whether the columns differ at most in the case of their texts. -/
structure Column.SameUpToCase (left right : Column) : Prop where
  name : Text.equalIgnoringCase left.name right.name = true
  dataType : Text.equalIgnoringCase left.dataType right.dataType = true
  argument1 : left.argument1 = right.argument1
  argument2 : left.argument2 = right.argument2
  isComputed : left.isComputed = right.isComputed
  referenceText : Option.Rel (fun left right => Text.equalIgnoringCase left right = true)
    left.referenceText right.referenceText
  constraint : left.constraint = right.constraint
  isMarkedKey : left.isMarkedKey = right.isMarkedKey
  isMarkedIdentity : left.isMarkedIdentity = right.isMarkedIdentity
  sql : Text.equalIgnoringCase left.sql right.sql = true

/-- Whether the tables differ at most in the case of their texts. Columns and names of the key
correspond in their order. -/
structure Table.SameUpToCase (left right : Table) : Prop where
  schema : Text.equalIgnoringCase left.schema right.schema = true
  name : Text.equalIgnoringCase left.name right.name = true
  columns : List.Forall₂ Column.SameUpToCase left.columns right.columns
  keyNames : List.Forall₂ (fun left right => Text.equalIgnoringCase left right = true)
    left.primaryKey.names right.primaryKey.names
  sourcePath : left.sourcePath = right.sourcePath
  outputPath : left.outputPath = right.outputPath
  sql : Text.equalIgnoringCase left.sql right.sql = true

/-- Whether reading succeeds on both sides or fails on the same line. -/
abbrev SameReading {α : Type} (values : α → α → Prop) :
    Except SyntaxError α → Except SyntaxError α → Prop :=
  SameOutcome values fun left right => left.line = right.line

/-- Whether both statements yield a table, the same up to case, or both have a defect. -/
def TableOutcome.SameUpToCase (left right : TableOutcome) : Prop :=
  SameOutcome Table.SameUpToCase (fun _ _ => True) left.result right.result

/-! ## Equality in small letters -/

theorem Text.lowerCase_lowerCase (text : String) : lowerCase (lowerCase text) = lowerCase text :=
  Respelling.lowerCase.lowerCase_respell text

/-- Small letters as the form in which tables are compared. -/
def NormalForm.lowerCase : NormalForm where
  toGuise := Respelling.lowerCase.guise
  sql := Text.lowerCase
  text_text := Text.lowerCase_lowerCase
  sql_of_shows {original _} shows :=
    (congrArg Text.lowerCase shows).trans (Text.lowerCase_lowerCase original)

theorem rel_of_map_lowerCase_eq {left right : Option String}
    (same : left.map Text.lowerCase = right.map Text.lowerCase) :
    Option.Rel (fun first second => Text.equalIgnoringCase first second = true) left right := by
  cases left with
  | none =>
    cases right with
    | none => exact .none
    | some text => cases same
  | some text =>
    cases right with
    | none => cases same
    | some other => exact .some (Text.equalIgnoringCase_iff.mpr (Option.some.inj same))

theorem Column.sameUpToCase_of_normal_eq {left right : Column}
    (same : left.normal .lowerCase = right.normal .lowerCase) : left.SameUpToCase right := by
  obtain ⟨name, dataType, argument1, argument2, isComputed, reference, constraint, isMarkedKey,
    isMarkedIdentity, sql⟩ := Column.mk.inj same
  exact
    { name := Text.equalIgnoringCase_iff.mpr name
      dataType := Text.equalIgnoringCase_iff.mpr dataType
      argument1, argument2, isComputed
      referenceText := rel_of_map_lowerCase_eq reference
      constraint, isMarkedKey, isMarkedIdentity
      sql := Text.equalIgnoringCase_iff.mpr sql }

theorem Table.sameUpToCase_of_normal_eq {left right : Table}
    (same : left.normal .lowerCase = right.normal .lowerCase) : left.SameUpToCase right := by
  obtain ⟨schema, name, columns, key, sourcePath, outputPath, sql⟩ := Table.mk.inj same
  exact
    { schema := Text.equalIgnoringCase_iff.mpr schema
      name := Text.equalIgnoringCase_iff.mpr name
      columns :=
        (forall₂_of_map_eq columns).imp fun _ _ => Column.sameUpToCase_of_normal_eq
      keyNames :=
        (forall₂_of_map_eq (Key.mk.inj key)).imp fun _ _ => Text.equalIgnoringCase_iff.mpr
      sourcePath, outputPath
      sql := Text.equalIgnoringCase_iff.mpr sql }

theorem CreateTable.sameUpToCase_process (path : String) (isTracing : Bool)
    {left right : CreateTable}
    (same : (left.resolvedTable path isTracing).normal .lowerCase =
      (right.resolvedTable path isTracing).normal .lowerCase) :
    (left.process path isTracing).SameUpToCase (right.process path isTracing) := by
  refine ((process_normal path isTracing same).imp ?_).imp_error ?_
  · exact fun _ _ => Table.sameUpToCase_of_normal_eq
  · exact fun _ _ _ => trivial

/-! ## Tokens -/

theorem Token.stop_respell_lowerCase (token : Token) :
    (respell lowerCase token).stop = token.stop := by
  have size : (Text.lowerCase token.text).utf8ByteSize = token.text.utf8ByteSize := by
    have places := congrArg Place.offset (Place.after_respell lowerCase .origin token.text.toList)
    rwa [Place.offset_after_origin, Place.offset_after_origin, ← respell_ofList,
      String.ofList_toList] at places
  exact congrArg (token.start + ·) size

theorem Token.sameUpToCase_of_respell_eq {left right : Token}
    (same : respell lowerCase left = respell lowerCase right) : left.SameUpToCase right := by
  have stop : left.stop = right.stop := by
    rw [← stop_respell_lowerCase, same, stop_respell_lowerCase]
  obtain ⟨kind, text, -, start, line, opensLine⟩ := Token.mk.inj same
  exact
    { kind, start, stop, line, opensLine
      text := Text.equalIgnoringCase_iff.mpr text }

theorem SyntaxError.line_respell_lowerCase (error : SyntaxError) :
    (respell lowerCase error).line = error.line := by
  cases error <;> rfl

/-- Results that are equal in small letters are two values or two errors on one line. -/
theorem SameReading.of_respell_eq {α : Type} [Respellable α] {left right : Except SyntaxError α}
    (same : respell lowerCase left = respell lowerCase right) :
    SameReading (fun first second => respell lowerCase first = respell lowerCase second)
      left right := by
  cases left with
  | ok left =>
    cases right with
    | ok right => exact .ok (Except.ok.inj same)
    | error error => cases same
  | error left =>
    cases right with
    | ok right => cases same
    | error right =>
      refine .error ?_
      rw [← left.line_respell_lowerCase, Except.error.inj same, right.line_respell_lowerCase]

/-! ## Scripts -/

namespace Grammar

theorem Refusal.line_toError_lowerCase (refusal : Refusal) (lastLine : Nat) :
    ((respell lowerCase refusal).toError lastLine).line = (refusal.toError lastLine).line := by
  obtain ⟨wanted, found⟩ := refusal
  cases found <;> rfl

/-- Tokens that are equal in small letters are refused on the same line, or have statements that are
alike. -/
theorem readTokens_lowerCase (defaultSchema : String) {tokens tokens' : List Token}
    (same : respell lowerCase tokens = respell lowerCase tokens') :
    SameReading lowerCase.guise.Alike (readTokens defaultSchema tokens)
      (readTokens defaultSchema tokens') := by
  have lastLine (tokens : List Token) :
      (respell lowerCase tokens).getLast?.map Token.line = tokens.getLast?.map Token.line := by
    rw [getLast?_respell]
    cases tokens.getLast? <;> rfl
  have sameLast : tokens.getLast?.map Token.line = tokens'.getLast?.map Token.line := by
    rw [← lastLine, same, lastLine]
  unfold readTokens
  rw [sameLast]
  refine (statements_alike lowerCase.guise defaultSchema same).mapError ?_
  intro refusal refusal' sameRefusal
  have sameRefusal : respell lowerCase refusal = respell lowerCase refusal' := sameRefusal
  rw [← refusal.line_toError_lowerCase, sameRefusal, refusal'.line_toError_lowerCase]

end Grammar

/-- Scripts that differ only in the case of ASCII letters are read alike. They have the same tokens
in the same places or are left open on the same line; both are read to statements that are equal in
small letters or are refused on the same line; and of corresponding statements both yield a table,
the same up to case, or both have a defect. -/
theorem reading_ignores_case {left right : String}
    (same : Text.equalIgnoringCase left right = true) (path : String) (options : ReadingOptions) :
    SameReading (List.Forall₂ Token.SameUpToCase) (Token.scan left) (Token.scan right) ∧
    SameReading (fun first second => respell lowerCase first = respell lowerCase second)
      (Grammar.readScript left options.defaultSchema)
      (Grammar.readScript right options.defaultSchema) ∧
    SameReading (List.Forall₂ TableOutcome.SameUpToCase) (readTables left path options)
      (readTables right path options) := by
  have letters : Text.lowerCase left = Text.lowerCase right := Text.equalIgnoringCase_iff.mp same
  have scanned :
      SameReading (fun first second => respell lowerCase first = respell lowerCase second)
        (Token.scan left) (Token.scan right) := by
    apply SameReading.of_respell_eq
    rw [← Token.scan_lowerCase, letters, Token.scan_lowerCase]
  have read : SameReading lowerCase.guise.Alike
      (Grammar.readScript left options.defaultSchema)
      (Grammar.readScript right options.defaultSchema) :=
    scanned.bind fun _ _ _ tokens => Grammar.readTokens_lowerCase options.defaultSchema tokens
  refine ⟨scanned.imp fun _ _ tokens => ?_, read.imp ?_, read.map ?_⟩
  · exact (forall₂_of_map_eq tokens).imp fun _ _ => Token.sameUpToCase_of_respell_eq
  · rintro found found' ⟨middle, resembles, resembles'⟩
    rw [← eq_respell_of_resembles resembles, ← eq_respell_of_resembles resembles']
  · intro found found' alike
    refine List.forall₂_map_right_iff.mpr (List.forall₂_map_left_iff.mpr ?_)
    exact (NormalForm.lowerCase.resolvedTable_of_alike alike path options.isTracing).imp
      fun _ _ => CreateTable.sameUpToCase_process path options.isTracing

/-- A computed column that has the type of its reference from the start, and one that only takes its
spelling: resolution changes the second table alone. -/
theorem reading_ignores_case_of_type :
    let left := "CREATE TABLE T (Name VARCHAR(20), Code AS (NAME) SPARSE, PRIMARY KEY (NAME))"
    let right := "create table t (name varchar(20), code as (Name) sparse, primary key (name))"
    let leftTable : Table :=
      { schema := "dbo", name := "T", sourcePath := "t.sql", sql := left
        primaryKey := .ofList ["NAME"]
        columns :=
          [{ name := "Name", dataType := "VARCHAR", argument1 := some 20, isMarkedKey := true
             sql := "Name VARCHAR(20)" },
            { name := "Code", dataType := "VARCHAR", isComputed := true
              referenceText := some "NAME", sql := "Code AS (NAME) SPARSE" }] }
    let rightTable : Table :=
      { schema := "dbo", name := "t", sourcePath := "t.sql", sql := right
        primaryKey := .ofList ["name"]
        columns :=
          [{ name := "name", dataType := "varchar", argument1 := some 20, isMarkedKey := true
             sql := "name varchar(20)" },
            { name := "code", dataType := "varchar", isComputed := true
              referenceText := some "Name", sql := "code as (Name) sparse" }] }
    Accepts left "t.sql" {} leftTable ∧ Accepts right "t.sql" {} rightTable ∧
      SameReading (List.Forall₂ TableOutcome.SameUpToCase) (readTables left "t.sql" {})
        (readTables right "t.sql" {}) := by
  intro left right leftTable rightTable
  have same : Text.equalIgnoringCase left right = true := by decide +kernel
  refine ⟨by decide +kernel, by decide +kernel, ?_⟩
  exact (reading_ignores_case same "t.sql" {}).2.2

end SqlSchema
