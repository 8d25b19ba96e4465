import SqlSchema.Proofs.Extraction
import SqlSchema.Proofs.Outcome
import SqlSchema.Proofs.Respelling.Moved
import SqlSchema.Proofs.Standalone.Reading
import SqlSchema.Proofs.Standalone.Scan

/-!
Statements that stand alone. The text that a `CREATE TABLE` statement keeps is a script of its own:
the statement is all that is read from it, whatever stood around the text before.
-/

namespace SqlSchema

namespace Grammar

variable {defaultSchema : String}

/-! ## Statements among others -/

theorem nextAreWords_of_append {keywords : List String} {front back : List Token}
    (next : nextAreWords keywords (front ++ back) = true)
    (within : keywords.length ≤ front.length) : nextAreWords keywords front = true := by
  induction keywords generalizing front with
  | nil => simp [nextAreWords]
  | cons keyword keywords induction =>
    cases front with
    | nil => cases within
    | cons token front =>
      rcases Bool.and_eq_true_iff.mp next with ⟨isWord, further⟩
      rw [nextAreWords, isWord, Bool.true_and]
      exact induction further (Nat.le_of_succ_le_succ within)

/-- A table among the statements is read where its two words stand. -/
theorem exists_suffix_of_createTable {tokens : List Token} {found : List Statement}
    {statement : CreateTable} (read : statements defaultSchema tokens = .ok found)
    (member : .createTable statement ∈ found) :
    ∃ own rest, own <:+ tokens ∧ nextAreWords ["CREATE", "TABLE"] own = true ∧
      createTable defaultSchema own = .ok (statement, rest) := by
  fun_induction statements defaultSchema tokens generalizing found with
  | case1 =>
    cases read
    cases member
  | case2 token rest _ induction =>
    rcases induction read member with ⟨own, after, isSuffix, found⟩
    exact ⟨own, after, isSuffix.trans (List.suffix_cons token rest), found⟩
  | case3 token rest _ _ induction =>
    rcases induction read member with ⟨own, after, isSuffix, found⟩
    have countSuffix := (isSuffix_dropBatchCount rest).trans (List.suffix_cons token rest)
    exact ⟨own, after, isSuffix.trans countSuffix, found⟩
  | case4 => cases read
  | case5 token rest _ _ isTable other afterTable tableRead induction =>
    rcases map_eq_ok.mp read with ⟨others, othersRead, rfl⟩
    rcases List.mem_cons.mp member with same | member
    · cases same
      exact ⟨_, afterTable, List.suffix_rfl, isTable, tableRead⟩
    · rcases induction othersRead member with ⟨own, after, isSuffix, found⟩
      exact ⟨own, after, isSuffix.trans (isSuffix_of_createTable tableRead), found⟩
  | case6 token rest _ _ _ next =>
    rename_i induction
    rcases map_eq_ok.mp read with ⟨others, othersRead, rfl⟩
    have nextSuffix := (isSuffix_afterStatement token rest).trans (List.suffix_cons token rest)
    rcases List.mem_cons.mp member with same | member
    · cases same
    · rcases induction othersRead member with ⟨own, after, isSuffix, found⟩
      exact ⟨own, after, isSuffix.trans nextSuffix, found⟩

/-- A table is all that is read from the run of tokens that it quotes. -/
theorem exists_run_of_createTable {tokens : List Token} {found : List Statement}
    {statement : CreateTable} (read : statements defaultSchema tokens = .ok found)
    (member : .createTable statement ∈ found) :
    ∃ front run back, tokens = front ++ run ++ back ∧ statement.sql = Token.textOf run ∧
      nextAreWords ["CREATE", "TABLE"] run = true ∧
        createTable defaultSchema run = .ok (statement, []) := by
  rcases exists_suffix_of_createTable read member with ⟨own, rest, ⟨front, rfl⟩, isTable, found⟩
  rcases isSuffix_of_createTable found with ⟨run, rfl⟩
  have alone : createTable defaultSchema run = .ok (statement, []) := createTable_of_append found
  refine ⟨front, run, rest, by simp, ?_, ?_, alone⟩
  · rw [sql_of_createTable found, Token.textTo, Token.run_append]
  · rcases bind_eq_ok.mp alone with ⟨_, nameFound, _⟩
    have length := length_of_tableName nameFound
    rw [List.length_drop] at length
    exact nextAreWords_of_append isTable (show 2 ≤ run.length by omega)

/-- The statement is the only one in a script of its own text. -/
theorem readScript_sql_of_scan {source : String} {tokens : List Token} {found : List Statement}
    {statement : CreateTable} (scanned : Token.scan source = .ok tokens)
    (read : statements defaultSchema tokens = .ok found) (member : .createTable statement ∈ found) :
    readScript statement.sql defaultSchema = .ok [.createTable statement] := by
  -- The tokens of the run have other places than those of its text, and another heading.
  rcases exists_run_of_createTable read member with ⟨front, run, back, rfl, text, isTable, alone⟩
  rcases Token.exists_scan_textOf scanned with ⟨own, lead, opens, offset, lines, scannedOwn, rfl⟩
  rw [nextAreWords_headed] at isTable
  rw [createTable_headed] at alone
  have readOwn : statements defaultSchema (own.map (Token.moved offset lines)) =
      .ok [.createTable statement] := by
    rw [statements_of_createTable isTable, alone]
    simp [bind, Except.bind, statements_nil, Except.map]
  rw [statements_moved] at readOwn
  rw [text]
  refine bind_eq_ok.mpr ⟨own, scannedOwn, ?_⟩
  exact mapError_eq_ok.mpr (mapError_eq_ok.mp readOwn)

end Grammar

/-! ## Tables -/

theorem Extraction.sql_table {statement : CreateTable} (shape : statement.HasElements)
    (diagnostics : Diagnostics) : (table statement diagnostics).1.sql = statement.sql := by
  have step : ∀ table diagnostics element, element.IsElement → table.sql = statement.sql →
      (addElement (table, diagnostics) element).1.sql = statement.sql := by
    intro table diagnostics element _ same
    rw [← same]
    cases element <;> rfl
  exact @table_invariant (fun table => table.sql = statement.sql) _ shape rfl step diagnostics

/-- A table keeps the text of its statement. -/
theorem CreateTable.sql_of_process {statement : CreateTable} (shape : statement.HasElements)
    {path : String} {isTracing : Bool} {table : Table}
    (found : (statement.process path isTracing).result = .ok table) :
    table.sql = statement.sql := by
  obtain ⟨rfl, _⟩ := eq_resolve_of_process found
  exact Extraction.sql_table shape _

open Grammar

/-- The text of a table is a script of its own, with the same table in it. -/
theorem readScript_sql {source defaultSchema : String} {found : List Statement}
    {statement : CreateTable} (read : readScript source defaultSchema = .ok found)
    (member : .createTable statement ∈ found) :
    readScript statement.sql defaultSchema = .ok [.createTable statement] ∧
      ∀ path isTracing,
        readTables statement.sql path ⟨isTracing, defaultSchema⟩ =
            .ok [statement.process path isTracing] ∧
          ∀ table, (statement.process path isTracing).result = .ok table →
            table.sql = statement.sql := by
  have shape := hasElements_of_readScript read statement member
  rcases bind_eq_ok.mp read with ⟨tokens, scanned, readStatements⟩
  have alone := readScript_sql_of_scan scanned (mapError_eq_ok.mp readStatements) member
  refine ⟨alone, ?_⟩
  intro path isTracing
  constructor
  · rw [readTables, alone]
    rfl
  · intro table result
    exact CreateTable.sql_of_process shape result

theorem readScript_sql_between :
    ∃ found statement,
      readScript "DROP TABLE T; CREATE TABLE T (A INT, -- a\nB AS (A)) ON G CREATE VIEW V" "dbo" =
        .ok found ∧
      .createTable statement ∈ found ∧
      readScript statement.sql "dbo" = .ok [.createTable statement] ∧
      readTables statement.sql "t.sql" ⟨false, "dbo"⟩ = .ok [statement.process "t.sql" false] := by
  obtain ⟨found, read, count⟩ : ∃ found,
      readScript "DROP TABLE T; CREATE TABLE T (A INT, -- a\nB AS (A)) ON G CREATE VIEW V" "dbo" =
        .ok found ∧ (found.filterMap Statement.createTable?).length = 1 :=
    map_eq_ok.mp (toOption_eq_some.mp (by decide +kernel))
  rcases List.length_eq_one_iff.mp count with ⟨statement, only⟩
  have isFound : statement ∈ found.filterMap Statement.createTable? := by
    rw [only]
    exact List.mem_singleton.mpr rfl
  rcases List.mem_filterMap.mp isFound with ⟨parsed, member, isTable⟩
  cases parsed with
  | other sql => cases isTable
  | createTable table =>
    cases isTable
    rcases readScript_sql read member with ⟨alone, tables⟩
    exact ⟨found, statement, read, member, alone, (tables "t.sql" false).1⟩

end SqlSchema
