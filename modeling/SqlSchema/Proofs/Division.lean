import SqlSchema.Proofs.Excerpt
import SqlSchema.Proofs.Suffix

/-!
The division of a script among its statements. Each statement has a run of tokens for itself, and
its text is what the script has from the first of them to the last. Between the runs there are
semicolons and the lines that end a batch, and nothing else.
-/

namespace SqlSchema

/-- Whether the token is a `GO` at the start of a line. `before` is the token in front of it, none
at the start of the script. -/
structure Token.EndsBatchAfter (before : Option Token) (token : Token) : Prop where
  isGo : token.isWord "GO" = true
  opensLine : ∀ previous ∈ before, previous.line < token.line

/-- Whether the tokens of `source` that follow `before` are divided among the statements. -/
inductive Divides (source : String) :
    (before : Option Token) → List Token → List Statement → Prop
  | nil (before : Option Token) : Divides source before [] []
  | semicolon {before : Option Token} {token : Token} {tokens : List Token}
    {found : List Statement} (isSemicolon : token.kind = .semicolon)
    (rest : Divides source (some token) tokens found) :
    Divides source before (token :: tokens) found
  | batchEnd {before : Option Token} {token : Token} {tokens : List Token}
    {found : List Statement} (ends : token.EndsBatchAfter before)
    (rest : Divides source (some token) tokens found) :
    Divides source before (token :: tokens) found
  /-- The end of a batch that is to be repeated `count` times. -/
  | batchCount {before : Option Token} {token count : Token} {tokens : List Token}
    {found : List Statement} (ends : token.EndsBatchAfter before)
    (isInteger : count.kind = .integer) (sameLine : count.line = token.line)
    (rest : Divides source (some count) tokens found) :
    Divides source before (token :: count :: tokens) found
  | statement {before : Option Token} {run tokens : List Token} {statement : Statement}
    {found : List Statement} (notEmpty : run ≠ [])
    (stands : StandsIn source statement.sql (run.head notEmpty).start (run.getLast notEmpty).stop)
    (rest : Divides source (some (run.getLast notEmpty)) tokens found) :
    Divides source before (run ++ tokens) (statement :: found)

namespace Grammar

variable {source defaultSchema : String} {front : List Token} {token : Token}

/-! ## The end of a batch -/

theorem endsBatchAfter_of_follows (follows : Token.Follows front token)
    (ends : token.endsBatch = true) : token.EndsBatchAfter front.getLast? := by
  rcases Bool.and_eq_true_iff.mp ends with ⟨isGo, opens⟩
  rw [follows.opensLine_eq, decide_eq_true_eq] at opens
  refine ⟨isGo, ?_⟩
  intro previous isLast
  simpa [Token.lastLine, Option.mem_def.mp isLast] using opens

/-- What does not open a line is on the line of the token before it. -/
theorem line_eq_of_follows {count : Token} (follows : Token.Follows front token)
    (countFollows : Token.Follows (front ++ [token]) count) (goesOn : count.opensLine = false) :
    count.line = token.line := by
  have notEarlier := follows.line_le countFollows
  rw [countFollows.opensLine_eq, decide_eq_false_iff_not] at goesOn
  have notLater : ¬token.line < count.line := by simpa [Token.lastLine] using goesOn
  omega

theorem dropBatchCount_cons (count : Token) (rest : List Token) :
    dropBatchCount (count :: rest) =
      if count.kind = .integer ∧ count.opensLine = false then rest else count :: rest :=
  rfl

/-! ## Statements -/

/-- A statement that has been read takes its run of tokens. -/
theorem divides_of_statement {tokens rest : List Token} {statement : Statement}
    {others : List Statement} (scanned : Token.scan source = .ok (front ++ tokens))
    (isSuffix : rest <:+ tokens) (shorter : rest.length < tokens.length)
    (text : statement.sql = Token.textTo tokens rest)
    (further : ∀ {front}, Token.scan source = .ok (front ++ rest) →
      Divides source front.getLast? rest others) :
    Divides source front.getLast? tokens (statement :: others) := by
  rcases Token.exists_run isSuffix shorter with ⟨run, some, rfl, runText⟩
  rw [← List.append_assoc] at scanned
  refine .statement some ?_ ?_
  · rw [text, runText]
    exact Token.standsIn_textOf scanned some
  · have divides := further scanned
    rwa [List.getLast?_append_of_ne_nil _ some, List.getLast?_eq_some_getLast some] at divides

theorem divides_of_statements {tokens : List Token} {found : List Statement}
    (scanned : Token.scan source = .ok (front ++ tokens))
    (read : statements defaultSchema tokens = .ok found) :
    Divides source front.getLast? tokens found := by
  -- The induction follows the loop over the statements; `front` are the tokens already passed.
  fun_induction statements defaultSchema tokens generalizing front found with
  | case1 =>
    cases read
    exact .nil _
  | case2 token rest isSemicolon induction =>
    rw [List.append_cons] at scanned
    have divides := induction scanned read
    rw [List.getLast?_concat] at divides
    exact .semicolon isSemicolon divides
  | case3 token rest notSemicolon isEnd induction =>
    have follows := Token.follows_of_scan scanned
    have ends := endsBatchAfter_of_follows follows isEnd
    rw [List.append_cons] at scanned
    cases rest with
    | nil =>
      have divides := induction scanned read
      rw [List.getLast?_concat] at divides
      exact .batchEnd ends divides
    | cons count rest =>
      have countFollows := Token.follows_of_scan scanned
      -- Only a count on the line of the `GO` is passed over with it.
      rw [dropBatchCount_cons] at induction read
      by_cases isCount : count.kind = .integer ∧ count.opensLine = false
      · rw [if_pos isCount] at induction read
        rw [List.append_cons] at scanned
        have divides := induction scanned read
        rw [List.getLast?_concat] at divides
        exact .batchCount ends isCount.1 (line_eq_of_follows follows countFollows isCount.2) divides
      · rw [if_neg isCount] at induction read
        have divides := induction scanned read
        rw [List.getLast?_concat] at divides
        exact .batchEnd ends divides
  | case4 => cases read
  | case5 token rest _ _ _ statement afterTable tableRead induction =>
    rcases map_eq_ok.mp read with ⟨others, othersRead, rfl⟩
    have text : (Statement.createTable statement).sql = Token.textTo (token :: rest) afterTable :=
      sql_of_createTable tableRead
    apply divides_of_statement scanned (isSuffix_of_createTable tableRead)
      (length_of_createTable tableRead) text
    intro front scannedRest
    exact induction scannedRest othersRead
  | case6 token rest _ _ _ after =>
    rename_i induction
    rcases map_eq_ok.mp read with ⟨others, othersRead, rfl⟩
    have afterSuffix := isSuffix_afterStatement token rest
    apply divides_of_statement scanned (afterSuffix.trans (List.suffix_cons token rest))
      (Nat.lt_succ_of_le afterSuffix.length_le) rfl
    intro front scannedRest
    exact induction scannedRest othersRead

end Grammar

open Grammar

/-- The tokens of a script that is read are divided among its statements. -/
theorem divides_of_readScript {source defaultSchema : String} {found : List Statement}
    (read : readScript source defaultSchema = .ok found) :
    ∃ tokens, Token.scan source = .ok tokens ∧ Divides source none tokens found := by
  rcases bind_eq_ok.mp read with ⟨tokens, scanned, read⟩
  have scannedAll : Token.scan source = .ok ([] ++ tokens) := scanned
  exact ⟨tokens, scanned, divides_of_statements scannedAll (mapError_eq_ok.mp read)⟩

theorem divides_of_readScript_batches :
    ∃ tokens found,
      readScript "USE db;\nGO 2\n-- t\nCREATE TABLE T (A INT) GRANT A ON T;\nGO 7 SELECT 1" "dbo" =
        .ok found ∧ found.length = 4 ∧
      Divides "USE db;\nGO 2\n-- t\nCREATE TABLE T (A INT) GRANT A ON T;\nGO 7 SELECT 1" none
        tokens found := by
  obtain ⟨found, read, count⟩ : ∃ found,
      readScript "USE db;\nGO 2\n-- t\nCREATE TABLE T (A INT) GRANT A ON T;\nGO 7 SELECT 1" "dbo" =
        .ok found ∧ found.length = 4 :=
    map_eq_ok.mp (toOption_eq_some.mp (by decide +kernel))
  rcases divides_of_readScript read with ⟨tokens, _, divides⟩
  exact ⟨tokens, found, read, count, divides⟩

end SqlSchema
