import SqlSchema.Proofs.Batches.Module
import SqlSchema.Proofs.Guise.Script
import SqlSchema.Proofs.Standalone.Script

/-!
Where a script is refused. Only a `CREATE TABLE` is ever refused, at one of its tokens or after the
last one, and a script that ends before this statement is read. So statements that are passed over
never make a script fail, and an error never points above the statement at fault.
-/

namespace SqlSchema

namespace Grammar

variable {defaultSchema : String} {tokens kept cut : List Token}

/-! ## The token at fault -/

/-- The guise in which one token is a line further down and all others are as they are. -/
def movedToken (moving : Token) : Guise :=
  .ofTokens (fun token => if token = moving then { token with line := token.line + 1 } else token)
    (fun token => by split <;> rfl) (fun token => by split <;> rfl) fun token => by split <;> rfl

theorem see_movedToken {moving : Token} (outside : moving ∉ tokens) :
    see (movedToken moving) tokens = tokens := by
  have same (token : Token) (member : token ∈ tokens) :
      (movedToken moving).token token = token :=
    if_neg (ne_of_mem_of_not_mem member outside)
  exact (List.map_congr_left same).trans (List.map_id tokens)

/-- A token that a table refuses is one of those that were read: no reader makes up a token, so
moving any other one changes nothing. -/
theorem mem_of_refused {refusal : Refusal} (refused : createTable defaultSchema tokens = .error refusal)
    {token : Token} (found : refusal.found = some token) : token ∈ tokens := by
  by_contra outside
  have reads := createTable_reads (movedToken token) tokens defaultSchema
  rw [see_movedToken outside] at reads
  change SameOutcome _ _ (createTable defaultSchema tokens) (createTable defaultSchema tokens)
    at reads
  rw [refused] at reads
  cases reads with
  | error same =>
    have sameFound := congrArg Refusal.found same
    change refusal.found = refusal.found.map (movedToken token).token at sameFound
    rw [found, Option.map_some, Option.some_inj] at sameFound
    have moved : token.line = token.line + 1 :=
      congrArg Token.line (sameFound.trans (if_pos rfl))
    omega

/-! ## Statements before the cut -/

theorem map_eq_error {α β ε : Type} {result : Except ε α} {convert : α → β} {error : ε} :
    result.map convert = .error error ↔ result = .error error := by
  cases result <;> simp [Except.map]

theorem mapError_eq_error {α ε ε' : Type} {result : Except ε α} {convert : ε → ε'} {error : ε'} :
    result.mapError convert = .error error ↔
      ∃ cause, result = .error cause ∧ convert cause = error := by
  cases result <;> simp [Except.mapError]

/-- The next `CREATE` is no word of a module that begins before it. -/
theorem atModule_of_append {first : Token} (stops : nextIsWord "CREATE" cut = true) :
    atModule (first :: (tokens ++ cut)) = atModule (first :: tokens) := by
  cases cut with
  | nil => cases stops
  | cons stop more =>
    have isWord := Token.isWord_of_isWord (show stop.isWord "CREATE" = true from stops)
    have noOr : stop.isWord "OR" = false := (isWord _).trans (by decide +kernel)
    have noAlter : stop.isWord "ALTER" = false := (isWord _).trans (by decide +kernel)
    have noKind : stop.isWordIn moduleWords = false := by
      rw [Token.isWordIn, funext isWord]
      decide +kernel
    unfold atModule
    congr 1
    match tokens with
    | [] => simp [nextAreWords, nextIsWordIn, noOr, noKind]
    | [second] => simp [nextAreWords, nextIsWordIn, noAlter]
    | second :: third :: others =>
      simp only [nextAreWords, List.tail_cons, List.cons_append, List.drop_succ_cons, List.drop_zero,
        Bool.and_true]
      split
      · cases others <;> simp [nextIsWordIn, noKind]
      · rfl

theorem skipStatement_of_append {depth : Nat}
    (found : skipStatement depth (tokens ++ cut) = kept ++ cut) :
    skipStatement depth tokens = kept := by
  induction tokens generalizing depth with
  | nil =>
    have length := length_skipStatement_le depth cut
    rw [List.nil_append] at found
    rw [found, List.length_append] at length
    exact (List.eq_nil_of_length_eq_zero (by omega)).symm
  | cons token tokens induction =>
    rw [List.cons_append] at found
    unfold skipStatement at found ⊢
    split at found
    · rename_i ends
      rw [if_pos ends]
      exact List.append_cancel_right found
    · rename_i goesOn
      rw [if_neg goesOn]
      split at found
      · exact induction found
      · exact induction found
      · exact induction found

theorem dropWhile_of_append {α : Type} {isInside : α → Bool} {values kept cut : List α}
    (found : (values ++ cut).dropWhile isInside = kept ++ cut) :
    values.dropWhile isInside = kept := by
  induction values with
  | nil =>
    have length := (List.dropWhile_suffix isInside (l := cut)).length_le
    rw [List.nil_append] at found
    rw [found, List.length_append] at length
    exact (List.eq_nil_of_length_eq_zero (by omega)).symm
  | cons value values induction =>
    cases inside : isInside value with
    | true =>
      simp only [List.cons_append, List.dropWhile_cons, inside, if_true] at found ⊢
      exact induction found
    | false =>
      simp only [List.cons_append, List.dropWhile_cons, inside, Bool.false_eq_true, if_false]
        at found ⊢
      exact List.append_cancel_right found

theorem afterStatement_of_append {first : Token} (stops : nextIsWord "CREATE" cut = true)
    (found : afterStatement first (tokens ++ cut) = kept ++ cut) :
    afterStatement first tokens = kept := by
  unfold afterStatement at found ⊢
  rw [atModule_of_append stops] at found
  split at found
  · rename_i isModule
    rw [if_pos isModule]
    exact dropWhile_of_append found
  · rename_i noModule
    rw [if_neg noModule]
    exact skipStatement_of_append found

theorem exists_of_dropBatchCount (found : dropBatchCount tokens = kept ++ cut) :
    ∃ before, tokens = before ++ cut ∧ dropBatchCount before = kept := by
  cases tokens with
  | nil =>
    obtain ⟨rfl, rfl⟩ := List.append_eq_nil_iff.mp (show [] = kept ++ cut from found).symm
    exact ⟨[], rfl, rfl⟩
  | cons token rest =>
    simp only [dropBatchCount] at found
    split at found
    · rename_i isCount
      exact ⟨token :: kept, congrArg (token :: ·) found, if_pos isCount⟩
    · rename_i noCount
      refine ⟨kept, found, ?_⟩
      cases kept with
      | nil => rfl
      | cons first others =>
        obtain ⟨rfl, -⟩ := List.cons.inj found
        exact if_neg noCount

/-- Tokens are refused where a table begins whose statement is refused, and what stands before it is
read where it ends there. -/
theorem exists_of_statements_refused {refusal : Refusal}
    (refused : statements defaultSchema tokens = .error refusal) :
    ∃ front own found, tokens = front ++ own ∧ nextAreWords ["CREATE", "TABLE"] own = true ∧
      createTable defaultSchema own = .error refusal ∧
      statements defaultSchema front = .ok found := by
  fun_induction statements defaultSchema tokens with
  | case1 => cases refused
  | case2 token rest isSemicolon induction =>
    obtain ⟨front, own, found, rfl, isTable, fails, read⟩ := induction refused
    refine ⟨token :: front, own, found, rfl, isTable, fails, ?_⟩
    rw [statements_cons, if_pos isSemicolon, read]
  | case3 token rest notSemicolon isEnd induction =>
    obtain ⟨front, own, found, whole, isTable, fails, read⟩ := induction refused
    obtain ⟨before, rfl, noCount⟩ := exists_of_dropBatchCount whole
    refine ⟨token :: before, own, found, rfl, isTable, fails, ?_⟩
    rw [statements_cons, if_neg notSemicolon, if_pos isEnd, noCount, read]
  | case4 token rest _ _ isTable other fails =>
    cases refused
    exact ⟨[], _, [], rfl, isTable, fails, statements_nil defaultSchema⟩
  | case5 token rest notSemicolon notEnd isTable statement after tableRead induction =>
    obtain ⟨front, own, found, rfl, isOwnTable, fails, read⟩ := induction (map_eq_error.mp refused)
    obtain ⟨run, whole⟩ := isSuffix_of_createTable tableRead
    rw [← List.append_assoc] at whole
    rw [← whole] at tableRead isTable
    have table := createTable_of_append tableRead
    obtain ⟨_, nameFound, _⟩ := bind_eq_ok.mp table
    have length := length_of_tableName nameFound
    rw [List.length_drop] at length
    have words := nextAreWords_of_append isTable (show 2 ≤ (run ++ front).length by omega)
    have shorter := length_of_createTable table
    cases run with
    | nil => exact absurd shorter (Nat.lt_irrefl _)
    | cons first run =>
      obtain ⟨rfl, rfl⟩ := List.cons.inj whole
      refine ⟨first :: (run ++ front), own, .createTable statement :: found, by simp, isOwnTable,
        fails, ?_⟩
      rw [List.cons_append] at words table
      rw [statements_cons, if_neg notSemicolon, if_neg notEnd, if_pos words, table]
      exact congrArg (Except.map (.createTable statement :: ·)) read
  | case6 token rest notSemicolon notEnd noTable after =>
    rename_i induction
    obtain ⟨front, own, found, isAfter, isOwnTable, fails, read⟩ :=
      induction (map_eq_error.mp refused)
    obtain ⟨run, whole⟩ := isSuffix_afterStatement token rest
    change run ++ after = rest at whole
    rw [isAfter, ← List.append_assoc] at whole
    subst whole
    have stops : nextIsWord "CREATE" own = true := by
      obtain ⟨first, others, rfl, isCreate, -⟩ := nextAreWords_cons_iff.mp isOwnTable
      exact isCreate
    have later := afterStatement_of_append stops isAfter
    have words : ¬nextAreWords ["CREATE", "TABLE"] (token :: (run ++ front)) = true :=
      fun words => noTable (nextAreWords_append_right words own)
    refine ⟨token :: (run ++ front), own,
      .other (Token.textTo (token :: (run ++ front)) front) :: found, rfl, isOwnTable, fails, ?_⟩
    rw [statements_cons, if_neg notSemicolon, if_neg notEnd, if_neg words, later]
    exact congrArg (Except.map (.other (Token.textTo (token :: (run ++ front)) front) :: ·)) read

/-- The error points at the token that was refused, or at the last token of the script. -/
theorem exists_line_toError {refusal : Refusal} (front : List Token) {own : List Token}
    (refused : createTable defaultSchema own = .error refusal) (some : own ≠ []) :
    ∃ token ∈ own,
      (refusal.toError (((front ++ own).getLast?.map Token.line).getD 1)).line = token.line := by
  unfold Refusal.toError
  cases found : refusal.found with
  | some token => exact ⟨token, mem_of_refused refused found, rfl⟩
  | none =>
    refine ⟨own.getLast some, List.getLast_mem some, ?_⟩
    simp [SyntaxError.line, List.getLast?_append, List.getLast?_eq_some_getLast some]

end Grammar

/-! ## Scripts that end before a token -/

/-- The script up to a token has the tokens before it. -/
theorem Token.exists_scan_before {source : String} {front back : List Token} {first : Token}
    (scanned : scan source = .ok (front ++ first :: back)) :
    ∃ before after, source = before ++ after ∧ before.utf8ByteSize = first.start ∧
      scan before = .ok front := by
  have follows : Follows front first := follows_of_scan scanned
  have scannedAll := Grammar.scan_eq_ok.mp scanned
  obtain ⟨rest, whole, scannedRest⟩ := exists_of_scanFrom_append scannedAll
  obtain ⟨lead, char, tail, kind, text, _, trivia, -, isFirst, -⟩ :=
    exists_of_scanFrom_cons scannedRest
  have isLead : first.lead.toList = lead := by simp [isFirst, placed]
  have wholeTrivia := Trivia.split_append rest
  rw [trivia] at wholeTrivia
  rw [whole, ← wholeTrivia, ← List.append_assoc] at scannedAll
  refine ⟨written front ++ first.lead, String.ofList (char :: tail), ?_, follows.start_eq.symm, ?_⟩
  · apply String.toList_injective
    simp [whole, ← wholeTrivia, isLead]
  · rw [Grammar.scan_eq_ok, String.toList_append, isLead]
    exact scanFrom_of_append scannedAll (Trivia.split_of_end trivia)

open Grammar

/-- A script that has tokens is refused only for one of its tables. The error points at a token of
this table or after it, never above it, and the script that ends before the table is read. -/
theorem exists_table_of_refused {source defaultSchema : String} {tokens : List Token}
    {error : SyntaxError} (scanned : Token.scan source = .ok tokens)
    (refused : readScript source defaultSchema = .error error) :
    ∃ front first rest, tokens = front ++ first :: rest ∧
      nextAreWords ["CREATE", "TABLE"] (first :: rest) = true ∧
      (∃ refusal, createTable defaultSchema (first :: rest) = .error refusal) ∧
      (∃ token ∈ first :: rest, error.line = token.line) ∧ first.line ≤ error.line ∧
      ∃ before after, source = before ++ after ∧ before.utf8ByteSize = first.start ∧
        ∃ found, readScript before defaultSchema = .ok found := by
  rw [readScript, scanned] at refused
  obtain ⟨refusal, fails, rfl⟩ := mapError_eq_error.mp
    (show (statements defaultSchema tokens).mapError _ = .error error from refused)
  obtain ⟨front, own, found, rfl, isTable, ownFails, read⟩ := exists_of_statements_refused fails
  obtain ⟨first, rest, rfl, -⟩ := nextAreWords_cons_iff.mp isTable
  obtain ⟨token, member, isLine⟩ := exists_line_toError front ownFails (List.cons_ne_nil first rest)
  obtain ⟨before, after, whole, size, scannedBefore⟩ := Token.exists_scan_before scanned
  have notAbove : first.line ≤ token.line := by
    rcases List.mem_cons.mp member with rfl | member
    · exact Nat.le_refl _
    · obtain ⟨between, later, rfl⟩ := List.append_of_mem member
      have followsFirst : Token.Follows front first := Token.follows_of_scan scanned
      rw [← List.cons_append, ← List.append_assoc] at scanned
      have followsToken : Token.Follows (front ++ first :: between) token :=
        Token.follows_of_scan scanned
      exact followsFirst.line_le_of_append followsToken
  refine ⟨front, first, rest, rfl, isTable, ⟨refusal, ownFails⟩, ⟨token, member, isLine⟩, ?_,
    before, after, whole, size, found, ?_⟩
  · rwa [isLine]
  · rw [readScript, scannedBefore]
    exact mapError_eq_ok.mpr read

/-- A script whose second batch is a table that is never closed. -/
theorem exists_table_of_refused_open_table :
    ∃ tokens error,
      Token.scan "CREATE TABLE T (A INT);\nGO 2\nCREATE TABLE U (B INT" = .ok tokens ∧
      readScript "CREATE TABLE T (A INT);\nGO 2\nCREATE TABLE U (B INT" "dbo" = .error error ∧
      ∃ front first rest, tokens = front ++ first :: rest ∧
        nextAreWords ["CREATE", "TABLE"] (first :: rest) = true ∧
        (∃ refusal, createTable "dbo" (first :: rest) = .error refusal) ∧
        (∃ token ∈ first :: rest, error.line = token.line) ∧ first.line ≤ error.line ∧
        ∃ before after,
          "CREATE TABLE T (A INT);\nGO 2\nCREATE TABLE U (B INT" = before ++ after ∧
          before.utf8ByteSize = first.start ∧
          ∃ found, readScript before "dbo" = .ok found := by
  obtain ⟨tokens, scanned⟩ : ∃ tokens,
      Token.scan "CREATE TABLE T (A INT);\nGO 2\nCREATE TABLE U (B INT" = .ok tokens :=
    exists_of_isSome (by decide +kernel)
  have fails : (readScript "CREATE TABLE T (A INT);\nGO 2\nCREATE TABLE U (B INT"
      "dbo").toOption.isNone = true := by
    decide +kernel
  cases refused : readScript "CREATE TABLE T (A INT);\nGO 2\nCREATE TABLE U (B INT" "dbo" with
  | ok found =>
    rw [refused] at fails
    cases fails
  | error error => exact ⟨tokens, error, scanned, rfl, exists_table_of_refused scanned refused⟩

end SqlSchema
