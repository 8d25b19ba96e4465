import SqlSchema.Proofs.Batches.Reading
import SqlSchema.Proofs.Respelling.Moved

/-!
Scripts with a line `GO` between them. The tokens of the second script are found again after the
`GO`, further on and with another text before the first of them.
-/

namespace SqlSchema

/-! ## Scanning -/

theorem SyntaxError.moved_moved (lines lines' : Nat) (error : SyntaxError) :
    (error.moved lines).moved lines' = error.moved (lines + lines') := by
  cases error <;> simp only [moved, Nat.add_assoc]

theorem SyntaxError.line_moved (lines : Nat) (error : SyntaxError) :
    (error.moved lines).line = error.line + lines := by
  cases error <;> rfl

theorem SyntaxError.message_moved (lines : Nat) (error : SyntaxError) :
    (error.moved lines).message = error.message := by
  cases error with
  | unclosed => rfl
  | refused wanted found line => cases wanted <;> cases found <;> rfl

namespace Token

/-- The first token of a script opens a line. -/
theorem opensLine_of_head {place : Place} {taken : Nat} (before : taken < place.line)
    (chars : List Char) :
    ∀ first ∈ (scanFrom place taken chars).1.head?, first.opensLine = true := by
  obtain ⟨lead, rest, split⟩ : ∃ lead rest, Trivia.split chars = (lead, rest) := ⟨_, _, rfl⟩
  cases rest with
  | nil => simp [scanFrom_of_end split]
  | cons first tail =>
    cases lexeme : Lexeme.split first tail with
    | error construct => simp [scanFrom_of_unclosed split lexeme]
    | ok parts =>
      obtain ⟨kind, text, rest⟩ := parts
      have notEarlier := place.line_le_after lead
      simp only [scanFrom_of_token split lexeme, List.head?_cons, Option.mem_some_iff, placed]
      rintro _ rfl
      exact decide_eq_true (by omega)

theorem headed_map_moved (offset lines : Nat) (lead : String) (opens : Bool) (tokens : List Token) :
    (headed lead opens tokens).map (moved offset lines) =
      headed lead opens (tokens.map (moved offset lines)) := by
  cases tokens <;> rfl

theorem moved_moved (offset lines offset' lines' : Nat) (token : Token) :
    (token.moved offset lines).moved offset' lines' =
      token.moved (offset + offset') (lines + lines') := by
  simp only [moved, Nat.add_assoc]

/-- The tokens of a script, a `GO` and the tokens of another script, which are further on. -/
theorem exists_scan_batches {first : String} {tokens : List Token}
    (scanned : scan first = .ok tokens) (second : String) {lines : Nat}
    (count : lines = (first ++ "\nGO\n").toList.count '\n') :
    ∃ stop lead offset, stop.endsBatch = true ∧
      scanUpToError (first ++ "\nGO\n" ++ second) =
        (tokens ++ stop :: headed lead true
            ((scanUpToError second).1.map (moved offset lines)),
          (scanUpToError second).2.map (SyntaxError.moved lines)) := by
  have scannedGo : scanFrom .origin 0 ['G', 'O'] =
      ([⟨.word, "GO", "", 0, 1, true⟩], none) := by
    decide +kernel
  have whole : (first ++ "\nGO\n" ++ second).toList =
      first.toList ++ '\n' :: (['G', 'O'] ++ '\n' :: second.toList) := by
    simp [String.toList_append]
  obtain ⟨lead, afterGo⟩ := scanFrom_append_newline scannedGo
    Nat.zero_lt_one (Nat.zero_le _) second.toList
  obtain ⟨leadGo, afterFirst⟩ := scanFrom_append_newline (Grammar.scan_eq_ok.mp scanned)
    Nat.zero_lt_one (Nat.zero_le _) (['G', 'O'] ++ '\n' :: second.toList)
  have sameLines : (Place.origin.after (['G', 'O'] ++ ['\n'])).line - 1 +
      ((Place.origin.after (first.toList ++ ['\n'])).line - 1) = lines := by
    simp [count, Place.after, Place.origin, String.toList_append]
    omega
  rw [afterGo] at afterFirst
  unfold scanUpToError
  rw [whole, afterFirst]
  revert sameLines
  generalize Place.origin.after (['G', 'O'] ++ ['\n']) = afterGoPlace
  generalize Place.origin.after (first.toList ++ ['\n']) = afterFirstPlace
  rintro rfl
  refine ⟨⟨.word, "GO", leadGo, 0 + afterFirstPlace.offset, 1 + (afterFirstPlace.line - 1), true⟩,
    lead, afterGoPlace.offset + afterFirstPlace.offset, ?_, ?_⟩
  · simp [endsBatch, isWord, Text.equalIgnoringCase_refl]
  · have goMoved : (moved afterFirstPlace.offset (afterFirstPlace.line - 1)
        ⟨.word, "GO", "", 0, 1, true⟩) =
          ⟨.word, "GO", "", 0 + afterFirstPlace.offset, 1 + (afterFirstPlace.line - 1), true⟩ := rfl
    simp [headed_map_moved, Function.comp_def, moved_moved, SyntaxError.moved_moved, goMoved]

end Token

/-! ## Reading -/

namespace Grammar

open Token (headed moved)

/-- The tokens after a `GO` are read like those of a script that begins there. -/
theorem statements_of_endsBatch {stop : Token} (ends : stop.endsBatch = true)
    {tokens : List Token} (opens : ∀ first ∈ tokens.head?, first.opensLine = true)
    (defaultSchema lead : String) (offset lines : Nat) :
    statements defaultSchema (stop :: headed lead true (tokens.map (moved offset lines))) =
      (statements defaultSchema tokens).mapError (respell (.moved offset lines)) := by
  have notSemicolon : stop.kind ≠ .semicolon := by simp [Token.kind_of_endsBatch ends]
  have noCount : dropBatchCount (headed lead true (tokens.map (moved offset lines))) =
      headed lead true (tokens.map (moved offset lines)) := by
    cases tokens with
    | nil => rfl
    | cons first rest => simp [dropBatchCount]
  have opensMoved : ∀ first ∈ (tokens.map (moved offset lines)).head?, first.opensLine = true := by
    cases tokens with
    | nil => simp
    | cons first rest => simpa [moved] using opens
  rw [statements_cons, if_neg notSemicolon, if_pos ends, noCount,
    statements_headed _ _ opensMoved, statements_moved]

/-- The last line of a script with another before it. -/
theorem lastLine_append_batch (front : List Token) (stop : Token) {tokens : List Token}
    (some : tokens ≠ []) (lead : String) (opens : Bool) (offset lines : Nat) :
    ((front ++ stop :: headed lead opens (tokens.map (moved offset lines))).getLast?.map
        Token.line).getD 1 =
      (tokens.getLast?.map Token.line).getD 1 + lines := by
  have sameLines : (headed lead opens (tokens.map (moved offset lines))).map Token.line =
      tokens.map fun token => token.line + lines := by
    cases tokens with
    | nil => rfl
    | cons first rest => simp [moved, Function.comp_def]
  obtain ⟨init, last, rfl⟩ : ∃ init last, tokens = init ++ [last] :=
    ⟨_, _, (List.dropLast_concat_getLast some).symm⟩
  rw [← List.getLast?_map, List.map_append, List.map_cons, sameLines]
  simp [List.getLast?_cons]

/-- Whether the tokens are read to `found` in front of every `GO`, and what follows the `GO` is read
on its own. -/
def IsBatch (defaultSchema : String) (front : List Token) (found : List Statement) : Prop :=
  ∀ stop : Token, stop.endsBatch = true → ∀ more : List Token,
    statements defaultSchema (front ++ stop :: more) =
      (statements defaultSchema (stop :: more)).map (found ++ ·)

theorem isBatch_of_isClosed {defaultSchema : String} {tokens : List Token}
    {found : List Statement} (closed : Token.IsClosed tokens)
    (read : statements defaultSchema tokens = .ok found) : IsBatch defaultSchema tokens found :=
  fun _ ends more => statements_append more ends closed read

theorem readTokens_append_batch {stop : Token} (ends : stop.endsBatch = true)
    {front tokens : List Token} {defaultSchema lead : String} {offset lines : Nat}
    {found : List Statement} (isBatch : IsBatch defaultSchema front found)
    (opens : ∀ first ∈ tokens.head?, first.opensLine = true) :
    readTokens defaultSchema
        (front ++ stop :: headed lead true (tokens.map (moved offset lines))) =
      ((readTokens defaultSchema tokens).mapError (SyntaxError.moved lines)).map (found ++ ·) := by
  unfold readTokens
  rw [isBatch stop ends, statements_of_endsBatch ends opens]
  cases failed : statements defaultSchema tokens with
  | ok others => rfl
  | error refusal =>
    have some : tokens ≠ [] := by
      rintro rfl
      rw [statements_nil] at failed
      cases failed
    change Except.error (Refusal.toError _ _) = Except.error (SyntaxError.moved lines _)
    rw [lastLine_append_batch front stop some, toError_moved]

/-- What follows a batch and a `GO` is read on its own, further down. -/
theorem readScript_of_isBatch {first : String} {tokens : List Token}
    (scanned : Token.scan first = .ok tokens) {defaultSchema : String} {found : List Statement}
    (isBatch : IsBatch defaultSchema tokens found) (second : String) :
    readScript (first ++ "\nGO\n" ++ second) defaultSchema =
      ((readScript second defaultSchema).mapError
        (SyntaxError.moved ((first ++ "\nGO\n").toList.count '\n'))).map (found ++ ·) := by
  obtain ⟨stop, lead, offset, ends, scannedAll⟩ := Token.exists_scan_batches scanned second rfl
  unfold readScript Token.scan
  rw [scannedAll]
  have opens : ∀ first ∈ (Token.scanUpToError second).1.head?, first.opensLine = true :=
    Token.opensLine_of_head Nat.zero_lt_one _
  revert opens
  obtain ⟨others, failed⟩ := Token.scanUpToError second
  intro opens
  cases failed with
  | none => exact readTokens_append_batch ends isBatch opens
  | some error => rfl

end Grammar

open Grammar

/-- Scripts with a `GO` between them are read like each alone, if nothing in the first goes on after
the `GO`: the statements of the second follow those of the first, and an error of the second is
on a line further down. -/
theorem readScript_append_batch {first : String} {tokens : List Token}
    (scanned : Token.scan first = .ok tokens) (closed : Token.IsClosed tokens)
    {defaultSchema : String} {found : List Statement}
    (read : readScript first defaultSchema = .ok found) (second : String) :
    (∀ others, readScript second defaultSchema = .ok others →
      readScript (first ++ "\nGO\n" ++ second) defaultSchema = .ok (found ++ others)) ∧
    ∀ error, readScript second defaultSchema = .error error →
      ∃ moved, readScript (first ++ "\nGO\n" ++ second) defaultSchema = .error moved ∧
        moved.message = error.message ∧
        moved.line = error.line + (first ++ "\nGO\n").toList.count '\n' := by
  have readFirst : statements defaultSchema tokens = .ok found := by
    rw [readScript, scanned] at read
    exact mapError_eq_ok.mp read
  have all := readScript_of_isBatch scanned (isBatch_of_isClosed closed readFirst) second
  constructor
  · intro others readSecond
    rw [all, readSecond]
    rfl
  · intro error readSecond
    rw [all, readSecond]
    exact ⟨_, rfl, SyntaxError.message_moved _ error, SyntaxError.line_moved _ error⟩

/-- A module with text after its last statement and a table before another table. -/
theorem readScript_append_batch_module :
    ∃ tokens found others,
      Token.scan "CREATE TABLE T (A INT) ON [PRIMARY]; CREATE PROC P AS SELECT (1) FROM T" =
        .ok tokens ∧ Token.IsClosed tokens ∧
      readScript "CREATE TABLE T (A INT) ON [PRIMARY]; CREATE PROC P AS SELECT (1) FROM T" "dbo" =
        .ok found ∧
      readScript "CREATE TABLE U (B INT)" "dbo" = .ok others ∧
      readScript ("CREATE TABLE T (A INT) ON [PRIMARY]; CREATE PROC P AS SELECT (1) FROM T" ++
        "\nGO\n" ++ "CREATE TABLE U (B INT)") "dbo" = .ok (found ++ others) := by
  have isClosed : (Token.scan
      "CREATE TABLE T (A INT) ON [PRIMARY]; CREATE PROC P AS SELECT (1) FROM T").toOption.any
        (fun tokens => Token.IsClosed tokens) = true := by
    decide +kernel
  obtain ⟨tokens, scanned, closed⟩ := (Option.any_eq_true _ _).mp isClosed
  have scanned := toOption_eq_some.mp scanned
  have closed := of_decide_eq_true closed
  obtain ⟨found, read⟩ : ∃ found, readScript
      "CREATE TABLE T (A INT) ON [PRIMARY]; CREATE PROC P AS SELECT (1) FROM T" "dbo" = .ok found :=
    exists_of_isSome (by decide +kernel)
  obtain ⟨others, readSecond⟩ : ∃ others, readScript "CREATE TABLE U (B INT)" "dbo" = .ok others :=
    exists_of_isSome (by decide +kernel)
  exact ⟨tokens, found, others, scanned, closed, read, readSecond,
    (readScript_append_batch scanned closed read "CREATE TABLE U (B INT)").1 others readSecond⟩

/-- After a `(` that is never closed the `GO` ends nothing, and the table is part of the text. -/
theorem readScript_append_batch_ne_of_open_group :
    ¬∀ (first second defaultSchema : String) (found others : List Statement),
      readScript first defaultSchema = .ok found → readScript second defaultSchema = .ok others →
        readScript (first ++ "\nGO\n" ++ second) defaultSchema = .ok (found ++ others) := by
  intro always
  obtain ⟨found, read⟩ : ∃ found, readScript "SELECT (" "dbo" = .ok found :=
    exists_of_isSome (by decide +kernel)
  obtain ⟨others, readSecond⟩ : ∃ others, readScript "CREATE TABLE T (A INT)" "dbo" = .ok others :=
    exists_of_isSome (by decide +kernel)
  have one : (readScript "SELECT (" "dbo").toOption.map List.length = some 1 := by decide +kernel
  have another : (readScript "CREATE TABLE T (A INT)" "dbo").toOption.map List.length = some 1 := by
    decide +kernel
  have both : (readScript ("SELECT (" ++ "\nGO\n" ++ "CREATE TABLE T (A INT)") "dbo").toOption.map
      List.length = some 1 := by
    decide +kernel
  rw [always _ _ _ _ _ read readSecond] at both
  rw [read] at one
  rw [readSecond] at another
  simp only [Except.toOption, Option.map_some, Option.some.injEq, List.length_append]
    at one another both
  omega

/-- A filegroup of the name `GO`, with a group after it. -/
example : (readScript "CREATE TABLE T (A INT) ON\nGO\n(CREATE TABLE U (B INT))" "dbo").toOption.map
    List.length = some 1 := by
  decide +kernel

end SqlSchema
