import Mathlib.Data.List.Chain
import SqlSchema.Proofs.Batches.Script
import SqlSchema.Proofs.Excerpt

/-!
Modules. The definition of a procedure, a function, a trigger or a view has no end of its own: it
runs to the end of its batch, whatever stands in it.
-/

namespace SqlSchema

namespace Token

/-- Whether the tokens begin with the words of a module definition. -/
def BeginsModule (tokens : List Token) : Prop :=
  ∃ verb ∈ ["CREATE", "ALTER"], ∃ kind ∈ ["PROCEDURE", "PROC", "FUNCTION", "TRIGGER", "VIEW"],
    Grammar.nextAreWords [verb, kind] tokens = true ∨
      Grammar.nextAreWords [verb, "OR", "ALTER", kind] tokens = true

instance (tokens : List Token) : Decidable (BeginsModule tokens) := by
  unfold BeginsModule
  infer_instance

/-- Whether no `GO` is on a later line than the token before it. -/
def IsOneBatch (tokens : List Token) : Prop :=
  tokens.IsChain fun before token => token.isWord "GO" = true → token.line ≤ before.line

instance (tokens : List Token) : Decidable (IsOneBatch tokens) := by
  unfold IsOneBatch
  infer_instance

/-- Of the tokens of one batch none but the first can end it. -/
theorem endsBatch_eq_false_of_isOneBatch {source : String} {first token : Token}
    {rest : List Token} (scanned : scan source = .ok (first :: rest))
    (isOneBatch : IsOneBatch (first :: rest)) (member : token ∈ rest) :
    token.endsBatch = false := by
  obtain ⟨front, back, rfl⟩ := List.append_of_mem member
  have follows : Follows (first :: front) token := follows_of_scan scanned
  obtain ⟨before, isLast⟩ : ∃ before, (first :: front).getLast? = some before :=
    ⟨_, List.getLast?_eq_some_getLast (List.cons_ne_nil first front)⟩
  rw [IsOneBatch, ← List.cons_append, List.isChain_append] at isOneBatch
  have sameLine := isOneBatch.2.2 before isLast token rfl
  rw [endsBatch, follows.opensLine_eq, lastLine, isLast]
  cases isGo : token.isWord "GO" with
  | false => rfl
  | true => exact decide_eq_false (Nat.not_lt.mpr (sameLine isGo))

end Token

namespace Grammar

/-! ## The words of a module -/

theorem nextAreWords_cons_iff {keyword : String} {keywords : List String} {tokens : List Token} :
    nextAreWords (keyword :: keywords) tokens = true ↔
      ∃ token rest, tokens = token :: rest ∧ token.isWord keyword = true ∧
        nextAreWords keywords rest = true := by
  cases tokens with
  | nil => simp [nextAreWords]
  | cons token rest => simp [nextAreWords]

theorem nextAreWords_append_right {keywords : List String} {tokens : List Token}
    (words : nextAreWords keywords tokens = true) (more : List Token) :
    nextAreWords keywords (tokens ++ more) = true := by
  induction keywords generalizing tokens with
  | nil => simp [nextAreWords]
  | cons keyword keywords induction =>
    obtain ⟨token, rest, rfl, isWord, others⟩ := nextAreWords_cons_iff.mp words
    exact nextAreWords_cons_iff.mpr ⟨token, rest ++ more, rfl, isWord, induction others⟩

theorem beginsModule_append {tokens : List Token} (begins : Token.BeginsModule tokens)
    (more : List Token) : Token.BeginsModule (tokens ++ more) := by
  obtain ⟨verb, isVerb, kind, isKind, words⟩ := begins
  refine ⟨verb, isVerb, kind, isKind, ?_⟩
  exact words.imp (nextAreWords_append_right · more) (nextAreWords_append_right · more)

/-- A token that is one keyword is none of those that are spelled differently. -/
theorem isWord_eq_false_of_isWord {token : Token} {keyword other : String}
    (isWord : token.isWord keyword = true)
    (different : Text.equalIgnoringCase keyword other = false) : token.isWord other = false := by
  rw [Token.isWord_of_isWord isWord, different]

/-- The words of a module definition begin a module and no table. -/
theorem atModule_of_beginsModule {tokens : List Token} (begins : Token.BeginsModule tokens) :
    atModule tokens = true ∧ nextAreWords ["CREATE", "TABLE"] tokens = false := by
  obtain ⟨verb, isVerb, kind, isKind, words⟩ := begins
  have notOr : ∀ kind ∈ moduleWords, Text.equalIgnoringCase kind "OR" = false := by decide +kernel
  have notTable : ∀ kind ∈ moduleWords, Text.equalIgnoringCase kind "TABLE" = false := by
    decide +kernel
  rcases words with words | words
  · obtain ⟨first, _, rfl, isFirst, words⟩ := nextAreWords_cons_iff.mp words
    obtain ⟨second, rest, rfl, isSecond, -⟩ := nextAreWords_cons_iff.mp words
    have isVerbWord : first.isWordIn ["CREATE", "ALTER"] = true :=
      List.any_eq_true.mpr ⟨verb, isVerb, isFirst⟩
    have isKindWord : second.isWordIn moduleWords = true :=
      List.any_eq_true.mpr ⟨kind, isKind, isSecond⟩
    have noOr := isWord_eq_false_of_isWord isSecond (notOr kind isKind)
    have noTable := isWord_eq_false_of_isWord isSecond (notTable kind isKind)
    simp [atModule, nextAreWords, nextIsWordIn, isVerbWord, isKindWord, noOr, noTable]
  · obtain ⟨first, _, rfl, isFirst, words⟩ := nextAreWords_cons_iff.mp words
    obtain ⟨second, _, rfl, isOr, words⟩ := nextAreWords_cons_iff.mp words
    obtain ⟨third, _, rfl, isAlter, words⟩ := nextAreWords_cons_iff.mp words
    obtain ⟨fourth, rest, rfl, isFourth, -⟩ := nextAreWords_cons_iff.mp words
    have isVerbWord : first.isWordIn ["CREATE", "ALTER"] = true :=
      List.any_eq_true.mpr ⟨verb, isVerb, isFirst⟩
    have isKindWord : fourth.isWordIn moduleWords = true :=
      List.any_eq_true.mpr ⟨kind, isKind, isFourth⟩
    have noTable : second.isWord "TABLE" = false :=
      isWord_eq_false_of_isWord isOr (by decide +kernel)
    simp [atModule, nextAreWords, nextIsWordIn, isVerbWord, isKindWord, isOr, isAlter, noTable]

/-- The first token of a module begins its statement. -/
theorem exists_cons_of_beginsModule {tokens : List Token} (begins : Token.BeginsModule tokens) :
    ∃ first rest, tokens = first :: rest ∧ first.kind ≠ .semicolon ∧ first.endsBatch = false := by
  obtain ⟨verb, isVerb, kind, isKind, words⟩ := begins
  obtain ⟨first, rest, same, isFirst⟩ :
      ∃ first rest, tokens = first :: rest ∧ first.isWord verb = true := by
    rcases words with words | words
    · obtain ⟨first, rest, same, isFirst, -⟩ := nextAreWords_cons_iff.mp words
      exact ⟨first, rest, same, isFirst⟩
    · obtain ⟨first, rest, same, isFirst, -⟩ := nextAreWords_cons_iff.mp words
      exact ⟨first, rest, same, isFirst⟩
  have notGo : ∀ verb ∈ ["CREATE", "ALTER"], Text.equalIgnoringCase verb "GO" = false := by
    decide +kernel
  refine ⟨first, rest, same, ?_, ?_⟩
  · have isWord : first.kind = .word := by
      simpa using (Bool.and_eq_true_iff.mp isFirst).1
    rw [isWord]
    decide
  · rw [Token.endsBatch, isWord_eq_false_of_isWord isFirst (notGo verb isVerb), Bool.false_and]

/-! ## Reading -/

section

variable {source : String} {tokens : List Token} (scanned : Token.scan source = .ok tokens)
  (begins : Token.BeginsModule tokens) (isOneBatch : Token.IsOneBatch tokens)
include scanned begins isOneBatch

/-- A module is one statement up to the end of its batch. -/
theorem statements_of_beginsModule (defaultSchema : String) {more : List Token}
    (ends : ∀ stop ∈ more.head?, stop.endsBatch = true) :
    statements defaultSchema (tokens ++ more) =
      (statements defaultSchema more).map (.other (Token.textOf tokens) :: ·) := by
  obtain ⟨first, rest, rfl, notSemicolon, notEnd⟩ := exists_cons_of_beginsModule begins
  obtain ⟨isModule, noTable⟩ := atModule_of_beginsModule (beginsModule_append begins more)
  rw [List.cons_append] at isModule noTable ⊢
  have batchGoesOn : ∀ token ∈ rest, (!token.endsBatch) = true := fun token member => by
    rw [Token.endsBatch_eq_false_of_isOneBatch scanned isOneBatch member]
    rfl
  have after : afterStatement first (rest ++ more) = more := by
    rw [afterStatement, if_pos isModule, List.dropWhile_append_of_pos batchGoesOn]
    cases more with
    | nil => rfl
    | cons stop more => simp [ends stop rfl]
  rw [statements_cons, if_neg notSemicolon, notEnd, if_neg Bool.false_ne_true, noTable,
    if_neg Bool.false_ne_true]
  dsimp only
  rw [after, ← List.cons_append, Token.textTo, Token.run_append]

end

end Grammar

open Grammar

/-- The definition of a module is one statement, from its first token to its last, whatever it
consists of. After a `GO` another script is read as if it stood alone, further down. -/
theorem readScript_of_beginsModule {source : String} {tokens : List Token}
    (scanned : Token.scan source = .ok tokens) (begins : Token.BeginsModule tokens)
    (isOneBatch : Token.IsOneBatch tokens) (defaultSchema : String) :
    ∃ text first last, tokens.head? = some first ∧ tokens.getLast? = some last ∧
      StandsIn source text first.start last.stop ∧
      readScript source defaultSchema = .ok [.other text] ∧
      ∀ script,
        (∀ found, readScript script defaultSchema = .ok found →
          readScript (source ++ "\nGO\n" ++ script) defaultSchema = .ok (.other text :: found)) ∧
        ∀ error, readScript script defaultSchema = .error error →
          ∃ moved, readScript (source ++ "\nGO\n" ++ script) defaultSchema = .error moved ∧
            moved.message = error.message ∧
            moved.line = error.line + (source ++ "\nGO\n").toList.count '\n' := by
  have isBatch : IsBatch defaultSchema tokens [.other (Token.textOf tokens)] :=
    fun stop ends more => statements_of_beginsModule scanned begins isOneBatch defaultSchema
      (by simpa using ends)
  have alone : statements defaultSchema tokens = .ok [.other (Token.textOf tokens)] := by
    have whole : statements defaultSchema (tokens ++ []) = _ :=
      statements_of_beginsModule scanned begins isOneBatch defaultSchema (by simp)
    rwa [List.append_nil, statements_nil] at whole
  obtain ⟨_, _, some, -, -⟩ := exists_cons_of_beginsModule begins
  have some : tokens ≠ [] := some ▸ List.cons_ne_nil _ _
  have stands : StandsIn source _ (tokens.head some).start (tokens.getLast some).stop :=
    Token.standsIn_textOf (by simpa using scanned : Token.scan source = .ok ([] ++ tokens ++ [])) some
  refine ⟨_, _, _, List.head?_eq_some_head some, List.getLast?_eq_some_getLast some, stands, ?_, ?_⟩
  · rw [readScript, scanned]
    exact mapError_eq_ok.mpr alone
  · intro script
    have all := readScript_of_isBatch scanned isBatch script
    constructor
    · intro found read
      rw [all, read]
      rfl
    · intro error failed
      rw [all, failed]
      exact ⟨_, rfl, SyntaxError.message_moved _ error, SyntaxError.line_moved _ error⟩

/-- A module with an open parenthesis, a table of its own and a `GO` that does not begin its line,
before a table that is not finished. -/
theorem readScript_of_beginsModule_procedure :
    ∃ tokens text error,
      Token.scan "-- p\nCREATE OR ALTER PROC P AS\nSELECT (1; CREATE TABLE T (A INT) GO" =
        .ok tokens ∧ Token.BeginsModule tokens ∧ Token.IsOneBatch tokens ∧
      readScript "-- p\nCREATE OR ALTER PROC P AS\nSELECT (1; CREATE TABLE T (A INT) GO" "dbo" =
        .ok [.other text] ∧
      readScript "CREATE TABLE U (\nB INT" "dbo" = .error error ∧
      ∃ moved, readScript ("-- p\nCREATE OR ALTER PROC P AS\nSELECT (1; CREATE TABLE T (A INT) GO" ++
        "\nGO\n" ++ "CREATE TABLE U (\nB INT") "dbo" = .error moved ∧
        moved.message = error.message ∧ moved.line = error.line + 4 := by
  obtain ⟨tokens, scanned, begins, isOneBatch⟩ : ∃ tokens, Token.scan
      "-- p\nCREATE OR ALTER PROC P AS\nSELECT (1; CREATE TABLE T (A INT) GO" = .ok tokens ∧
        Token.BeginsModule tokens ∧ Token.IsOneBatch tokens := by
    have holds : (Token.scan
        "-- p\nCREATE OR ALTER PROC P AS\nSELECT (1; CREATE TABLE T (A INT) GO").toOption.any
          (fun tokens => Token.BeginsModule tokens ∧ Token.IsOneBatch tokens) = true := by
      decide +kernel
    obtain ⟨tokens, scanned, holds⟩ := (Option.any_eq_true _ _).mp holds
    exact ⟨tokens, toOption_eq_some.mp scanned, of_decide_eq_true holds⟩
  obtain ⟨text, _, _, -, -, -, alone, before⟩ :=
    readScript_of_beginsModule scanned begins isOneBatch "dbo"
  obtain ⟨error, refused⟩ : ∃ error, readScript "CREATE TABLE U (\nB INT" "dbo" = .error error := by
    have isRefused : (readScript "CREATE TABLE U (\nB INT" "dbo").toOption.isSome = false := by
      decide +kernel
    cases read : readScript "CREATE TABLE U (\nB INT" "dbo" with
    | error error => exact ⟨error, rfl⟩
    | ok found => simp [read, Except.toOption] at isRefused
  exact ⟨tokens, text, _, scanned, begins, isOneBatch, alone, refused, (before _).2 _ refused⟩

end SqlSchema
