import SqlSchema.Proofs.Parallel.Basic
import SqlSchema.Proofs.Tiling

/-!
Excerpts of a script. The tokens of a script, each after its lead, are the script up to the trivia
at its end. So the text of a run of tokens is a part of the script, between the offset of the first
token and the end of the last.
-/

namespace SqlSchema

/-- Whether `text` is not empty and stands in `source` between two byte offsets. -/
structure StandsIn (source text : String) (start stop : Nat) : Prop where
  notEmpty : text ≠ ""
  isPart : ∃ before after, source = before ++ text ++ after ∧
    before.utf8ByteSize = start ∧ (before ++ text).utf8ByteSize = stop

theorem StandsIn.start_lt_stop {source text : String} {start stop : Nat}
    (stands : StandsIn source text start stop) : start < stop := by
  rcases stands.isPart with ⟨before, after, -, rfl, rfl⟩
  have some : text.utf8ByteSize ≠ 0 := mt String.utf8ByteSize_eq_zero_iff.mp stands.notEmpty
  rw [String.utf8ByteSize_append]
  omega

namespace Token

variable {place : Place} {taken : Nat} {chars : List Char} {front back : List Token}
  {token : Token} {error : Option SyntaxError}

/-! ## Written tokens -/

theorem written_append (front back : List Token) :
    written (front ++ back) = written front ++ written back := by
  induction front with
  | nil => exact (String.empty_append (s := written back)).symm
  | cons token front induction =>
    rw [List.cons_append, written_cons, written_cons, induction, ← String.append_assoc]

/-- The line on which the last token begins, 0 if there is none. -/
def lastLine (tokens : List Token) : Nat :=
  (tokens.getLast?.map Token.line).getD 0

/-- What has been read is a run of tokens, and its text is that of the run. -/
theorem exists_run {tokens rest : List Token} (isSuffix : rest <:+ tokens)
    (shorter : rest.length < tokens.length) :
    ∃ run, run ≠ [] ∧ tokens = run ++ rest ∧ textTo tokens rest = textOf run := by
  rcases isSuffix with ⟨run, rfl⟩
  refine ⟨run, ?_, rfl, ?_⟩
  · rintro rfl
    exact absurd shorter (Nat.lt_irrefl _)
  · rw [textTo, run_append]

/-! ## Scanning from the middle -/

/-- The first token of a text and what is scanned after it. -/
theorem exists_of_scanFrom_cons (scanned : scanFrom place taken chars = (token :: back, error)) :
    ∃ lead first tail kind text rest, Trivia.split chars = (lead, first :: tail) ∧
      Lexeme.split first tail = .ok (kind, text, rest) ∧
      token = placed (place.after lead) taken kind text lead ∧
      scanFrom ((place.after lead).after text) token.line rest = (back, error) := by
  rcases trivia : Trivia.split chars with ⟨lead, _ | ⟨first, tail⟩⟩
  · rw [scanFrom_of_end trivia] at scanned
    cases scanned
  rcases lexeme : Lexeme.split first tail with construct | ⟨kind, text, rest⟩
  · rw [scanFrom_of_unclosed trivia lexeme] at scanned
    cases scanned
  · rw [scanFrom_of_token trivia lexeme] at scanned
    cases scanned
    exact ⟨lead, first, tail, kind, text, rest, rfl, lexeme, rfl, rfl⟩

/-- After some of the tokens the others are scanned from what follows in the text. -/
theorem exists_of_scanFrom_append
    (scanned : scanFrom place taken chars = (front ++ back, error)) :
    ∃ rest, chars = (written front).toList ++ rest ∧
      scanFrom (place.after (written front).toList)
        ((front.getLast?.map Token.line).getD taken) rest = (back, error) := by
  induction front generalizing place taken chars with
  | nil => exact ⟨chars, rfl, by simpa [written] using scanned⟩
  | cons token front induction =>
    obtain ⟨lead, first, tail, kind, text, following, trivia, lexeme, isPlaced, further⟩ :=
      exists_of_scanFrom_cons scanned
    rcases induction further with ⟨rest, whole, scannedRest⟩
    have wholeLine : chars = lead ++ (text ++ following) := by
      rw [Lexeme.append_of_split lexeme]
      simpa [trivia] using (Trivia.split_append chars).symm
    have start : (written (token :: front)).toList = lead ++ text ++ (written front).toList := by
      simp [written_cons, isPlaced, placed]
    refine ⟨rest, by rw [start, wholeLine, whole]; simp, ?_⟩
    rw [start, Place.after_append, Place.after_append]
    cases last : front.getLast? <;> simpa [List.getLast?_cons, last] using scannedRest

/-! ## Tokens of a script -/

/-- Whether the token is where a script has it after the tokens `front`. -/
structure Follows (front : List Token) (token : Token) : Prop where
  text_ne : token.text ≠ ""
  start_eq : token.start = (written front ++ token.lead).utf8ByteSize
  line_eq : token.line = (Place.origin.after (written front ++ token.lead).toList).line
  opensLine_eq : token.opensLine = decide (lastLine front < token.line)

theorem follows_of_scanFrom
    (scanned : scanFrom .origin 0 chars = (front ++ token :: back, error)) :
    Follows front token := by
  rcases exists_of_scanFrom_append scanned with ⟨rest, -, scannedRest⟩
  obtain ⟨lead, first, tail, kind, text, following, -, lexeme, isPlaced, -⟩ :=
    exists_of_scanFrom_cons scannedRest
  have start : (written front ++ token.lead).toList = (written front).toList ++ lead := by
    simp [isPlaced, placed]
  constructor
  · have some := Lexeme.ne_nil_of_split lexeme
    simpa [isPlaced, placed] using some
  · rw [← String.ofList_toList (s := written front ++ token.lead), ← Place.offset_after_origin,
      start, Place.after_append, isPlaced]
    rfl
  · rw [start, Place.after_append, isPlaced]
    rfl
  · rw [isPlaced]
    rfl

theorem Follows.stop_eq (follows : Follows front token) :
    token.stop = (written (front ++ [token])).utf8ByteSize := by
  rw [stop, follows.start_eq, written_append, written_cons]
  simp [written, Nat.add_assoc]

/-- A token does not begin on an earlier line than one before it. -/
theorem Follows.line_le_of_append {first second : Token} (followsFirst : Follows front first)
    (followsSecond : Follows (front ++ first :: back) second) : first.line ≤ second.line := by
  have whole : (written (front ++ first :: back) ++ second.lead).toList =
      (written front ++ first.lead).toList ++ (first.text ++ written back ++ second.lead).toList := by
    simp [written_append, written_cons]
  rw [followsFirst.line_eq, followsSecond.line_eq, whole, Place.after_append]
  exact Place.line_le_after _ _

/-- A token does not begin on an earlier line than the one before it. -/
theorem Follows.line_le {first second : Token} (followsFirst : Follows front first)
    (followsSecond : Follows (front ++ [first]) second) : first.line ≤ second.line :=
  followsFirst.line_le_of_append followsSecond

section

variable {source : String} {tokens run rest : List Token}

theorem follows_of_scan (scanned : scan source = .ok (front ++ token :: back)) :
    Follows front token :=
  follows_of_scanFrom (Grammar.scan_eq_ok.mp scanned)

/-- The script is what its tokens are written as, and what is after them. -/
theorem exists_trail (scanned : scan source = .ok tokens) :
    ∃ trail, source = written tokens ++ trail := by
  have scannedAll := Grammar.scan_eq_ok.mp scanned
  rw [← List.append_nil tokens] at scannedAll
  rcases exists_of_scanFrom_append scannedAll with ⟨rest, whole, -⟩
  refine ⟨String.ofList rest, ?_⟩
  apply String.toList_injective
  simpa using whole

/-- A run of tokens ends where the tokens up to its end do. -/
theorem stop_getLast (scanned : scan source = .ok (front ++ run ++ back)) (some : run ≠ []) :
    (run.getLast some).stop = (written (front ++ run)).utf8ByteSize := by
  have scannedLast : scan source = .ok (front ++ run.dropLast ++ run.getLast some :: back) := by
    rw [scanned, List.append_cons, List.append_assoc front run.dropLast,
      List.dropLast_append_getLast]
  rw [(follows_of_scan scannedLast).stop_eq, List.append_assoc, List.dropLast_append_getLast]

/-- The text of a run of tokens stands between the first of them and the end of the last. -/
theorem standsIn_textOf (scanned : scan source = .ok (front ++ run ++ back)) (some : run ≠ []) :
    StandsIn source (textOf run) (run.head some).start (run.getLast some).stop := by
  rcases exists_trail scanned with ⟨trail, whole⟩
  have stop := stop_getLast scanned some
  cases run with
  | nil => exact absurd rfl some
  | cons first others =>
    have follows : Follows front first :=
      follows_of_scan (by simpa using scanned)
    have split : written (front ++ first :: others) =
        written front ++ first.lead ++ textOf (first :: others) := by
      simp [written_append, written_cons, textOf, String.append_assoc]
    refine ⟨?_, written front ++ first.lead, written back ++ trail, ?_, follows.start_eq.symm, ?_⟩
    · simp [textOf, follows.text_ne]
    · rw [whole, written_append, split, String.append_assoc]
    · rw [stop, split]

end

end Token

/-! ## Statements -/

/-- The text of a statement. -/
def Statement.sql : Statement → String
  | createTable statement => statement.sql
  | other sql => sql

theorem Grammar.sql_of_createTable {defaultSchema : String} {tokens rest : List Token}
    {statement : CreateTable} (found : createTable defaultSchema tokens = .ok (statement, rest)) :
    statement.sql = Token.textTo tokens rest := by
  rcases bind_eq_ok.mp found with ⟨_, _, found⟩
  rcases bind_eq_ok.mp found with ⟨_, _, found⟩
  rcases bind_eq_ok.mp found with ⟨_, _, equal⟩
  cases equal
  rfl

end SqlSchema
