import SqlSchema.Proofs.Excerpt
import SqlSchema.Proofs.Trivia

/-!
Texts that end early. A text that is cut off between two tokens has the tokens before the cut: none
of them needs what came after it. So the tokens of a run are found again when its text stands alone.
-/

namespace SqlSchema

/-! ## Trivia -/

namespace Trivia

variable {chars cut lead tail : List Char} {first : Char}

/-- What begins trivia begins some also when more follows. -/
theorem splitPiece_eq_none_of_append (cut : List Char) (none : splitPiece (chars ++ cut) = none) :
    splitPiece chars = Option.none := by
  cases found : splitPiece chars with
  | none => rfl
  | some parts =>
    unfold splitPiece at found
    split at found
    · cases found
    rename_i char tail
    split at found
    · rename_i isBlank
      simp [splitPiece, isBlank] at none
    split at found
    · have dash : (Text.isBlank '-' || '-' == byteOrderMark) = false := by decide
      simp [splitPiece, dash] at none
    · have slash : (Text.isBlank '/' || '/' == byteOrderMark) = false := by decide
      rcases Option.map_eq_some_iff.mp found with ⟨_, inside, _⟩
      simp [splitPiece, slash, splitComment_append inside] at none
    · cases found

/-- Trivia before a token is the same where the text ends after the token. -/
theorem split_of_append (found : split (chars ++ cut) = (lead, first :: (tail ++ cut))) :
    split chars = (lead, first :: tail) := by
  have isTrivia := isTrivia_split (chars ++ cut)
  have noTrivia := splitPiece_split (chars ++ cut)
  have whole := split_append (chars ++ cut)
  rw [found] at isTrivia noTrivia whole
  have wholeCut : lead ++ first :: tail = chars := by
    apply List.append_cancel_right
    simpa using whole
  rw [← wholeCut]
  exact split_of_isTrivia (isTrivia.of_head rfl) (splitPiece_eq_none_of_append cut noTrivia)

/-- Trivia is trivia as well where the text ends after it. -/
theorem IsTrivia.of_end {gap following : List Char} (isTrivia : IsTrivia gap following) :
    IsTrivia gap [] := by
  induction isTrivia with
  | nil => exact .nil []
  | blank isBlank _ induction => exact .blank isBlank induction
  | @line text gap following oneLine ends _ induction =>
    refine .line oneLine (fun char head => ends char ?_) induction
    rw [List.append_nil] at head
    rw [List.head?_append, head, Option.some_or]
  | comment closes _ induction => exact .comment closes induction

/-- The trivia of a text is all there is where the text ends after it. -/
theorem split_of_end {lead rest : List Char} (found : split chars = (lead, rest)) :
    split lead = (lead, []) := by
  have isTrivia := isTrivia_split chars
  rw [found] at isTrivia
  simpa using split_of_isTrivia isTrivia.of_end rfl

end Trivia

/-! ## Runs of tokens -/

namespace Token

variable {place : Place} {taken : Nat} {chars : List Char} {front run back : List Token}
  {error : Option SyntaxError}

/-- A script that ends in the trivia after some of its tokens has these tokens. -/
theorem scanFrom_of_append {gap cut : List Char}
    (scanned : scanFrom place taken ((written front).toList ++ gap ++ cut) = (front ++ back, error))
    (isTrivia : Trivia.split gap = (gap, [])) :
    scanFrom place taken ((written front).toList ++ gap) = (front, none) := by
  induction front generalizing place taken with
  | nil => exact scanFrom_of_end (by simpa [written] using isTrivia) place taken
  | cons token front induction =>
    obtain ⟨lead, first, tail, kind, text, rest, trivia, lexeme, isPlaced, further⟩ :=
      exists_of_scanFrom_cons scanned
    have wholeToken := Lexeme.append_of_split lexeme
    have whole := Trivia.split_append ((written (token :: front)).toList ++ gap ++ cut)
    have start : (written (token :: front)).toList = lead ++ (text ++ (written front).toList) := by
      simp [written_cons, isPlaced, placed]
    rw [trivia, start] at whole
    simp only [← wholeToken, List.append_assoc] at whole
    obtain rfl := List.append_cancel_left (List.append_cancel_left whole)
    rw [← List.append_assoc] at further wholeToken lexeme
    have line : token.line = (place.after lead).line := congrArg Token.line isPlaced
    have read := induction further
    rw [line] at read
    rcases List.exists_cons_of_ne_nil (Lexeme.ne_nil_of_split lexeme) with ⟨char, text, rfl⟩
    rw [List.cons_append, ← List.append_assoc] at wholeToken
    rcases List.cons.inj wholeToken with ⟨rfl, rfl⟩
    have alone : (written (token :: front)).toList ++ gap =
        lead ++ char :: (text ++ ((written front).toList ++ gap)) := by
      simp [start]
    rw [alone] at trivia ⊢
    rw [scanFrom_of_token (Trivia.split_of_append trivia) (Lexeme.split_of_append lexeme), read,
      ← isPlaced]

/-- The text of the first tokens of a script has these tokens. -/
theorem scanFrom_written (scanned : scanFrom place taken chars = (front ++ back, error)) :
    scanFrom place taken (written front).toList = (front, none) := by
  obtain ⟨cut, rfl, -⟩ := exists_of_scanFrom_append scanned
  rw [← List.append_nil (written front).toList] at scanned ⊢
  exact scanFrom_of_append scanned (Trivia.split_of_no_splitPiece rfl)

/-- A run of tokens of a script is what its text has as tokens, further on and under another
heading. -/
theorem exists_scan_textOf {source : String} (scanned : scan source = .ok (front ++ run ++ back)) :
    ∃ tokens lead opens offset lines, scan (textOf run) = .ok tokens ∧
      run = headed lead opens (tokens.map (moved offset lines)) := by
  cases run with
  | nil =>
    have nothing := scanFrom_of_end (Trivia.split_of_no_splitPiece rfl) .origin 0
    exact ⟨[], "", true, 0, 0, Grammar.scan_eq_ok.mpr nothing, rfl⟩
  | cons first others =>
    rw [List.append_assoc] at scanned
    rcases exists_of_scanFrom_append (Grammar.scan_eq_ok.mp scanned) with ⟨rest, -, scannedRest⟩
    have scannedRun := scanFrom_written scannedRest
    obtain ⟨lead, char, tail, kind, text, after, trivia, -, isFirst, -⟩ :=
      exists_of_scanFrom_cons scannedRun
    have whole : (written (first :: others)).toList =
        lead ++ (textOf (first :: others)).toList := by
      simp [written_cons, textOf, isFirst, placed]
    have wholeTrivia := Trivia.split_append (written (first :: others)).toList
    have noTrivia := Trivia.splitPiece_split (written (first :: others)).toList
    rw [trivia] at wholeTrivia noTrivia
    dsimp only at wholeTrivia noTrivia
    rw [whole] at wholeTrivia trivia scannedRun
    have isText : char :: tail = (textOf (first :: others)).toList :=
      List.append_cancel_left wholeTrivia
    rw [isText] at noTrivia trivia
    -- The lead of the first token is all that its trivia was, so none is left in front of its text.
    have leadOnly : Trivia.split (lead ++ (textOf (first :: others)).toList) =
        (lead ++ (Trivia.split (textOf (first :: others)).toList).1,
          (Trivia.split (textOf (first :: others)).toList).2) := by
      rw [trivia, Trivia.split_of_no_splitPiece noTrivia, List.append_nil]
    have positive : 0 < (Place.origin.after (written front).toList).line :=
      Place.line_le_after .origin (written front).toList
    obtain ⟨newLead, opens, -, scannedHeaded⟩ := scanFrom_eq_headed leadOnly positive
      ((front.getLast?.map Token.line).getD 0)
    rw [scannedRun] at scannedHeaded
    rcases Prod.mk.inj scannedHeaded with ⟨isRun, noError⟩
    refine ⟨_, newLead, opens, _, _, Grammar.scan_eq_ok.mpr (Prod.ext rfl ?_), isRun⟩
    exact Option.map_eq_none_iff.mp noError.symm

end Token

end SqlSchema
