import SqlSchema.Token.Scan

/-!
Line feeds after a text. A run of characters that holds no line feed ends in front of one, and no
trivia reaches over a line feed but a comment that is closed later.
-/

namespace SqlSchema

/-! ## Runs of characters -/

namespace Text

theorem takeWhile_append_cons {isInside : Char → Bool} {stop : Char} (stops : isInside stop = false)
    (chars more : List Char) :
    (chars ++ stop :: more).takeWhile isInside = chars.takeWhile isInside := by
  induction chars with
  | nil => simp [stops]
  | cons char chars induction => cases inside : isInside char <;> simp [inside, induction]

theorem dropWhile_append_cons {isInside : Char → Bool} {stop : Char} (stops : isInside stop = false)
    (chars more : List Char) :
    (chars ++ stop :: more).dropWhile isInside = chars.dropWhile isInside ++ stop :: more := by
  induction chars with
  | nil => simp [stops]
  | cons char chars induction => cases inside : isInside char <;> simp [inside, induction]

theorem any_head?_append_cons {holds : Char → Bool} {stop : Char} (fails : holds stop = false)
    (chars more : List Char) : (chars ++ stop :: more).head?.any holds = chars.head?.any holds := by
  cases chars <;> simp [fails]

theorem head?_append_cons {char stop : Char} (different : stop ≠ char) (chars more : List Char) :
    (chars ++ stop :: more).head? = some char ↔ chars.head? = some char := by
  cases chars <;> simp [different]

/-- Where a delimited text ends does not depend on what follows it, unless that is its delimiter. -/
theorem splitDelimited_append {close : Char} {chars front rest : List Char}
    (found : splitDelimited close chars = some (front, rest)) {more : List Char}
    (fresh : more.head? ≠ some close) :
    splitDelimited close (chars ++ more) = some (front, rest ++ more) := by
  fun_induction splitDelimited close chars generalizing front rest with
  | case1 => cases found
  | case2 =>
    cases found
    cases more with
    | nil => simp [splitDelimited]
    | cons next more =>
      have different : next ≠ close := by simpa using fresh
      simp [splitDelimited, different]
  | case3 rest induction =>
    obtain ⟨⟨inner, after⟩, innerFound, equal⟩ := Option.map_eq_some_iff.mp found
    cases equal
    simp [splitDelimited, induction innerFound]
  | case4 next rest different =>
    cases found
    simp [splitDelimited, different]
  | case5 char rest different induction =>
    obtain ⟨⟨inner, after⟩, innerFound, equal⟩ := Option.map_eq_some_iff.mp found
    cases equal
    rw [List.cons_append, splitDelimited.eq_def]
    simp [different, induction innerFound]

end Text

/-! ## Trivia -/

namespace Trivia

theorem splitComment_append {depth : Nat} {chars front after : List Char}
    (found : splitComment depth chars = some (front, after)) (more : List Char) :
    splitComment depth (chars ++ more) = some (front, after ++ more) := by
  fun_induction splitComment depth chars generalizing front after with
  | case1 depth rest induction =>
    obtain ⟨inner, innerFound, equal⟩ := Option.map_eq_some_iff.mp found
    cases equal
    simp [splitComment, induction innerFound]
  | case2 =>
    cases found
    simp [splitComment]
  | case3 rest depth induction =>
    obtain ⟨inner, innerFound, equal⟩ := Option.map_eq_some_iff.mp found
    cases equal
    simp [splitComment, induction innerFound]
  | case4 depth char rest notOpening notClosing induction =>
    obtain ⟨inner, innerFound, equal⟩ := Option.map_eq_some_iff.mp found
    cases equal
    cases rest with
    | nil => cases innerFound
    | cons next tail =>
      rw [List.cons_append, splitComment, induction innerFound]
      · rfl
      · intro _ opening equal
        rw [List.cons_append] at equal
        cases equal
        exact notOpening _ opening rfl
      · intro _ closing equal
        rw [List.cons_append] at equal
        cases equal
        exact notClosing _ closing rfl
  | case5 => cases found

theorem splitPiece_append_newline {chars front rest : List Char}
    (found : splitPiece chars = some (front, rest)) (more : List Char) :
    splitPiece (chars ++ '\n' :: more) = some (front, rest ++ '\n' :: more) := by
  cases chars with
  | nil => cases found
  | cons char tail =>
    rw [List.cons_append]
    unfold splitPiece at found ⊢
    dsimp only at found ⊢
    by_cases isBlank : (Text.isBlank char || char == byteOrderMark) = true
    · rw [if_pos isBlank] at found ⊢
      cases found
      rfl
    rw [if_neg isBlank] at found ⊢
    split at found
    · cases found
      simp [Text.takeWhile_append_cons, Text.dropWhile_append_cons]
    · obtain ⟨⟨inner, after⟩, innerFound, equal⟩ := Option.map_eq_some_iff.mp found
      cases equal
      simp [splitComment_append innerFound]
    · cases found

/-- What begins no trivia does not begin any with a line feed after it, unless it opens a comment. -/
theorem splitPiece_eq_none_append_newline {first : Char} {tail : List Char}
    (none : splitPiece (first :: tail) = none) (notOpen : first = '/' → tail.head? ≠ some '*')
    (more : List Char) : splitPiece (first :: (tail ++ '\n' :: more)) = Option.none := by
  unfold splitPiece at none ⊢
  dsimp only at none ⊢
  by_cases isBlank : (Text.isBlank first || first == byteOrderMark) = true
  · rw [if_pos isBlank] at none
    cases none
  rw [if_neg isBlank] at none ⊢
  cases tail with
  | nil => simp
  | cons next tail =>
    split at none
    · cases none
    · rename_i equal
      cases equal
      exact absurd rfl (notOpen rfl)
    · rename_i notLine notBlock
      rw [List.cons_append]
      split
      · rename_i equal
        cases equal
        exact absurd rfl (notLine _ rfl)
      · rename_i equal
        cases equal
        exact absurd rfl (notBlock _ rfl)
      · rfl

theorem split_of_splitPiece {chars piece rest : List Char}
    (found : splitPiece chars = some (piece, rest)) :
    split chars = (piece ++ (split rest).1, (split rest).2) := by
  rw [split.eq_def]
  split
  · rename_i none
    rw [found] at none
    cases none
  · rename_i equal
    rw [found] at equal
    cases equal
    rfl

theorem split_of_no_splitPiece {chars : List Char} (none : splitPiece chars = none) :
    split chars = ([], chars) := by
  rw [split.eq_def]
  split
  · rfl
  · rename_i found
    rw [none] at found
    cases found

/-- Trivia up to the end of a text goes on after a line feed. -/
theorem split_append_newline_of_end {chars : List Char} (ended : (split chars).2 = [])
    (more : List Char) :
    split (chars ++ '\n' :: more) = (chars ++ '\n' :: (split more).1, (split more).2) := by
  fun_induction split chars with
  | case1 chars noPiece =>
    subst ended
    have newline : splitPiece ('\n' :: more) = some (['\n'], more) := rfl
    exact split_of_splitPiece newline
  | case2 chars piece rest found front tail equation induction =>
    have whole := append_of_splitPiece found
    simp only [equation] at induction
    rw [split_of_splitPiece (splitPiece_append_newline found more), induction ended, ← whole]
    simp

/-- Trivia before a token ends there also when a line feed follows. -/
theorem split_append_newline {chars lead tail : List Char} {first : Char}
    (found : split chars = (lead, first :: tail))
    (notOpen : first = '/' → tail.head? ≠ some '*') (more : List Char) :
    split (chars ++ '\n' :: more) = (lead, first :: (tail ++ '\n' :: more)) := by
  fun_induction split chars generalizing lead with
  | case1 chars noPiece =>
    cases found
    exact split_of_no_splitPiece (splitPiece_eq_none_append_newline noPiece notOpen more)
  | case2 chars piece rest pieceFound front after equation induction =>
    cases found
    rw [split_of_splitPiece (splitPiece_append_newline pieceFound more), induction equation]

end Trivia

end SqlSchema
