import SqlSchema.Text.Blank

/-!
Trivia: what may stand between two tokens. White space, a byte-order mark, a comment from `--` to
the end of its line, and a comment from `/*` to its own `*/`; the latter nest.
-/

namespace SqlSchema.Trivia

/-- The mark that some editors leave at the start of a file. -/
def byteOrderMark : Char := '\uFEFF'

/-- The rest of a comment whose opening has been read, up to the `*/` that closes it, and the
characters after it. `depth` counts the comments opened inside and not yet closed. -/
def splitComment (depth : Nat) : List Char → Option (List Char × List Char)
  | '/' :: '*' :: rest =>
    (splitComment (depth + 1) rest).map fun (front, rest) => ('/' :: '*' :: front, rest)
  | '*' :: '/' :: rest =>
    match depth with
    | 0 => some (['*', '/'], rest)
    | depth + 1 =>
      (splitComment depth rest).map fun (front, rest) => ('*' :: '/' :: front, rest)
  | char :: rest => (splitComment depth rest).map fun (front, rest) => (char :: front, rest)
  | [] => none

example : splitComment 0 "a /* b */ c */ d".toList =
    some ("a /* b */ c */".toList, " d".toList) := by
  decide +kernel

/-- One piece of trivia at the front of a text, and the characters after it. An unclosed comment is
no trivia. -/
def splitPiece : List Char → Option (List Char × List Char)
  | [] => none
  | char :: rest =>
    if Text.isBlank char || char == byteOrderMark then some ([char], rest)
    else
      match char, rest with
      | '-', '-' :: rest =>
        some ('-' :: '-' :: rest.takeWhile (· != '\n'), rest.dropWhile (· != '\n'))
      | '/', '*' :: rest =>
        (splitComment 0 rest).map fun (front, rest) => ('/' :: '*' :: front, rest)
      | _, _ => none

theorem append_of_splitComment {depth : Nat} {chars front rest : List Char}
    (found : splitComment depth chars = some (front, rest)) : front ++ rest = chars := by
  fun_induction splitComment depth chars generalizing front rest <;>
    grind [Option.map_eq_some_iff]

theorem append_of_splitPiece {chars front rest : List Char}
    (found : splitPiece chars = some (front, rest)) : front ++ rest = chars := by
  unfold splitPiece at found
  grind [append_of_splitComment, List.takeWhile_append_dropWhile, Option.map_eq_some_iff]

theorem ne_nil_of_splitPiece {chars front rest : List Char}
    (found : splitPiece chars = some (front, rest)) : front ≠ [] := by
  unfold splitPiece at found
  grind [Option.map_eq_some_iff]

theorem length_of_splitPiece {chars front rest : List Char}
    (found : splitPiece chars = some (front, rest)) : rest.length < chars.length := by
  have whole := append_of_splitPiece found
  have some := List.length_pos_iff.mpr (ne_nil_of_splitPiece found)
  subst whole
  simp
  omega

/-- The trivia at the front of a text, and the characters after it. -/
def split (chars : List Char) : List Char × List Char :=
  match _ : splitPiece chars with
  | none => ([], chars)
  | some (piece, rest) =>
    let (front, rest) := split rest
    (piece ++ front, rest)
termination_by chars.length
decreasing_by exact length_of_splitPiece ‹_›

theorem split_append (chars : List Char) : (split chars).1 ++ (split chars).2 = chars := by
  fun_induction split chars with
  | case1 => rfl
  | case2 chars piece rest found front tail equation induction =>
    simp only [equation] at induction
    rw [List.append_assoc, induction]
    exact append_of_splitPiece found

theorem length_split (chars : List Char) : (split chars).2.length ≤ chars.length := by
  have whole := congrArg List.length (split_append chars)
  simp only [List.length_append] at whole
  omega

end SqlSchema.Trivia
