import Mathlib.Data.List.TakeWhile
import SqlSchema.Proofs.Spelling

/-!
The grammar of trivia and of what closes a delimited text. Scanning takes as trivia what is trivia
and nothing else, and where it finds a comment or a delimited text unclosed no part of the script
closes it.
-/

namespace SqlSchema

namespace Trivia

/-! ## Comments -/

/-- The rest of a comment after its `/*`: characters and whole comments up to its own `*/`. -/
inductive ClosesComment : List Char → Prop
  | close : ClosesComment ['*', '/']
  | char {char : Char} {rest : List Char} (notOpening : ¬['/', '*'] <+: char :: rest)
    (notClosing : ¬['*', '/'] <+: char :: rest) (closes : ClosesComment rest) :
    ClosesComment (char :: rest)
  | nested {inner rest : List Char} (innerCloses : ClosesComment inner)
    (closes : ClosesComment rest) : ClosesComment ('/' :: '*' :: inner ++ rest)

theorem ClosesComment.ne_nil {text : List Char} (closes : ClosesComment text) : text ≠ [] := by
  cases closes <;> simp

/-- A plain character in front of what closes a comment is plain in front of anything that begins
in the same way. -/
theorem pair_prefix_cons_append {first second char : Char} {text : List Char} (some : text ≠ [])
    (more : List Char) :
    [first, second] <+: char :: (text ++ more) ↔ [first, second] <+: char :: text := by
  cases text with
  | nil => exact absurd rfl some
  | cons next text => simp

theorem splitComment_of_plain {char : Char} {rest : List Char}
    (notOpening : ¬['/', '*'] <+: char :: rest) (notClosing : ¬['*', '/'] <+: char :: rest)
    (depth : Nat) :
    splitComment depth (char :: rest) =
      (splitComment depth rest).map fun (front, rest) => (char :: front, rest) := by
  cases rest with
  | nil => simp [splitComment]
  | cons next rest =>
    rw [splitComment]
    · rintro tail rfl equal
      cases equal
      exact notOpening (by simp)
    · rintro tail rfl equal
      cases equal
      exact notClosing (by simp)

/-- The rest of the comments that are open once the innermost of them is closed. -/
def splitOuter : (depth : Nat) → List Char → Option (List Char × List Char)
  | 0, chars => some ([], chars)
  | depth + 1, chars => splitComment depth chars

/-- What closes a comment is found where it stands. -/
theorem splitComment_of_closesComment {text : List Char} (closes : ClosesComment text)
    (depth : Nat) (more : List Char) :
    splitComment depth (text ++ more) =
      (splitOuter depth more).map fun (front, rest) => (text ++ front, rest) := by
  induction closes generalizing depth more with
  | close => cases depth <;> rfl
  | @char char rest notOpening notClosing closes induction =>
    rw [List.cons_append, splitComment_of_plain, induction, Option.map_map]
    · rfl
    · rwa [pair_prefix_cons_append closes.ne_nil]
    · rwa [pair_prefix_cons_append closes.ne_nil]
  | @nested inner rest _ _ innerInduction induction =>
    have shape : '/' :: '*' :: inner ++ rest ++ more = '/' :: '*' :: (inner ++ (rest ++ more)) := by
      simp
    have outer : splitOuter (depth + 1) (rest ++ more) = splitComment depth (rest ++ more) := rfl
    rw [shape, splitComment, innerInduction, outer, induction, Option.map_map, Option.map_map]
    congr 1
    funext found
    simp

/-- What is found closes the comment and each of the comments open inside. -/
theorem exists_closesComment_of_splitComment {depth : Nat} {chars front rest : List Char}
    (found : splitComment depth chars = some (front, rest)) :
    ∃ (text : List Char) (others : List (List Char)), ClosesComment text ∧
      (∀ other ∈ others, ClosesComment other) ∧ others.length = depth ∧
        front = text ++ others.flatten := by
  fun_induction splitComment depth chars generalizing front rest with
  | case1 depth chars induction =>
    obtain ⟨⟨inner, after⟩, innerFound, equal⟩ := Option.map_eq_some_iff.mp found
    cases equal
    obtain ⟨text, others, closes, all, length, rfl⟩ := induction innerFound
    obtain ⟨next, others, rfl⟩ := List.exists_cons_of_length_eq_add_one length
    obtain ⟨nextCloses, othersClose⟩ := List.forall_mem_cons.mp all
    refine ⟨_, others, .nested closes nextCloses, othersClose, ?_, by simp⟩
    simpa using length
  | case2 chars =>
    cases found
    exact ⟨_, [], .close, by simp, rfl, rfl⟩
  | case3 chars depth induction =>
    obtain ⟨⟨inner, after⟩, innerFound, equal⟩ := Option.map_eq_some_iff.mp found
    cases equal
    obtain ⟨text, others, closes, all, length, rfl⟩ := induction innerFound
    refine ⟨_, text :: others, .close, List.forall_mem_cons.mpr ⟨closes, all⟩, ?_, rfl⟩
    rw [List.length_cons, length]
  | case4 depth char chars notOpening notClosing induction =>
    obtain ⟨⟨inner, after⟩, innerFound, equal⟩ := Option.map_eq_some_iff.mp found
    cases equal
    obtain ⟨text, others, closes, all, length, rfl⟩ := induction innerFound
    have whole : text ++ (others.flatten ++ rest) = chars := by
      rw [← List.append_assoc]
      exact append_of_splitComment innerFound
    refine ⟨char :: text, others, .char ?_ ?_ closes, all, length, rfl⟩
    · rw [← pair_prefix_cons_append closes.ne_nil (others.flatten ++ rest), whole]
      rintro ⟨tail, equal⟩
      cases equal
      exact notOpening tail rfl rfl
    · rw [← pair_prefix_cons_append closes.ne_nil (others.flatten ++ rest), whole]
      rintro ⟨tail, equal⟩
      cases equal
      exact notClosing tail rfl rfl
  | case5 => cases found

/-! ## Gaps -/

/-- Whether `gap` is trivia where `following` stands after it: pieces of trivia one after the
other. -/
inductive IsTrivia : (gap following : List Char) → Prop
  | nil (following : List Char) : IsTrivia [] following
  /-- White space or a byte-order mark. -/
  | blank {char : Char} {gap following : List Char}
    (isBlank : Text.isBlank char = true ∨ char = byteOrderMark) (rest : IsTrivia gap following) :
    IsTrivia (char :: gap) following
  /-- A comment from `--` up to a line feed or the end of the script. -/
  | line {text gap following : List Char} (oneLine : '\n' ∉ text)
    (ends : ∀ char, (gap ++ following).head? = some char → char = '\n')
    (rest : IsTrivia gap following) : IsTrivia ('-' :: '-' :: text ++ gap) following
  /-- A comment from `/*` to its own `*/`. -/
  | comment {text gap following : List Char} (closes : ClosesComment text)
    (rest : IsTrivia gap following) : IsTrivia ('/' :: '*' :: text ++ gap) following

/-- A piece of trivia in front of trivia. -/
theorem IsTrivia.of_splitPiece {chars piece gap following : List Char}
    (found : splitPiece chars = some (piece, gap ++ following)) (rest : IsTrivia gap following) :
    IsTrivia (piece ++ gap) following := by
  unfold splitPiece at found
  split at found
  · cases found
  rename_i char tail
  split at found
  · rename_i isBlank
    cases found
    exact .blank (by simpa using isBlank) rest
  rename_i notBlank
  split at found
  · rename_i text
    obtain ⟨rfl, after⟩ := Prod.mk.inj (Option.some.inj found)
    refine .line ?_ ?_ rest
    · intro member
      simpa using List.mem_takeWhile_imp member
    · intro char head
      have stop := List.head?_dropWhile_not (· != '\n') text
      rw [after, head] at stop
      simpa using stop
  · obtain ⟨⟨inner, after⟩, innerFound, equal⟩ := Option.map_eq_some_iff.mp found
    cases equal
    obtain ⟨text, others, closes, -, length, rfl⟩ :=
      exists_closesComment_of_splitComment innerFound
    cases List.length_eq_zero_iff.mp length
    simpa using IsTrivia.comment closes rest
  · cases found

/-- What is split off as trivia is trivia. -/
theorem isTrivia_split (chars : List Char) : IsTrivia (split chars).1 (split chars).2 := by
  fun_induction split chars with
  | case1 chars noPiece => exact .nil chars
  | case2 chars piece rest found front after equation induction =>
    simp only [equation] at induction
    have whole := split_append rest
    rw [equation] at whole
    rw [← whole] at found
    exact .of_splitPiece found induction

/-- No trivia is left in front of the rest. -/
theorem splitPiece_split (chars : List Char) : splitPiece (split chars).2 = none := by
  fun_induction split chars with
  | case1 chars noPiece => exact noPiece
  | case2 chars piece rest found front after equation induction => simpa [equation] using induction

/-- Trivia needs to know at most the first character after it. -/
theorem IsTrivia.of_head {gap following following' : List Char} (isTrivia : IsTrivia gap following)
    (same : following'.head? = following.head?) : IsTrivia gap following' := by
  induction isTrivia with
  | nil => exact .nil following'
  | blank isBlank _ induction => exact .blank isBlank (induction same)
  | @line text gap following oneLine ends _ induction =>
    refine .line oneLine ?_ (induction same)
    rwa [List.head?_append, same, ← List.head?_append]
  | comment closes _ induction => exact .comment closes (induction same)

/-- Trivia in front of what begins none is split off. -/
theorem split_of_isTrivia {gap following : List Char} (isTrivia : IsTrivia gap following)
    (noTrivia : splitPiece following = none) : split (gap ++ following) = (gap, following) := by
  induction isTrivia with
  | nil => exact split_of_no_splitPiece noTrivia
  | @blank char gap following isBlank _ induction =>
    have piece : splitPiece (char :: (gap ++ following)) = some ([char], gap ++ following) := by
      unfold splitPiece
      exact if_pos (by simpa using isBlank)
    rw [List.cons_append, split_of_splitPiece piece, induction noTrivia]
    rfl
  | @line text gap following oneLine ends _ induction =>
    have dash : (Text.isBlank '-' || '-' == byteOrderMark) = false := by decide
    have inside : ∀ char ∈ text, (char != '\n') = true := by
      intro char member
      rw [bne_iff_ne]
      rintro rfl
      exact oneLine member
    have stops : (gap ++ following).takeWhile (· != '\n') = [] ∧
        (gap ++ following).dropWhile (· != '\n') = gap ++ following := by
      cases rest : gap ++ following with
      | nil => exact ⟨rfl, rfl⟩
      | cons char rest =>
        obtain rfl := ends char (by rw [rest, List.head?_cons])
        exact ⟨rfl, rfl⟩
    have piece : splitPiece ('-' :: '-' :: (text ++ (gap ++ following))) =
        some ('-' :: '-' :: text, gap ++ following) := by
      simp [splitPiece, dash, List.takeWhile_append_of_pos inside,
        List.dropWhile_append_of_pos inside, stops]
    have whole : '-' :: '-' :: text ++ gap ++ following =
        '-' :: '-' :: (text ++ (gap ++ following)) := by simp
    rw [whole, split_of_splitPiece piece, induction noTrivia]
  | @comment text gap following closes _ induction =>
    have slash : (Text.isBlank '/' || '/' == byteOrderMark) = false := by decide
    have piece : splitPiece ('/' :: '*' :: (text ++ (gap ++ following))) =
        some ('/' :: '*' :: text, gap ++ following) := by
      simp [splitPiece, slash, splitComment_of_closesComment closes, splitOuter]
    have whole : '/' :: '*' :: text ++ gap ++ following =
        '/' :: '*' :: (text ++ (gap ++ following)) := by simp
    rw [whole, split_of_splitPiece piece, induction noTrivia]

end Trivia

/-! ## Delimited texts -/

namespace Text

/-- Whether no prefix of `chars` is a delimited text with its closing delimiter. -/
def NeverCloses (close : Char) (chars : List Char) : Prop :=
  ∀ content after, chars = double close content ++ close :: after → after.head? = some close

theorem neverCloses_of_splitDelimited {close : Char} {chars : List Char}
    (none : splitDelimited close chars = none) : NeverCloses close chars := by
  rintro content after rfl
  apply Decidable.byContradiction
  intro fresh
  rw [splitDelimited_double content fresh] at none
  cases none

end Text

/-! ## What a script leaves open -/

/-- Whether `chars` begins with the construct and does not close it. -/
inductive Unclosed.IsLeftOpen : Unclosed → List Char → Prop
  | comment {rest : List Char} (isOpen : ∀ text, Trivia.ClosesComment text → ¬text <+: rest) :
    IsLeftOpen .comment ('/' :: '*' :: rest)
  | bracketedName {rest : List Char} (isOpen : Text.NeverCloses ']' rest) :
    IsLeftOpen .bracketedName ('[' :: rest)
  | quotedName {rest : List Char} (isOpen : Text.NeverCloses '"' rest) :
    IsLeftOpen .quotedName ('"' :: rest)
  | string {rest : List Char} (isOpen : Text.NeverCloses '\'' rest) :
    IsLeftOpen .string ('\'' :: rest)
  | unicodeString {letter : Char} {rest : List Char} (isLetter : letter = 'N' ∨ letter = 'n')
    (isOpen : Text.NeverCloses '\'' rest) : IsLeftOpen .string (letter :: '\'' :: rest)

namespace Unclosed.IsLeftOpen

variable {first : Char} {tail : List Char} {construct : Unclosed}

/-- A comment that is no trivia is not closed. -/
theorem of_splitPiece (noTrivia : Trivia.splitPiece ('/' :: '*' :: tail) = none) :
    IsLeftOpen .comment ('/' :: '*' :: tail) := by
  refine .comment ?_
  rintro text closes ⟨more, rfl⟩
  have slash : (Text.isBlank '/' || '/' == Trivia.byteOrderMark) = false := by decide
  have found := Trivia.splitComment_of_closesComment closes 0 more
  simp [Trivia.splitPiece, slash, found, Trivia.splitOuter] at noTrivia

theorem of_splitPlain (failed : Lexeme.splitPlain first tail = .error construct) :
    construct.IsLeftOpen (first :: tail) := by
  unfold Lexeme.splitPlain at failed
  dsimp only at failed
  split at failed
  · rename_i isString
    obtain ⟨isLetter, quote⟩ := Bool.and_eq_true_iff.mp isString
    obtain ⟨rest, rfl⟩ := List.head?_eq_some_iff.mp (of_decide_eq_true quote)
    split at failed
    · cases failed
    · rename_i isOpen
      cases failed
      exact .unicodeString (by simpa using isLetter) (Text.neverCloses_of_splitDelimited isOpen)
  · iterate 3
      split at failed
      · cases failed
    split at failed
    · split at failed <;> cases failed
    · cases failed

/-- Where no token begins, a comment or a delimited text is left open. -/
theorem of_split (noTrivia : Trivia.splitPiece (first :: tail) = none)
    (failed : Lexeme.split first tail = .error construct) :
    construct.IsLeftOpen (first :: tail) := by
  unfold Lexeme.split at failed
  dsimp only at failed
  split at failed
  case h_1 =>
    split at failed
    · cases failed
    · rename_i isOpen
      cases failed
      exact .bracketedName (Text.neverCloses_of_splitDelimited isOpen)
  case h_2 =>
    split at failed
    · cases failed
    · rename_i isOpen
      cases failed
      exact .quotedName (Text.neverCloses_of_splitDelimited isOpen)
  case h_3 =>
    split at failed
    · cases failed
    · rename_i isOpen
      cases failed
      exact .string (Text.neverCloses_of_splitDelimited isOpen)
  case h_4 =>
    split at failed
    · rename_i star
      obtain ⟨rest, rfl⟩ := List.head?_eq_some_iff.mp star
      cases failed
      exact of_splitPiece noTrivia
    · cases failed
  case h_5 | h_6 | h_7 | h_8 | h_9 => cases failed
  case h_10 | h_11 => split at failed <;> cases failed
  case h_12 =>
    split at failed
    · cases failed
    split at failed
    · split at failed <;> cases failed
    · cases failed
  case h_13 => exact of_splitPlain failed

end Unclosed.IsLeftOpen

end SqlSchema
