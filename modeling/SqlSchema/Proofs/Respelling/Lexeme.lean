import SqlSchema.Proofs.Respelling.Basic
import SqlSchema.Proofs.Trivia

/-!
Scanning in another spelling. Letters decide where a token ends and of what class it is only as
letters, whatever their case, so a text in another spelling has its tokens in the same places.
-/

namespace SqlSchema

namespace Respelling

instance : Respellable TokenKind := ⟨fun _ => id⟩

instance {α : Type} [Respellable α] : Respellable (Except Unclosed α) where
  respell spelling := Except.map (respell spelling)

variable (spelling : Respelling)

@[simp] theorem respell_kind (kind : TokenKind) : respell spelling kind = kind :=
  rfl

@[simp] theorem respell_lexeme {α : Type} [Respellable α] (lexeme : α) :
    respell spelling (.ok lexeme : Except Unclosed α) = .ok (respell spelling lexeme) :=
  rfl

@[simp] theorem respell_unclosed {α : Type} [Respellable α] (construct : Unclosed) :
    respell spelling (.error construct : Except Unclosed α) = .error construct :=
  rfl

theorem map_respell {α β : Type} [Respellable α] [Respellable β] {convert convert' : α → β}
    (same : ∀ value, convert' (respell spelling value) = respell spelling (convert value))
    (value : Option α) :
    (respell spelling value).map convert' = respell spelling (value.map convert) := by
  cases value with
  | none => rfl
  | some value => exact congrArg some (same value)

/-! ### Classes of characters -/

section

variable (property : Char → Bool) (same : ∀ char, property (spelling.char char) = property char)
  (chars : List Char)
include same

theorem takeWhile_respell :
    (respell spelling chars).takeWhile property = respell spelling (chars.takeWhile property) := by
  refine List.takeWhile_map.trans ?_
  simp only [Function.comp_def, respell_char, same]
  rfl

theorem dropWhile_respell :
    (respell spelling chars).dropWhile property = respell spelling (chars.dropWhile property) := by
  refine List.dropWhile_map.trans ?_
  simp only [Function.comp_def, respell_char, same]
  rfl

theorem any_head?_respell :
    (respell spelling chars).head?.any property = chars.head?.any property := by
  cases chars with
  | nil => rfl
  | cons char chars => exact same char

end

theorem beq_char {mark : Char} (noLetter : mark.isAlpha = false) (char : Char) :
    (spelling.char char == mark) = (char == mark) := by
  rw [Bool.eq_iff_iff, beq_iff_eq, beq_iff_eq]
  exact spelling.char_eq_iff noLetter

theorem bne_char {mark : Char} (noLetter : mark.isAlpha = false) (char : Char) :
    (spelling.char char != mark) = (char != mark) :=
  congrArg not (spelling.beq_char noLetter char)

/-- A text whose first character is a mark in another spelling begins with that mark. -/
theorem exists_of_respell_eq_cons {mark : Char} (noLetter : mark.isAlpha = false)
    {chars rest : List Char} (equal : respell spelling chars = mark :: rest) :
    ∃ tail, chars = mark :: tail := by
  have head := congrArg List.head? equal
  exact List.head?_eq_some_iff.mp ((spelling.head?_respell_eq_iff noLetter chars).mp head)

theorem isBlank_char (char : Char) : Text.isBlank (spelling.char char) = Text.isBlank char :=
  spelling.congr_char Text.isBlank (by decide) char

end Respelling

open Respelling

variable (spelling : Respelling)

/-! ## Trivia -/

namespace Trivia

theorem pair_prefix_respell {first second : Char} (noLetter : first.isAlpha = false)
    (noLetter' : second.isAlpha = false) (chars : List Char) :
    [first, second] <+: respell spelling chars ↔ [first, second] <+: chars := by
  cases chars with
  | nil => rfl
  | cons char chars =>
    cases chars with
    | nil => simp
    | cons next chars =>
      simp [eq_comm (a := first), eq_comm (a := second), spelling.char_eq_iff noLetter,
        spelling.char_eq_iff noLetter']

theorem splitComment_respell (depth : Nat) (chars : List Char) :
    splitComment depth (respell spelling chars) = respell spelling (splitComment depth chars) := by
  have slash : spelling.char '/' = '/' := spelling.char_eq_self rfl
  have star : spelling.char '*' = '*' := spelling.char_eq_self rfl
  fun_induction splitComment depth chars with
  | case1 depth rest induction =>
    simp only [respell_cons, respell_char, slash, star, splitComment, induction]
    refine map_respell spelling ?_ _
    rintro ⟨front, rest⟩
    simp [slash, star]
  | case2 rest =>
    simp [slash, star, splitComment]
  | case3 rest depth induction =>
    simp only [respell_cons, respell_char, slash, star, splitComment, induction]
    refine map_respell spelling ?_ _
    rintro ⟨front, rest⟩
    simp [slash, star]
  | case4 depth char rest notOpening notClosing induction =>
    have opening : ¬['/', '*'] <+: respell spelling (char :: rest) := by
      rw [pair_prefix_respell spelling rfl rfl]
      rintro ⟨tail, equal⟩
      cases equal
      exact notOpening tail rfl rfl
    have closing : ¬['*', '/'] <+: respell spelling (char :: rest) := by
      rw [pair_prefix_respell spelling rfl rfl]
      rintro ⟨tail, equal⟩
      cases equal
      exact notClosing tail rfl rfl
    rw [respell_cons] at opening closing ⊢
    rw [splitComment_of_plain opening closing, induction]
    refine map_respell spelling ?_ _
    rintro ⟨front, rest⟩
    rfl
  | case5 => rfl

theorem splitPiece_respell (chars : List Char) :
    splitPiece (respell spelling chars) = respell spelling (splitPiece chars) := by
  have mark (char : Char) : spelling.char char = byteOrderMark ↔ char = byteOrderMark :=
    spelling.char_eq_iff (by decide)
  have dash : spelling.char '-' = '-' := spelling.char_eq_self rfl
  have slash : spelling.char '/' = '/' := spelling.char_eq_self rfl
  have star : spelling.char '*' = '*' := spelling.char_eq_self rfl
  have lineEnd (char : Char) : (spelling.char char != '\n') = (char != '\n') :=
    spelling.bne_char rfl char
  cases chars with
  | nil => rfl
  | cons char rest =>
    simp only [respell_cons, respell_char, splitPiece, Bool.or_eq_true, beq_iff_eq, isBlank_char,
      mark]
    split
    · rfl
    symm
    split
    · rename_i rest
      simp only [respell_cons, respell_char, dash, respell_some, respell_mk,
        takeWhile_respell spelling (· != '\n') lineEnd,
        dropWhile_respell spelling (· != '\n') lineEnd]
    · rename_i rest
      simp only [respell_cons, respell_char, slash, star, splitComment_respell]
      symm
      refine map_respell spelling ?_ _
      rintro ⟨front, rest⟩
      simp [slash, star]
    · rename_i noLine noComment
      -- No letter becomes a mark, so the respelled text opens no comment either.
      symm
      split
      · rename_i isDash isLine
        obtain ⟨tail, rfl⟩ := exists_of_respell_eq_cons spelling rfl isLine
        exact absurd rfl (noLine tail ((spelling.char_eq_iff rfl).mp isDash))
      · rename_i isSlash isComment
        obtain ⟨tail, rfl⟩ := exists_of_respell_eq_cons spelling rfl isComment
        exact absurd rfl (noComment tail ((spelling.char_eq_iff rfl).mp isSlash))
      · rfl

theorem split_respell (chars : List Char) :
    split (respell spelling chars) = respell spelling (split chars) := by
  fun_induction split chars with
  | case1 chars noPiece =>
    have none : splitPiece (respell spelling chars) = none := by
      rw [splitPiece_respell, noPiece]
      rfl
    rw [split_of_no_splitPiece none]
    rfl
  | case2 chars piece rest found front after equation induction =>
    have found' : splitPiece (respell spelling chars) =
        some (respell spelling piece, respell spelling rest) := by
      rw [splitPiece_respell, found]
      rfl
    rw [split_of_splitPiece found', induction, equation]
    simp

end Trivia

/-! ## Tokens -/

namespace Text

theorem splitDelimited_respell {close : Char} (noLetter : close.isAlpha = false)
    (chars : List Char) :
    splitDelimited close (respell spelling chars) =
      respell spelling (splitDelimited close chars) := by
  have self : spelling.char close = close := spelling.char_eq_self noLetter
  have isClose (char : Char) : spelling.char char = close ↔ char = close :=
    spelling.char_eq_iff noLetter
  fun_induction splitDelimited close chars with
  | case1 => rfl
  | case2 => simp [splitDelimited, self]
  | case3 rest induction =>
    simp only [respell_cons, respell_char, self, splitDelimited, if_true, induction]
    refine map_respell spelling ?_ _
    rintro ⟨front, rest⟩
    simp [self]
  | case4 next rest different =>
    simp [splitDelimited, self, isClose, different]
  | case5 char rest different induction =>
    rw [respell_cons, splitDelimited.eq_def]
    simp only [respell_char, isClose, if_neg different, induction]
    refine map_respell spelling ?_ _
    rintro ⟨front, rest⟩
    rfl

end Text

namespace Lexeme

theorem takeWhile_digits (chars : List Char) :
    (respell spelling chars).takeWhile Char.isDigit =
      respell spelling (chars.takeWhile Char.isDigit) :=
  takeWhile_respell spelling Char.isDigit spelling.isDigit_char chars

theorem dropWhile_digits (chars : List Char) :
    (respell spelling chars).dropWhile Char.isDigit =
      respell spelling (chars.dropWhile Char.isDigit) :=
  dropWhile_respell spelling Char.isDigit spelling.isDigit_char chars

theorem isWordPart_char (char : Char) : isWordPart (spelling.char char) = isWordPart char :=
  spelling.congr_char isWordPart (by decide) char

/-! ### Numbers -/

/-- The letter of an exponent has two spellings, and no other letter has one of them. -/
theorem splitExponent_respell (chars : List Char) :
    splitExponent (respell spelling chars) = respell spelling (splitExponent chars) := by
  have letters (char : Char) :
      (spelling.char char != 'e' && spelling.char char != 'E') = (char != 'e' && char != 'E') :=
    spelling.congr_char (fun char => char != 'e' && char != 'E') (by decide) char
  have signs (char : Char) :
      (spelling.char char == '+' || spelling.char char == '-') = (char == '+' || char == '-') :=
    spelling.congr_char (fun char => char == '+' || char == '-') (by decide) char
  have digits (chars : List Char) :
      (respell spelling chars).head?.any Char.isDigit = chars.head?.any Char.isDigit :=
    any_head?_respell spelling Char.isDigit spelling.isDigit_char chars
  cases chars with
  | nil => rfl
  | cons letter chars =>
    cases chars with
    | nil => rfl
    | cons sign rest =>
      have taken := takeWhile_digits spelling (sign :: rest)
      have dropped := dropWhile_digits spelling (sign :: rest)
      simp only [respell_cons, respell_char] at taken dropped
      simp only [respell_cons, respell_char, splitExponent, letters, signs, digits,
        spelling.isDigit_char, takeWhile_digits, dropWhile_digits, taken, dropped]
      split
      · rfl
      split
      · rfl
      split
      · rfl
      · rfl

theorem withExponent_respell (kind : TokenKind) (front rest : List Char) :
    withExponent kind (respell spelling front) (respell spelling rest) =
      respell spelling (withExponent kind front rest) := by
  unfold withExponent
  rw [splitExponent_respell]
  rcases splitExponent rest with _ | ⟨exponent, rest⟩
  · rfl
  · simp

theorem splitNumber_respell (chars : List Char) :
    splitNumber (respell spelling chars) = respell spelling (splitNumber chars) := by
  have point : spelling.char '.' = '.' := spelling.char_eq_self rfl
  have dropped := dropWhile_digits spelling chars
  by_cases hasPoint : (chars.dropWhile Char.isDigit).head? = some '.'
  · obtain ⟨rest, found⟩ := List.head?_eq_some_iff.mp hasPoint
    rw [found, respell_cons, respell_char, point] at dropped
    rw [splitNumber_of_point found, splitNumber_of_point dropped, ← withExponent_respell,
      takeWhile_digits, takeWhile_digits, dropWhile_digits, respell_append, respell_cons,
      respell_char, point]
  · have noPoint : ((respell spelling chars).dropWhile Char.isDigit).head? ≠ some '.' := by
      rwa [dropped, ne_eq, head?_respell_eq_iff spelling rfl]
    rw [splitNumber_of_no_point hasPoint, splitNumber_of_no_point noPoint,
      ← withExponent_respell, takeWhile_digits, dropped]

/-! ### Other tokens -/

theorem splitVariable_respell (chars : List Char) :
    splitVariable (respell spelling chars) = respell spelling (splitVariable chars) := by
  have close : spelling.char ')' = ')' := spelling.char_eq_self rfl
  have isClose (char : Char) : spelling.char char = ')' ↔ char = ')' := spelling.char_eq_iff rfl
  have inside (char : Char) :
      (spelling.char char != ')' && spelling.char char != '\n') =
        (char != ')' && char != '\n') := by
    rw [spelling.bne_char rfl, spelling.bne_char rfl]
  unfold splitVariable
  dsimp only
  rw [takeWhile_respell spelling (fun char => char != ')' && char != '\n') inside,
    dropWhile_respell spelling (fun char => char != ')' && char != '\n') inside]
  cases chars.dropWhile fun char => char != ')' && char != '\n' with
  | nil => rfl
  | cons char rest =>
    by_cases closes : char = ')'
    · subst closes
      simp [close]
    · simp [closes, isClose]

theorem delimited_respell {close : Char} (noLetter : close.isAlpha = false)
    {opening opening' : List Char} (same : respell spelling opening = opening')
    (kind : TokenKind) (cause : Unclosed) (rest : List Char) :
    (match Text.splitDelimited close (respell spelling rest) with
      | some (front, rest) => .ok (kind, opening' ++ front, rest)
      | none => .error cause) =
      respell spelling
        (match Text.splitDelimited close rest with
        | some (front, rest) => .ok (kind, opening ++ front, rest)
        | none => .error cause : Except Unclosed (TokenKind × List Char × List Char)) := by
  rw [Text.splitDelimited_respell spelling noLetter, ← same]
  rcases Text.splitDelimited close rest with _ | ⟨front, rest⟩
  · rfl
  · simp

theorem splitPlain_respell (first : Char) (rest : List Char) :
    splitPlain (spelling.char first) (respell spelling rest) =
      respell spelling (splitPlain first rest) := by
  have quote : spelling.char '\'' = '\'' := spelling.char_eq_self rfl
  have isString : (spelling.char first == 'N' || spelling.char first == 'n') =
      (first == 'N' || first == 'n') :=
    spelling.congr_char (fun char => char == 'N' || char == 'n') (by decide) first
  have isZero : (spelling.char first == '0') = (first == '0') := spelling.beq_char rfl first
  have isWord : isWordStart (spelling.char first) = isWordStart first :=
    spelling.congr_char isWordStart (by decide) first
  have operator : isOperator (spelling.char first) = isOperator first :=
    spelling.congr_char isOperator (by decide) first
  have isLong : "<>!".toList.contains (spelling.char first) = "<>!".toList.contains first :=
    spelling.congr_char (fun char => "<>!".toList.contains char) (by decide) first
  have isSecond (char : Char) :
      "=<>".toList.contains (spelling.char char) = "=<>".toList.contains char :=
    spelling.congr_char (fun char => "=<>".toList.contains char) (by decide) char
  have isHexDigit (char : Char) : (spelling.char char).isHexDigit = char.isHexDigit :=
    spelling.congr_char Char.isHexDigit (by decide) char
  have isQuote : (respell spelling rest).head? = some '\'' ↔ rest.head? = some '\'' :=
    head?_respell_eq_iff spelling rfl rest
  have isBinary :
      (decide ((respell spelling rest).head? = some 'x') ||
        decide ((respell spelling rest).head? = some 'X')) =
      (decide (rest.head? = some 'x') || decide (rest.head? = some 'X')) := by
    cases rest with
    | nil => rfl
    | cons char rest =>
      simpa using spelling.congr_char (fun char => decide (char = 'x') || decide (char = 'X'))
        (by decide) char
  have digits := splitNumber_respell spelling (first :: rest)
  rw [respell_cons, respell_char] at digits
  unfold splitPlain
  dsimp only
  simp only [isString, isZero, isWord, operator, isLong, isBinary, isQuote, digits,
    spelling.isDigit_char, any_head?_respell spelling _ isSecond, drop_respell, take_respell,
    takeWhile_respell spelling Char.isHexDigit isHexDigit,
    dropWhile_respell spelling Char.isHexDigit isHexDigit,
    takeWhile_respell spelling isWordPart (isWordPart_char spelling),
    dropWhile_respell spelling isWordPart (isWordPart_char spelling)]
  split
  · exact delimited_respell spelling rfl (by simp [quote]) _ _ _
  split
  · simp
  split
  · rfl
  split
  · simp
  split
  · split <;> simp
  · simp

theorem split_colon_respell (rest : List Char) :
    split ':' (respell spelling rest) = respell spelling (split ':' rest) := by
  have self : spelling.char ':' = ':' := spelling.char_eq_self rfl
  have isColon : (respell spelling rest).head? = some ':' ↔ rest.head? = some ':' :=
    head?_respell_eq_iff spelling rfl rest
  simp only [split_colon, isColon, drop_respell]
  split <;> simp [self]

theorem split_point_respell (rest : List Char) :
    split '.' (respell spelling rest) = respell spelling (split '.' rest) := by
  have self : spelling.char '.' = '.' := spelling.char_eq_self rfl
  have digits := splitNumber_respell spelling ('.' :: rest)
  rw [respell_cons, respell_char, self] at digits
  simp only [split_point, any_head?_respell spelling Char.isDigit spelling.isDigit_char, digits]
  split <;> simp [self]

theorem split_dollar_respell (rest : List Char) :
    split '$' (respell spelling rest) = respell spelling (split '$' rest) := by
  have self : spelling.char '$' = '$' := spelling.char_eq_self rfl
  have starts (char : Char) :
      ((spelling.char char).isDigit || spelling.char char == '.') =
        (char.isDigit || char == '.') := by
    rw [spelling.isDigit_char, spelling.beq_char rfl]
  have isParen : (respell spelling rest).head? = some '(' ↔ rest.head? = some '(' :=
    head?_respell_eq_iff spelling rfl rest
  simp only [split_dollar,
    any_head?_respell spelling (fun char => char.isDigit || char == '.') starts, isParen,
    splitNumber_respell, splitVariable_respell]
  split
  · rcases splitNumber rest with ⟨kind, front, rest⟩
    simp [self]
  split
  · rcases splitVariable rest with _ | ⟨front, rest⟩ <;> simp [self]
  · simp [self]

/-- The characters that decide the form of a token at once. -/
def isMark (char : Char) : Bool :=
  "[\"'/(),;@:.$".toList.contains char

theorem split_eq_splitPlain {first : Char} (noMark : isMark first = false) (rest : List Char) :
    split first rest = splitPlain first rest := by
  unfold split
  dsimp only
  split
  case h_13 => rfl
  all_goals cases noMark

theorem char_of_isMark {char : Char} (mark : isMark char = true) :
    spelling.char char = char := by
  have noLetters : "[\"'/(),;@:.$".toList.all (fun mark => !mark.isAlpha) = true := by
    decide
  have noLetter := List.all_eq_true.mp noLetters char (by simpa [isMark] using mark)
  exact spelling.char_eq_self (by simpa using noLetter)

/-- A token in another spelling has the same class and length. -/
theorem split_respell (first : Char) (rest : List Char) :
    split (spelling.char first) (respell spelling rest) =
      respell spelling (split first rest) := by
  have same : isMark (spelling.char first) = isMark first :=
    spelling.congr_char isMark (by decide) first
  -- A mark has one spelling; after any other character the form of the token depends on classes.
  cases mark : isMark first with
  | false =>
    rw [split_eq_splitPlain (same.trans mark), split_eq_splitPlain mark, splitPlain_respell]
  | true =>
    have self := char_of_isMark spelling mark
    rw [self]
    unfold split
    dsimp only
    split
    case h_1 | h_2 | h_3 =>
      exact delimited_respell spelling rfl (by simp [self]) _ _ _
    case h_4 =>
      have isStar : (respell spelling rest).head? = some '*' ↔ rest.head? = some '*' :=
        head?_respell_eq_iff spelling rfl rest
      simp only [isStar]
      split <;> simp [self]
    case h_5 | h_6 | h_7 | h_8 => simp [self]
    case h_9 =>
      simp [self, takeWhile_respell spelling isWordPart (isWordPart_char spelling),
        dropWhile_respell spelling isWordPart (isWordPart_char spelling)]
    case h_10 => exact split_colon_respell spelling rest
    case h_11 => exact split_point_respell spelling rest
    case h_12 => exact split_dollar_respell spelling rest
    case h_13 =>
      have plain := splitPlain_respell spelling first rest
      rw [self] at plain
      exact plain

end Lexeme

end SqlSchema
