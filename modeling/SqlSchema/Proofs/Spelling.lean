import SqlSchema.Proofs.Reading
import SqlSchema.Proofs.Scan

/-!
Texts that are put together from tokens. Each kind of token is scanned as itself as long as what
follows it does not go on with it.
-/

namespace SqlSchema

namespace Trivia

/-- Whether white space or a comment can begin with `char`. -/
def canBegin (char : Char) : Bool :=
  Text.isBlank char || char == byteOrderMark || char == '-' || char == '/'

theorem canBegin_of_isDigit {first : Char} (isDigit : first.isDigit = true) :
    canBegin first = false := by
  have different {mark : Char} (notDigit : mark.isDigit = false) : (first == mark) = false := by
    refine beq_eq_false_iff_ne.mpr ?_
    rintro rfl
    simp [isDigit] at notDigit
  have bounds : 48 ≤ first.toNat ∧ first.toNat ≤ 57 := by
    simpa [Char.isDigit, UInt32.le_iff_toNat_le] using isDigit
  have notBlank : Text.isBlank first = false := Text.isBlank_of_visible (by omega)
  rw [canBegin, notBlank, different rfl, different rfl, different rfl]
  rfl

theorem splitPiece_eq_none {first : Char} (noTrivia : canBegin first = false)
    (rest : List Char) : splitPiece (first :: rest) = none := by
  simp only [canBegin, Bool.or_eq_false_iff, beq_eq_false_iff_ne] at noTrivia
  obtain ⟨⟨⟨notBlank, notMark⟩, notMinus⟩, notSlash⟩ := noTrivia
  unfold splitPiece
  dsimp only
  rw [if_neg (by simp [notBlank, notMark])]
  split
  · exact absurd rfl notMinus
  · exact absurd rfl notSlash
  · rfl

end Trivia

namespace Text

/-- A delimited text ends at its own closing delimiter. -/
theorem splitDelimited_double {close : Char} (chars : List Char) {more : List Char}
    (fresh : more.head? ≠ some close) :
    splitDelimited close (double close chars ++ close :: more) =
      some (double close chars ++ [close], more) := by
  have closed : splitDelimited close (double close chars ++ [close]) =
      some (double close chars ++ [close], []) := by
    induction chars with
    | nil => simp [double, splitDelimited]
    | cons char chars induction =>
      unfold double at induction ⊢
      rw [List.flatMap_cons]
      split
      · rename_i same
        simp [splitDelimited, induction]
      · rename_i different
        rw [List.singleton_append, List.cons_append]
        rw [splitDelimited.eq_def]
        simp [different, induction]
  simpa using splitDelimited_append closed fresh

end Text

namespace Lexeme

/-- An integer ends before a comma or a parenthesis. -/
theorem splitNumber_of_digits {digits : List Char} (areDigits : ∀ digit ∈ digits, digit.isDigit)
    {stop : Char} (ends : stop = ',' ∨ stop = ')') (more : List Char) :
    splitNumber (digits ++ stop :: more) = (.integer, digits, stop :: more) := by
  have notDigit : ¬stop.isDigit = true := by
    rcases ends with rfl | rfl <;> decide
  have notPoint : stop ≠ '.' := by
    rcases ends with rfl | rfl <;> decide
  have noExponent : splitExponent (stop :: more) = none := by
    rcases ends with rfl | rfl <;> cases more <;> rfl
  rw [splitNumber_of_integer areDigits (by simpa using notDigit) (by simpa using notPoint),
    withExponent, noExponent]

theorem split_of_digits {first : Char} {digits : List Char} (isDigit : first.isDigit = true)
    (areDigits : ∀ digit ∈ digits, digit.isDigit) {stop : Char} (ends : stop = ',' ∨ stop = ')')
    (more : List Char) :
    split first (digits ++ stop :: more) = .ok (.integer, first :: digits, stop :: more) := by
  have number : splitNumber (first :: (digits ++ stop :: more)) =
      (.integer, first :: digits, stop :: more) :=
    splitNumber_of_digits (List.forall_mem_cons.mpr ⟨isDigit, areDigits⟩) ends more
  have notMarked {mark : Char} (notDigit : mark.isDigit = false) (notComma : mark ≠ ',')
      (notParen : mark ≠ ')') : (digits ++ stop :: more).head? ≠ some mark := by
    cases digits with
    | nil =>
      rcases ends with rfl | rfl
      · simpa using notComma.symm
      · simpa using notParen.symm
    | cons digit digits =>
      rintro equal
      cases equal
      exact absurd (areDigits mark (by simp)) (by simp [notDigit])
  have notQuote : (digits ++ stop :: more).head? ≠ some '\'' :=
    notMarked rfl (by decide) (by decide)
  have notSmall : (digits ++ stop :: more).head? ≠ some 'x' :=
    notMarked rfl (by decide) (by decide)
  have notLarge : (digits ++ stop :: more).head? ≠ some 'X' :=
    notMarked rfl (by decide) (by decide)
  unfold split
  dsimp only
  split
  case h_13 =>
    rw [decide_eq_false notQuote, decide_eq_false notSmall, decide_eq_false notLarge,
      Bool.or_false, Bool.and_false, Bool.and_false, if_neg Bool.false_ne_true,
      if_neg Bool.false_ne_true, if_pos isDigit, number]
  all_goals cases isDigit

theorem split_of_bracket {chars front rest : List Char}
    (closed : Text.splitDelimited ']' chars = some (front, rest)) :
    split '[' chars = .ok (.quotedName, '[' :: front, rest) := by
  unfold split
  dsimp only
  rw [closed]
  rfl

theorem splitNumber_ne_word (chars : List Char) : (splitNumber chars).1 ≠ .word := by
  unfold splitNumber
  grind

/-- A word ends before any character that can be neither part of it nor the quote of a string. -/
theorem split_append_of_word {first stop : Char} {tail text rest : List Char}
    (found : split first tail = .ok (.word, text, rest)) (ends : isWordPart stop = false)
    (notQuote : stop ≠ '\'') (more : List Char) :
    split first (tail ++ stop :: more) = .ok (.word, text, rest ++ stop :: more) := by
  have noNumber (chars : List Char) : splitNumber chars ≠ (.word, text, rest) :=
    fun equal => splitNumber_ne_word chars (congrArg Prod.fst equal)
  unfold split at found ⊢
  dsimp only at found ⊢
  split at found
  case h_1 | h_2 | h_3 | h_4 | h_10 => split at found <;> cases found
  case h_5 | h_6 | h_7 | h_8 | h_9 => cases found
  case h_11 =>
    split at found
    · exact absurd (Except.ok.inj found) (noNumber _)
    · cases found
  case h_12 =>
    split at found
    · cases found
    split at found
    · split at found <;> cases found
    · cases found
  case h_13 =>
    split at found
    · split at found <;> cases found
    rename_i noString
    split at found
    · cases found
    rename_i noBinary
    split at found
    · exact absurd (Except.ok.inj found) (noNumber _)
    rename_i notDigit
    split at found
    · rename_i isWord
      cases found
      have notZero : ¬first = '0' := by
        rintro rfl
        exact notDigit rfl
      rw [if_neg (by simpa only [Text.head?_append_cons notQuote] using noString),
        if_neg (by simp [notZero]), if_neg notDigit, if_pos isWord,
        Text.takeWhile_append_cons ends, Text.dropWhile_append_cons ends]
    split at found
    · split at found <;> cases found
    · cases found

end Lexeme

namespace Token

/-- What a token is, wherever it stands. -/
def lexeme (token : Token) : TokenKind × String :=
  (token.kind, token.text)

/-- A name in brackets. -/
def bracketed (name : String) : String :=
  String.ofList ('[' :: Text.double ']' name.toList ++ [']'])

section

variable {token : Token} {kind : TokenKind} {text : String}

theorem kind_of_lexeme (isLexeme : token.lexeme = (kind, text)) : token.kind = kind :=
  congrArg Prod.fst isLexeme

theorem text_of_lexeme (isLexeme : token.lexeme = (kind, text)) : token.text = text :=
  congrArg Prod.snd isLexeme

theorem isWord_of_lexeme (isLexeme : token.lexeme = (.word, text)) (keyword : String) :
    token.isWord keyword = Text.equalIgnoringCase text keyword := by
  rw [isWord, kind_of_lexeme isLexeme, text_of_lexeme isLexeme]
  rfl

/-- A word is the keyword that it is written as. -/
theorem isWord_self_of_lexeme (isLexeme : token.lexeme = (.word, text)) :
    token.isWord text = true := by
  rw [isWord_of_lexeme isLexeme, Text.equalIgnoringCase_refl]

theorem isWord_eq_false_of_lexeme (isLexeme : token.lexeme = (.word, text)) {keyword : String}
    (different : Text.equalIgnoringCase text keyword = false) : token.isWord keyword = false := by
  rw [isWord_of_lexeme isLexeme, different]

theorem name_of_lexeme_word (isLexeme : token.lexeme = (.word, text)) : token.name = text := by
  rw [name, kind_of_lexeme isLexeme, text_of_lexeme isLexeme]

theorem isName_of_lexeme_word (isLexeme : token.lexeme = (.word, text)) :
    token.isName = true := by
  rw [isName, kind_of_lexeme isLexeme]
  rfl

/-- A name in brackets stands for itself. -/
theorem name_of_lexeme_bracketed (isLexeme : token.lexeme = (.quotedName, bracketed text)) :
    token.name = text := by
  rw [name, kind_of_lexeme isLexeme, text_of_lexeme isLexeme, bracketed, String.toList_ofList]
  simp [content, Text.undouble_double]

theorem isName_of_lexeme_bracketed (isLexeme : token.lexeme = (.quotedName, bracketed text)) :
    token.isName = true := by
  rw [isName, kind_of_lexeme isLexeme]
  rfl

end

/-- Whether `front` scans to tokens with these lexemes when `more` follows it, and `more` to the
tokens after them. -/
def ScansTo (lexemes : List (TokenKind × String)) (front more : List Char) : Prop :=
  ∀ place taken, 0 < place.line → ∃ tokens place' taken', 0 < place'.line ∧
    tokens.map lexeme = lexemes ∧
      scanFrom place taken (front ++ more) =
        (tokens ++ (scanFrom place' taken' more).1, (scanFrom place' taken' more).2)

/-- Whether the text is one bare word. -/
def isBareWord (text : String) : Bool :=
  match text.toList with
  | [] => false
  | first :: tail =>
    !Trivia.canBegin first &&
      (Lexeme.split first tail).toOption == some (.word, first :: tail, [])

namespace ScansTo

variable {lexemes others : List (TokenKind × String)} {front back more : List Char}

theorem nil : ScansTo [] [] more :=
  fun place taken positive => ⟨[], place, taken, positive, rfl, rfl⟩

theorem append (first : ScansTo lexemes front (back ++ more)) (second : ScansTo others back more) :
    ScansTo (lexemes ++ others) (front ++ back) more := by
  intro place taken positive
  obtain ⟨tokens, place', taken', positive, rfl, scanned⟩ := first place taken positive
  obtain ⟨tokens', place', taken', positive, rfl, scanned'⟩ := second place' taken' positive
  refine ⟨tokens ++ tokens', place', taken', positive, List.map_append, ?_⟩
  rw [List.append_assoc, scanned, scanned', List.append_assoc]

/-- A token and what is after it. -/
theorem cons {lexeme : TokenKind × String} (first : ScansTo [lexeme] front (back ++ more))
    (second : ScansTo others back more) : ScansTo (lexeme :: others) (front ++ back) more :=
  first.append second

/-- A space before a token is passed over. -/
theorem space (scans : ScansTo lexemes front more) (notEmpty : lexemes ≠ []) :
    ScansTo lexemes (' ' :: front) more := by
  intro place taken positive
  have piece : Trivia.splitPiece (' ' :: (front ++ more)) = some ([' '], front ++ more) := rfl
  have trivia := Trivia.split_of_splitPiece piece
  have notEarlier := place.line_le_after [' ']
  obtain ⟨tokens, place', taken', positive, rfl, scanned⟩ :=
    scans (place.after [' ']) 0 (by omega)
  obtain ⟨lead, opens, -, scanned'⟩ := scanFrom_of_trivia trivia place taken 0
  rw [scanned] at scanned'
  cases tokens with
  | nil => exact absurd rfl notEmpty
  | cons token tokens => exact ⟨_ :: tokens, place', taken', positive, by rfl, scanned'⟩

theorem token {kind : TokenKind} {first : Char} {tail : List Char}
    (noTrivia : Trivia.canBegin first = false)
    (split : Lexeme.split first (tail ++ more) = .ok (kind, first :: tail, more)) :
    ScansTo [(kind, String.ofList (first :: tail))] (first :: tail) more := by
  intro place taken positive
  have trivia := Trivia.split_of_no_splitPiece (Trivia.splitPiece_eq_none noTrivia (tail ++ more))
  have scanned := scanFrom_of_token trivia split place taken
  rw [Place.after_nil] at scanned
  exact ⟨[placed place taken kind (first :: tail) []], place.after (first :: tail), place.line,
    Nat.lt_of_lt_of_le positive (place.line_le_after _), rfl, scanned⟩

theorem leftParen : ScansTo [(.leftParen, "(")] ['('] more :=
  token (by decide) (List.nil_append more ▸ rfl)

theorem rightParen : ScansTo [(.rightParen, ")")] [')'] more :=
  token (by decide) (List.nil_append more ▸ rfl)

theorem comma : ScansTo [(.comma, ",")] [','] more :=
  token (by decide) (List.nil_append more ▸ rfl)

theorem dot (fresh : more.head?.any Char.isDigit = false) : ScansTo [(.dot, ".")] ['.'] more :=
  token (by decide) (if_neg (by simp [fresh]))

/-- A bare word is scanned as such before a character that does not go on with it. -/
theorem word {text : String} (isWord : isBareWord text = true) {stop : Char}
    (ends : Lexeme.isWordPart stop = false) (notQuote : stop ≠ '\'') :
    ScansTo [(.word, text)] text.toList (stop :: more) := by
  obtain ⟨chars, rfl⟩ : ∃ chars, text = String.ofList chars :=
    ⟨text.toList, String.ofList_toList.symm⟩
  unfold isBareWord at isWord
  rw [String.toList_ofList] at isWord ⊢
  split at isWord
  · cases isWord
  · rename_i first tail
    obtain ⟨noTrivia, split⟩ := Bool.and_eq_true_iff.mp isWord
    have split := Grammar.toOption_eq_some.mp (beq_iff_eq.mp split)
    exact token (by simpa using noTrivia)
      (Lexeme.split_append_of_word split ends notQuote more)

theorem bracketed (name : String) (fresh : more.head? ≠ some ']') :
    ScansTo [(.quotedName, bracketed name)] (Token.bracketed name).toList more := by
  have closed : Text.splitDelimited ']' (Text.double ']' name.toList ++ [']'] ++ more) =
      some (Text.double ']' name.toList ++ [']'], more) := by
    rw [List.append_assoc]
    exact Text.splitDelimited_double _ fresh
  unfold Token.bracketed
  rw [String.toList_ofList]
  exact token (by decide) (Lexeme.split_of_bracket closed)

theorem integer (number : Nat) {stop : Char} (ends : stop = ',' ∨ stop = ')') :
    ScansTo [(.integer, toString number)] (toString number).toList (stop :: more) := by
  have areDigits : ∀ digit ∈ (toString number).toList, digit.isDigit := by
    intro digit member
    rw [Nat.toString_eq_ofList_toDigits, String.toList_ofList] at member
    exact Nat.isDigit_of_mem_toDigits (by decide) (by decide) member
  obtain ⟨first, tail, equal⟩ : ∃ first tail, (toString number).toList = first :: tail := by
    rw [Nat.toString_eq_ofList_toDigits, String.toList_ofList]
    exact List.exists_cons_of_ne_nil Nat.toDigits_ne_nil
  have text : toString number = String.ofList (first :: tail) := by
    rw [← equal, String.ofList_toList]
  rw [equal] at areDigits ⊢
  rw [text]
  obtain ⟨isDigit, areDigits⟩ := List.forall_mem_cons.mp areDigits
  exact token (Trivia.canBegin_of_isDigit isDigit)
    (Lexeme.split_of_digits isDigit areDigits ends more)

end ScansTo

end Token

end SqlSchema
