import SqlSchema.Proofs.LineEnd

/-!
Where tokens end. What a token is depends on the characters after it only in so far as they do not
go on with it. So a token that ends in front of one text also ends in front of another that can
continue no more tokens than the first.
-/

namespace SqlSchema

/-! ## Runs of characters -/

namespace Text

variable {isInside : Char → Bool} {front rest : List Char}

theorem any_head?_append {chars : List Char} {holds : Char → Bool}
    (next : chars.head?.any holds = true) (cut : List Char) :
    (chars ++ cut).head?.any holds = true := by
  cases chars with
  | nil => cases next
  | cons char chars => exact next

theorem any_head?_dropWhile (isInside : Char → Bool) (chars : List Char) :
    (chars.dropWhile isInside).head?.any isInside = false := by
  cases found : (chars.dropWhile isInside).head? with
  | none => rfl
  | some char =>
    have outside := List.head?_dropWhile_not isInside chars
    rw [found] at outside
    simpa using outside

theorem takeWhile_of_any_head? (outside : rest.head?.any isInside = false) :
    rest.takeWhile isInside = [] := by
  cases rest with
  | nil => rfl
  | cons char rest => exact List.takeWhile_cons_of_neg (by simpa using outside)

theorem dropWhile_of_any_head? (outside : rest.head?.any isInside = false) :
    rest.dropWhile isInside = rest := by
  cases rest with
  | nil => rfl
  | cons char rest => exact List.dropWhile_cons_of_neg (by simpa using outside)

theorem takeWhile_append_of_stop (inside : ∀ char ∈ front, isInside char)
    (outside : rest.head?.any isInside = false) : (front ++ rest).takeWhile isInside = front := by
  rw [List.takeWhile_append_of_pos inside, takeWhile_of_any_head? outside, List.append_nil]

theorem dropWhile_append_of_stop (inside : ∀ char ∈ front, isInside char)
    (outside : rest.head?.any isInside = false) : (front ++ rest).dropWhile isInside = rest := by
  rw [List.dropWhile_append_of_pos inside, dropWhile_of_any_head? outside]

theorem forall_mem_takeWhile (isInside : Char → Bool) (chars : List Char) :
    ∀ char ∈ chars.takeWhile isInside, isInside char :=
  List.all_eq_true.mp List.all_takeWhile

/-- A run that ends in front of `rest` holds no other characters. -/
theorem forall_mem_of_dropWhile (stops : (front ++ rest).dropWhile isInside = rest) :
    ∀ char ∈ front, isInside char := by
  have whole := List.takeWhile_append_dropWhile (p := isInside) (l := front ++ rest)
  rw [stops] at whole
  rw [← List.append_cancel_right whole]
  exact forall_mem_takeWhile isInside (front ++ rest)

/-- A delimited text is closed within itself, and its delimiter does not follow it. -/
theorem splitDelimited_self {close : Char} {chars : List Char}
    (found : splitDelimited close chars = some (front, rest)) :
    splitDelimited close front = some (front, []) ∧ rest.head? ≠ some close := by
  fun_induction splitDelimited close chars generalizing front rest with
  | case1 => cases found
  | case2 =>
    cases found
    simp [splitDelimited]
  | case3 rest induction =>
    rcases Option.map_eq_some_iff.mp found with ⟨⟨inner, after⟩, innerFound, equal⟩
    cases equal
    simp [splitDelimited, induction innerFound]
  | case4 next rest different =>
    cases found
    simp [splitDelimited, different]
  | case5 char rest different induction =>
    rcases Option.map_eq_some_iff.mp found with ⟨⟨inner, after⟩, innerFound, equal⟩
    cases equal
    rcases induction innerFound with ⟨inside, fresh⟩
    refine ⟨?_, fresh⟩
    rw [splitDelimited.eq_def]
    simp [different, inside]

end Text

/-! ## Numbers and variables -/

namespace Lexeme

/-- A number that goes on with the exponent in front of `rest`, if there is one. -/
def withExponent (kind : TokenKind) (front rest : List Char) :
    TokenKind × List Char × List Char :=
  match splitExponent rest with
  | none => (kind, front, rest)
  | some (exponent, rest) => (.real, front ++ exponent, rest)

theorem splitNumber_of_point {chars rest : List Char}
    (found : chars.dropWhile Char.isDigit = '.' :: rest) :
    splitNumber chars =
      withExponent .numeric (chars.takeWhile Char.isDigit ++ '.' :: rest.takeWhile Char.isDigit)
        (rest.dropWhile Char.isDigit) := by
  simp only [splitNumber, found]
  rfl

theorem splitNumber_of_no_point {chars : List Char}
    (none : (chars.dropWhile Char.isDigit).head? ≠ some '.') :
    splitNumber chars =
      withExponent .integer (chars.takeWhile Char.isDigit) (chars.dropWhile Char.isDigit) := by
  unfold splitNumber
  cases found : chars.dropWhile Char.isDigit with
  | nil => rfl
  | cons char rest =>
    rw [found] at none
    have different : char ≠ '.' := by simpa using none
    split
    · rename_i equal
      exact absurd (List.cons.inj equal).1 different
    · rfl

/-- The digits before a point or an exponent are the whole of an integer. -/
theorem splitNumber_of_integer {whole rest : List Char} (inside : ∀ char ∈ whole, char.isDigit)
    (outside : rest.head?.any Char.isDigit = false) (noPoint : rest.head? ≠ some '.') :
    splitNumber (whole ++ rest) = withExponent .integer whole rest := by
  have stops := Text.dropWhile_append_of_stop inside outside
  rw [splitNumber_of_no_point (by rwa [stops]), stops,
    Text.takeWhile_append_of_stop inside outside]

theorem splitNumber_of_decimals {whole decimals rest : List Char}
    (inside : ∀ char ∈ whole, char.isDigit) (insideDecimals : ∀ char ∈ decimals, char.isDigit)
    (outside : rest.head?.any Char.isDigit = false) :
    splitNumber (whole ++ '.' :: (decimals ++ rest)) =
      withExponent .numeric (whole ++ '.' :: decimals) rest := by
  have point : ('.' :: (decimals ++ rest)).head?.any Char.isDigit = false := rfl
  rw [splitNumber_of_point (Text.dropWhile_append_of_stop inside point),
    Text.takeWhile_append_of_stop inside point,
    Text.takeWhile_append_of_stop insideDecimals outside,
    Text.dropWhile_append_of_stop insideDecimals outside]

/-- A number is digits, or digits on both sides of a point, before its exponent. -/
theorem splitNumber_cases (chars : List Char) :
    (∃ whole rest, chars = whole ++ rest ∧ (∀ char ∈ whole, char.isDigit) ∧
      rest.head?.any Char.isDigit = false ∧ rest.head? ≠ some '.' ∧
        splitNumber chars = withExponent .integer whole rest) ∨
    ∃ whole decimals rest, chars = whole ++ '.' :: (decimals ++ rest) ∧
      (∀ char ∈ whole, char.isDigit) ∧ (∀ char ∈ decimals, char.isDigit) ∧
        rest.head?.any Char.isDigit = false ∧
          splitNumber chars = withExponent .numeric (whole ++ '.' :: decimals) rest := by
  have isWhole := List.takeWhile_append_dropWhile (p := Char.isDigit) (l := chars)
  have inside := Text.forall_mem_takeWhile Char.isDigit chars
  by_cases point : (chars.dropWhile Char.isDigit).head? = some '.'
  · rcases List.head?_eq_some_iff.mp point with ⟨after, stops⟩
    rw [stops] at isWhole
    refine .inr ⟨_, _, after.dropWhile Char.isDigit, ?_, inside,
      Text.forall_mem_takeWhile Char.isDigit after, Text.any_head?_dropWhile Char.isDigit after,
      splitNumber_of_point stops⟩
    rw [List.takeWhile_append_dropWhile, isWhole]
  · exact .inl ⟨_, _, isWhole.symm, inside, Text.any_head?_dropWhile Char.isDigit chars, point,
      splitNumber_of_no_point point⟩

theorem two_le_length_of_splitExponent {chars front rest : List Char}
    (found : splitExponent chars = some (front, rest)) : 2 ≤ front.length := by
  unfold splitExponent at found
  grind [List.takeWhile_cons]

/-- A command variable is closed, so nothing after it matters. -/
theorem splitVariable_append {chars front rest : List Char}
    (found : splitVariable chars = some (front, rest)) (more : List Char) :
    splitVariable (front ++ more) = some (front, more) := by
  unfold splitVariable at found ⊢
  dsimp only at found ⊢
  split at found
  · cases found
    have inside := Text.forall_mem_takeWhile (fun char => char != ')' && char != '\n') chars
    have outside : (')' :: more).head?.any (fun char => char != ')' && char != '\n') = false := rfl
    rw [List.append_assoc, List.singleton_append, Text.takeWhile_append_of_stop inside outside,
      Text.dropWhile_append_of_stop inside outside]
    rfl
  · cases found

/-! ## Tokens by their first character -/

/-- The token that begins with a character which is not one of the marks: a string with `N` before
it, a binary number, a number, a word or an operator. -/
def splitPlain (first : Char) (rest : List Char) :
    Except Unclosed (TokenKind × List Char × List Char) :=
  let next := rest.head?
  if (first == 'N' || first == 'n') && next = some '\'' then
    match Text.splitDelimited '\'' (rest.drop 1) with
    | some (front, rest) => .ok (.unicodeString, [first, '\''] ++ front, rest)
    | none => .error .string
  else if first == '0' && (next = some 'x' || next = some 'X') then
    .ok (.binary, first :: rest.take 1 ++ (rest.drop 1).takeWhile Char.isHexDigit,
      (rest.drop 1).dropWhile Char.isHexDigit)
  else if first.isDigit then .ok (splitNumber (first :: rest))
  else if isWordStart first then
    .ok (.word, first :: rest.takeWhile isWordPart, rest.dropWhile isWordPart)
  else if isOperator first then
    if "<>!".toList.contains first && next.any fun char => "=<>".toList.contains char then
      .ok (.operator, first :: rest.take 1, rest.drop 1)
    else .ok (.operator, [first], rest)
  else .ok (.other, [first], rest)

theorem split_colon (chars : List Char) :
    split ':' chars = if chars.head? = some ':' then .ok (.doubleColon, [':', ':'], chars.drop 1)
      else .ok (.other, [':'], chars) := by
  rcases chars with _ | ⟨second, rest⟩
  · rfl
  by_cases isColon : second = ':'
  · subst isColon
    rfl
  · simp [split, isColon]

theorem split_point (chars : List Char) :
    split '.' chars = if chars.head?.any Char.isDigit then .ok (splitNumber ('.' :: chars))
      else .ok (.dot, ['.'], chars) :=
  rfl

theorem split_dollar (chars : List Char) :
    split '$' chars =
      if chars.head?.any fun char => char.isDigit || char == '.' then
        .ok (.money, '$' :: (splitNumber chars).2.1, (splitNumber chars).2.2)
      else if chars.head? = some '(' then
        match splitVariable chars with
        | some (front, rest) => .ok (.commandVariable, '$' :: front, rest)
        | none => .ok (.other, ['$'], chars)
      else .ok (.other, ['$'], chars) :=
  rfl

/-! ## What a token does not go on with -/

/-- Whether `rest'` goes on with no token with which `rest` does not go on: a token that ends in
front of `rest` also ends in front of `rest'`. -/
structure EndsAlike (rest rest' : List Char) : Prop where
  head : rest'.head? = rest.head? ∨ ∀ char ∈ rest'.head?, char = '\n'
  exponent : splitExponent rest = none → splitExponent rest' = none
  commandVariable : splitVariable rest = none → splitVariable rest' = none

namespace EndsAlike

section

variable {rest rest' : List Char} (alike : EndsAlike rest rest')
include alike

theorem any_head?_of_any (tail : List Char) {holds : Char → Bool} (newline : holds '\n' = false)
    (next : (tail ++ rest').head?.any holds = true) : (tail ++ rest).head?.any holds = true := by
  cases tail with
  | nil =>
    rcases alike.head with same | ends
    · rwa [List.nil_append, ← same]
    · obtain ⟨char, isNext, found⟩ := (Option.any_eq_true _ _).mp next
      rw [ends char isNext, newline] at found
      cases found
  | cons => exact next

theorem any_head?_eq_false (tail : List Char) {holds : Char → Bool} (newline : holds '\n' = false)
    (none : (tail ++ rest).head?.any holds = false) : (tail ++ rest').head?.any holds = false :=
  Bool.eq_false_iff.mpr fun next =>
    Bool.eq_false_iff.mp none (alike.any_head?_of_any tail newline next)

theorem head?_of_eq (tail : List Char) {mark : Char} (different : mark ≠ '\n')
    (next : (tail ++ rest').head? = some mark) : (tail ++ rest).head? = some mark := by
  cases tail with
  | nil =>
    rcases alike.head with same | ends
    · rwa [List.nil_append, ← same]
    · exact absurd (ends mark next) different
  | cons => exact next

end

variable {chars cut : List Char}

theorem splitExponent_eq_none_of_append (none : splitExponent (chars ++ cut) = none) :
    splitExponent chars = Option.none := by
  cases found : splitExponent chars with
  | none => rfl
  | some parts =>
    unfold splitExponent at found
    grind [splitExponent, Text.any_head?_append]

theorem splitVariable_eq_none_of_append (none : splitVariable (chars ++ cut) = none) :
    splitVariable chars = Option.none := by
  cases found : splitVariable chars with
  | none => rfl
  | some parts =>
    unfold splitVariable at found none
    dsimp only at found none
    split at found
    · rename_i rest closes
      simp [List.dropWhile_append, closes] at none
    · cases found

/-- A text goes on with no more tokens where it is cut off. -/
theorem of_append (kept cut : List Char) : EndsAlike (kept ++ cut) kept where
  head := by
    cases kept with
    | nil => exact .inr (by simp)
    | cons => exact .inl rfl
  exponent := splitExponent_eq_none_of_append
  commandVariable := splitVariable_eq_none_of_append

theorem splitExponent_append_newline (chars more : List Char) :
    splitExponent (chars ++ '\n' :: more) =
      (splitExponent chars).map fun (front, rest) => (front, rest ++ '\n' :: more) := by
  have newline : Char.isDigit '\n' = false := rfl
  cases chars with
  | nil => cases more <;> rfl
  | cons letter chars =>
    cases chars with
    | nil => simp [splitExponent, newline]
    | cons sign chars =>
      simp only [List.cons_append, splitExponent]
      rw [Text.any_head?_append_cons newline, Text.takeWhile_append_cons newline,
        Text.dropWhile_append_cons newline]
      split
      · rfl
      split
      · rename_i isDigit
        simp [isDigit, Text.takeWhile_append_cons newline, Text.dropWhile_append_cons newline]
      split
      · rfl
      · rfl

theorem splitVariable_append_newline (chars more : List Char) :
    splitVariable (chars ++ '\n' :: more) =
      (splitVariable chars).map fun (front, rest) => (front, rest ++ '\n' :: more) := by
  have newline : (fun char : Char => char != ')' && char != '\n') '\n' = false := rfl
  unfold splitVariable
  dsimp only
  rw [Text.takeWhile_append_cons newline, Text.dropWhile_append_cons newline]
  cases chars.dropWhile fun char => char != ')' && char != '\n' with
  | nil => rfl
  | cons char rest =>
    by_cases closes : char = ')'
    · subst closes
      rfl
    · simp [closes]

/-- A text goes on with no more tokens where a line feed follows it. -/
theorem append_newline (rest more : List Char) : EndsAlike rest (rest ++ '\n' :: more) where
  head := by
    cases rest with
    | nil => exact .inr (by simp)
    | cons => exact .inl rfl
  exponent none := by rw [splitExponent_append_newline, none, Option.map_none]
  commandVariable none := by rw [splitVariable_append_newline, none, Option.map_none]

end EndsAlike

section

variable {first : Char} {front tail rest rest' : List Char} {kind : TokenKind}
  (alike : EndsAlike rest rest')
include alike

/-! ### Parts of tokens -/

theorem takeWhile_of_endsAlike {isInside : Char → Bool} (newline : isInside '\n' = false)
    (stops : (front ++ rest).dropWhile isInside = rest) :
    (front ++ rest').takeWhile isInside = front := by
  have outside := Text.any_head?_dropWhile isInside (front ++ rest)
  rw [stops] at outside
  exact Text.takeWhile_append_of_stop (Text.forall_mem_of_dropWhile stops)
    (alike.any_head?_eq_false [] newline outside)

theorem dropWhile_of_endsAlike {isInside : Char → Bool} (newline : isInside '\n' = false)
    (stops : (front ++ rest).dropWhile isInside = rest) :
    (front ++ rest').dropWhile isInside = rest' := by
  have outside := Text.any_head?_dropWhile isInside (front ++ rest)
  rw [stops] at outside
  exact Text.dropWhile_append_of_stop (Text.forall_mem_of_dropWhile stops)
    (alike.any_head?_eq_false [] newline outside)

theorem splitDelimited_of_endsAlike {close : Char} (different : close ≠ '\n')
    (found : Text.splitDelimited close (front ++ rest) = some (front, rest)) :
    Text.splitDelimited close (front ++ rest') = some (front, rest') := by
  rcases Text.splitDelimited_self found with ⟨closed, fresh⟩
  exact Text.splitDelimited_append closed fun next => fresh (alike.head?_of_eq [] different next)

theorem splitExponent_of_endsAlike (found : splitExponent (front ++ rest) = some (front, rest)) :
    splitExponent (front ++ rest') = some (front, rest') := by
  rcases front with _ | ⟨letter, _ | ⟨sign, digits⟩⟩
  · exact absurd (two_le_length_of_splitExponent found) (by simp)
  · exact absurd (two_le_length_of_splitExponent found) (by simp)
  simp only [List.cons_append, splitExponent] at found ⊢
  split at found
  · cases found
  rename_i isLetter
  rw [if_neg isLetter]
  split at found
  · rename_i isDigit
    have stops := (Prod.mk.inj (Option.some.inj found)).2
    rw [← List.cons_append] at stops
    rw [if_pos isDigit, ← List.cons_append, takeWhile_of_endsAlike alike rfl stops,
      dropWhile_of_endsAlike alike rfl stops]
  rename_i noDigit
  rw [if_neg noDigit]
  split at found
  · rename_i isSigned
    have stops := (Prod.mk.inj (Option.some.inj found)).2
    have isSigned' : ((sign == '+' || sign == '-') && (digits ++ rest').head?.any Char.isDigit) =
        true := by
      cases digits with
      | nil =>
        have outside := Text.any_head?_dropWhile Char.isDigit rest
        rw [List.nil_append] at stops isSigned
        rw [stops] at outside
        simp [outside] at isSigned
      | cons => exact isSigned
    rw [if_pos isSigned', takeWhile_of_endsAlike alike rfl stops,
      dropWhile_of_endsAlike alike rfl stops]
  · cases found

theorem withExponent_of_endsAlike {kind' : TokenKind} {whole chars : List Char}
    (found : withExponent kind' whole chars = (kind, front, rest)) :
    ∃ exponent, chars = exponent ++ rest ∧ front = whole ++ exponent ∧
      withExponent kind' whole (exponent ++ rest') = (kind, front, rest') := by
  unfold withExponent at found
  split at found
  · rename_i none
    cases found
    exact ⟨[], rfl, (List.append_nil _).symm, by
      rw [List.nil_append, withExponent, alike.exponent none]⟩
  · rename_i exponent after some
    cases found
    have isWhole := append_of_splitExponent some
    subst isWhole
    exact ⟨exponent, rfl, rfl, by rw [withExponent, splitExponent_of_endsAlike alike some]⟩

theorem splitNumber_of_endsAlike (found : splitNumber (front ++ rest) = (kind, front, rest)) :
    splitNumber (front ++ rest') = (kind, front, rest') := by
  rcases splitNumber_cases (front ++ rest) with
    ⟨whole, after, -, inside, outside, noPoint, number⟩ |
    ⟨whole, decimals, after, -, inside, insideDecimals, outside, number⟩
  · rw [number] at found
    rcases withExponent_of_endsAlike alike found with ⟨exponent, rfl, rfl, found'⟩
    have outside' := alike.any_head?_eq_false exponent rfl outside
    have noPoint' : (exponent ++ rest').head? ≠ some '.' :=
      fun point => noPoint (alike.head?_of_eq exponent (by decide) point)
    rw [List.append_assoc, splitNumber_of_integer inside outside' noPoint', found']
  · rw [number] at found
    rcases withExponent_of_endsAlike alike found with ⟨exponent, rfl, rfl, found'⟩
    have outside' := alike.any_head?_eq_false exponent rfl outside
    have isWhole : whole ++ '.' :: decimals ++ exponent ++ rest' =
        whole ++ '.' :: (decimals ++ (exponent ++ rest')) := by
      simp
    rw [isWhole, splitNumber_of_decimals inside insideDecimals outside', found']

/-! ### Tokens of each form -/

theorem run_of_endsAlike {isInside : Char → Bool} (newline : isInside '\n' = false)
    {kind' : TokenKind}
    (found : (.ok (kind', first :: (tail ++ rest).takeWhile isInside,
      (tail ++ rest).dropWhile isInside) : Except Unclosed _) = .ok (kind, first :: tail, rest)) :
    (.ok (kind', first :: (tail ++ rest').takeWhile isInside,
      (tail ++ rest').dropWhile isInside) : Except Unclosed _) = .ok (kind, first :: tail, rest') := by
  rcases Prod.mk.inj (Except.ok.inj found) with ⟨rfl, equal⟩
  have stops := (Prod.mk.inj equal).2
  rw [takeWhile_of_endsAlike alike newline stops, dropWhile_of_endsAlike alike newline stops]

omit alike in
/-- A branch is taken in front of `rest'` as it is in front of `rest` if only characters of the token
lead into it. -/
theorem of_branch {α : Type} {result result' : α} {holds holds' : Prop} [Decidable holds]
    [Decidable holds'] {one other one' other' : Except Unclosed α}
    (found : (if holds then one else other) = .ok result)
    (whenTrue : holds → one = .ok result → holds' ∧ one' = .ok result') (goesOn : holds' → holds)
    (whenFalse : other = .ok result → other' = .ok result') :
    (if holds' then one' else other') = .ok result' := by
  split at found
  · rename_i isTrue
    rcases whenTrue isTrue found with ⟨isTrue', found'⟩
    rw [if_pos isTrue', found']
  · rename_i isFalse
    rw [if_neg fun isTrue' => isFalse (goesOn isTrue'), whenFalse found]

theorem splitPlain_of_endsAlike
    (found : splitPlain first (tail ++ rest) = .ok (kind, first :: tail, rest)) :
    splitPlain first (tail ++ rest') = .ok (kind, first :: tail, rest') := by
  have wordPart : isWordPart '\n' = false := by decide +kernel
  have next {mark : Char} (different : mark ≠ '\n') := alike.head?_of_eq tail different
  unfold splitPlain at found ⊢
  simp only [Bool.and_eq_true, Bool.or_eq_true, decide_eq_true_eq] at found ⊢
  refine of_branch found (fun isString found => ?_) (.imp_right (next (by decide))) fun found =>
    of_branch found (fun isBinary found => ?_)
      (.imp_right (.imp (next (by decide)) (next (by decide)))) fun found =>
    of_branch found (fun isNumber found => ⟨isNumber, ?_⟩) id fun found =>
    of_branch found (fun isWord found => ⟨isWord, run_of_endsAlike alike wordPart found⟩) id
      fun found =>
    of_branch found (fun isOperator found => ⟨isOperator, ?_⟩) id fun found => ?_
  · split at found
    · rename_i closed
      rcases tail with _ | ⟨quote, tail⟩
      · cases found
      · cases found
        rw [List.cons_append, List.drop_one, List.tail_cons] at closed
        rw [List.cons_append, List.drop_one, List.tail_cons,
          splitDelimited_of_endsAlike alike (by decide) closed]
        exact ⟨isString, rfl⟩
    · cases found
  · rcases tail with _ | ⟨letter, tail⟩
    · rcases rest with _ | ⟨letter, rest⟩
      · simp at isBinary
      · cases found
    · rcases Prod.mk.inj (Except.ok.inj found) with ⟨rfl, equal⟩
      have stops : (tail ++ rest).dropWhile Char.isHexDigit = rest := (Prod.mk.inj equal).2
      rw [List.cons_append, List.drop_one, List.tail_cons, takeWhile_of_endsAlike alike rfl stops,
        dropWhile_of_endsAlike alike rfl stops]
      exact ⟨isBinary, rfl⟩
  · have number := Except.ok.inj found
    rw [← List.cons_append] at number
    rw [← List.cons_append, splitNumber_of_endsAlike alike number]
  · refine of_branch found (fun isLong found => ?_)
      (.imp_right (alike.any_head?_of_any tail (by decide))) fun found => ?_
    · rcases tail with _ | ⟨second, tail⟩
      · rcases rest with _ | ⟨second, rest⟩
        · simp at isLong
        · cases found
      · rcases Prod.mk.inj (Except.ok.inj found) with ⟨rfl, equal⟩
        have atEnd : tail ++ rest = rest := (Prod.mk.inj equal).2
        obtain rfl := List.append_left_eq_self.mp atEnd
        exact ⟨isLong, rfl⟩
    · cases found
      rfl
  · cases found
    rfl

theorem colon_of_endsAlike (found : split ':' (tail ++ rest) = .ok (kind, ':' :: tail, rest)) :
    split ':' (tail ++ rest') = .ok (kind, ':' :: tail, rest') := by
  rw [split_colon] at found ⊢
  refine of_branch found (fun isDouble found => ?_) (alike.head?_of_eq tail (by decide))
    fun found => ?_
  · rcases tail with _ | ⟨second, tail⟩
    · cases found
    · cases isDouble
      cases found
      exact ⟨rfl, rfl⟩
  · cases found
    rfl

/-- A digit after a point is part of the number. -/
theorem ne_nil_of_splitNumber_point
    (number : splitNumber ('.' :: (tail ++ rest)) = (kind, '.' :: tail, rest))
    (next : (tail ++ rest).head?.any Char.isDigit = true) : tail ≠ [] := by
  rintro rfl
  rcases rest with _ | ⟨digit, rest⟩
  · cases next
  have point : ('.' :: ([] ++ digit :: rest)).dropWhile Char.isDigit = '.' :: digit :: rest := rfl
  rw [splitNumber_of_point point] at number
  rcases withExponent_of_endsAlike alike number with ⟨exponent, -, isFront, -⟩
  have isDigit : digit.isDigit = true := next
  rw [List.takeWhile_cons_of_pos isDigit] at isFront
  cases isFront

theorem point_of_endsAlike (found : split '.' (tail ++ rest) = .ok (kind, '.' :: tail, rest)) :
    split '.' (tail ++ rest') = .ok (kind, '.' :: tail, rest') := by
  rw [split_point] at found ⊢
  refine of_branch found (fun isNumber found => ?_) (alike.any_head?_of_any tail rfl)
    fun found => ?_
  · have number := Except.ok.inj found
    rcases List.exists_cons_of_ne_nil (ne_nil_of_splitNumber_point alike number isNumber) with
      ⟨digit, digits, rfl⟩
    rw [← List.cons_append] at number
    rw [← List.cons_append, splitNumber_of_endsAlike alike number]
    exact ⟨isNumber, rfl⟩
  · cases found
    rfl

/-- The digits of an amount stand in front of the end of the token. -/
theorem money_of_endsAlike
    (isNumber : (tail ++ rest).head?.any (fun char => char.isDigit || char == '.') = true)
    (number : splitNumber (tail ++ rest) = (kind, tail, rest)) :
    (tail ++ rest').head?.any (fun char => char.isDigit || char == '.') = true ∧
      splitNumber (tail ++ rest') = (kind, tail, rest') := by
  refine ⟨?_, splitNumber_of_endsAlike alike number⟩
  rcases tail with _ | ⟨start, tail⟩
  · rcases rest with _ | ⟨start, rest⟩
    · cases isNumber
    · have some : (splitNumber (start :: rest)).2.1 ≠ [] :=
        ne_nil_of_splitNumber (by simpa using isNumber)
      exact absurd (congrArg (·.2.1) number) some
  · exact isNumber

theorem dollar_of_endsAlike (found : split '$' (tail ++ rest) = .ok (kind, '$' :: tail, rest)) :
    split '$' (tail ++ rest') = .ok (kind, '$' :: tail, rest') := by
  rw [split_dollar] at found ⊢
  refine of_branch found (fun isNumber found => ?_) (alike.any_head?_of_any tail rfl) fun found => ?_
  · rcases Prod.mk.inj (Except.ok.inj found) with ⟨rfl, equal⟩
    rcases Prod.mk.inj equal with ⟨isText, isRest⟩
    have number : splitNumber (tail ++ rest) = ((splitNumber (tail ++ rest)).1, tail, rest) :=
      Prod.ext rfl (Prod.ext (List.cons.inj isText).2 isRest)
    rcases money_of_endsAlike alike isNumber number with ⟨isNumber', number'⟩
    rw [number']
    exact ⟨isNumber', rfl⟩
  split at found
  · rename_i isVariable
    split at found
    · rename_i closed
      cases found
      rcases tail with _ | ⟨paren, tail⟩
      · cases splitVariable_append closed []
      · have isVariable' : (paren :: tail ++ rest').head? = some '(' := isVariable
        rw [if_pos isVariable', splitVariable_append closed rest']
    · rename_i unclosed
      cases found
      rw [List.nil_append, alike.commandVariable unclosed]
      exact ite_self _
  · rename_i noVariable
    rw [if_neg fun next => noVariable (alike.head?_of_eq tail (by decide) next)]
    cases found
    rfl

/-- A token that ends in front of `rest` also ends in front of `rest'`. -/
theorem split_of_endsAlike (found : split first (tail ++ rest) = .ok (kind, first :: tail, rest)) :
    split first (tail ++ rest') = .ok (kind, first :: tail, rest') := by
  have wordPart : isWordPart '\n' = false := by decide +kernel
  unfold split at found ⊢
  dsimp only at found ⊢
  split at found
  case h_1 | h_2 | h_3 =>
    split at found
    · rename_i closed
      cases found
      rw [splitDelimited_of_endsAlike alike (by decide) closed]
      rfl
    · cases found
  case h_4 =>
    split at found
    · cases found
    · rename_i notOpen
      rw [if_neg fun opens => notOpen (alike.head?_of_eq tail (by decide) opens)]
      cases found
      rfl
  case h_5 | h_6 | h_7 | h_8 =>
    cases found
    rfl
  case h_9 => exact run_of_endsAlike alike wordPart found
  case h_10 => exact colon_of_endsAlike alike found
  case h_11 => exact point_of_endsAlike alike found
  case h_12 => exact dollar_of_endsAlike alike found
  case h_13 => exact splitPlain_of_endsAlike alike found

end

section

variable {first : Char} {chars tail text kept cut rest : List Char} {kind : TokenKind}

/-- The text of a token begins with its first character and goes on with what follows it. -/
theorem exists_of_split (found : split first chars = .ok (kind, text, rest)) :
    ∃ front, text = first :: front ∧ chars = front ++ rest := by
  rcases List.exists_cons_of_ne_nil (ne_nil_of_split found) with ⟨char, front, rfl⟩
  rcases List.cons.inj (append_of_split found) with ⟨rfl, isWhole⟩
  exact ⟨front, rfl, isWhole.symm⟩

/-- A token is the same where the text ends after it. -/
theorem split_of_append (found : split first (tail ++ cut) = .ok (kind, text, kept ++ cut)) :
    split first tail = .ok (kind, text, kept) := by
  rcases exists_of_split found with ⟨front, rfl, isWhole⟩
  rw [← List.append_assoc] at isWhole
  obtain rfl := List.append_cancel_right isWhole
  rw [List.append_assoc] at found
  exact split_of_endsAlike (.of_append kept cut) found

/-- The token at the front of a text is the same when a line feed follows the text. -/
theorem split_append_newline (found : split first tail = .ok (kind, text, rest))
    (more : List Char) :
    split first (tail ++ '\n' :: more) = .ok (kind, text, rest ++ '\n' :: more) := by
  rcases exists_of_split found with ⟨front, rfl, rfl⟩
  rw [List.append_assoc]
  exact split_of_endsAlike (.append_newline rest more) found

end

end Lexeme

end SqlSchema
