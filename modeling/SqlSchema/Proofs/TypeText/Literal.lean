import SqlSchema.Code.Literal
import SqlSchema.Proofs.LineEnd

/-!
Literals before `>`. The mark belongs to no word, number or escape, so the same literal is read
where it comes after the text, and no other text becomes a literal.
-/

namespace SqlSchema.CodeLiteral

variable {chars rest : List Char} {kind : QuotedKind}

/-- Whether what follows a construct is the same when `>` comes after the text. -/
def PassesAngle (skip : Skip) : Prop :=
  ∀ chars, skip (chars ++ ['>']) = (skip chars).map (· ++ ['>'])

/-! ## Words -/

theorem isIdentifierStart_angle : Text.isIdentifierStart '>' = false :=
  rfl

theorem isIdentifierPart_angle : Text.isIdentifierPart '>' = false :=
  rfl

theorem splitWord_append_angle :
    splitWord (chars ++ ['>']) = (splitWord chars).map (Prod.map id (· ++ ['>'])) := by
  cases chars with
  | nil => simp [splitWord, isIdentifierStart_angle]
  | cons first rest =>
    rw [List.cons_append, splitWord, splitWord,
      Text.takeWhile_append_cons isIdentifierPart_angle,
      Text.dropWhile_append_cons isIdentifierPart_angle]
    split <;> rfl

theorem afterSuffix_append_angle : afterSuffix (chars ++ ['>']) = afterSuffix chars ++ ['>'] := by
  rw [afterSuffix, afterSuffix, splitWord_append_angle]
  cases splitWord chars <;> rfl

/-! ## Numbers -/

theorem isDigitOrLine_angle : isDigitOrLine '>' = false :=
  rfl

theorem PassesAngle.bind {first next : Skip} (passes : PassesAngle first)
    (passesNext : PassesAngle next) : PassesAngle fun chars => (first chars).bind next := by
  intro chars
  simp only [passes chars]
  cases first chars with
  | none => rfl
  | some rest => exact passesNext rest

theorem PassesAngle.orElse {first second : Skip} (passes : PassesAngle first)
    (passesSecond : PassesAngle second) :
    PassesAngle fun chars => (first chars).orElse fun _ => second chars := by
  intro chars
  simp only [passes chars]
  cases first chars with
  | none => exact passesSecond chars
  | some rest => rfl

theorem passesAngle_afterNumberSuffix? : PassesAngle afterNumberSuffix? := by
  intro chars
  simp only [afterNumberSuffix?, afterSuffix_append_angle,
    Text.any_head?_append_cons isIdentifierPart_angle]
  split <;> rfl

theorem passesAngle_afterExponent? {hasSign : Bool} : PassesAngle (afterExponent? hasSign) := by
  intro chars
  induction chars generalizing hasSign with
  | nil => rfl
  | cons char rest induction =>
    simp only [List.cons_append, afterExponent?, induction,
      Text.dropWhile_append_cons isDigitOrLine_angle]
    grind

theorem passesAngle_afterDigits? {base : Nat} {isEmpty : Bool} :
    PassesAngle (afterDigits? base isEmpty) := by
  intro chars
  induction chars generalizing isEmpty with
  | nil => cases isEmpty <;> rfl
  | cons char rest induction =>
    simp only [List.cons_append, afterDigits?, induction]
    grind

theorem passesAngle_afterFloat? : PassesAngle afterFloat? := by
  intro chars
  simp only [afterFloat?, Text.dropWhile_append_cons isDigitOrLine_angle]
  cases chars.dropWhile isDigitOrLine with
  | nil => rfl
  | cons letter rest =>
    by_cases isPoint : letter = '.'
    · subst isPoint
      have sameNext : ((rest ++ ['>']).head?.any fun char =>
          char == '.' || Text.isIdentifierStart char) =
          rest.head?.any fun char => char == '.' || Text.isIdentifierStart char :=
        Text.any_head?_append_cons rfl rest []
      simp only [List.cons_append, sameNext, Text.dropWhile_append_cons isDigitOrLine_angle]
      split
      · rfl
      cases rest.dropWhile isDigitOrLine with
      | nil => rfl
      | cons letter exponent =>
        simp only [List.cons_append, passesAngle_afterExponent? exponent]
        cases afterExponent? false exponent <;> split <;> rfl
    · simp only [List.cons_append, passesAngle_afterExponent? rest]
      split <;> rfl

theorem splitBase_append_angle :
    splitBase (chars ++ ['>']) = Prod.map id (· ++ ['>']) (splitBase chars) := by
  match chars with
  | [] => rfl
  | [first] | first :: second :: rest =>
    simp only [List.cons_append, List.nil_append, splitBase.eq_def]
    grind

theorem passesAngle_afterInteger? : PassesAngle afterInteger? := by
  intro chars
  simp only [afterInteger?, splitBase_append_angle]
  exact passesAngle_afterDigits? _

theorem passesAngle_afterNumber? : PassesAngle afterNumber? :=
  (passesAngle_afterFloat?.bind passesAngle_afterNumberSuffix?).orElse
    (passesAngle_afterInteger?.bind passesAngle_afterNumberSuffix?)

/-! ## Quoted texts -/

/-- Whether what follows a construct is kept when `>` comes after the text. -/
def KeepsAngle (skip : Skip) : Prop :=
  ∀ ⦃chars rest⦄, skip chars = some rest → skip (chars ++ ['>']) = some (rest ++ ['>'])

theorem PassesAngle.keepsAngle {skip : Skip} (passes : PassesAngle skip) : KeepsAngle skip := by
  intro chars rest found
  rw [passes, found]
  rfl

theorem keepsAngle_afterByte? : KeepsAngle (afterByte? kind) := by
  intro chars rest found
  match chars with
  | first :: second :: chars =>
    obtain ⟨isAllowed, same⟩ := Option.ite_none_right_eq_some.mp found
    cases same
    exact if_pos isAllowed

theorem splitNumber_append_angle {count value number : Nat}
    (found : splitNumber count value chars = some (number, rest)) :
    splitNumber count value (chars ++ ['>']) = some (number, rest ++ ['>']) := by
  induction chars generalizing count value with
  | nil => cases found
  | cons char chars induction =>
    simp only [List.cons_append, splitNumber] at found ⊢
    grind

theorem keepsAngle_afterEscape? : KeepsAngle (afterEscape? kind) := by
  intro chars rest found
  fun_cases afterEscape? kind chars with
  | case1 => cases found
  | case2 => exact keepsAngle_afterByte? found
  | case3 chars value after number | case4 chars after number
  | case5 chars value after number =>
    simp only [List.cons_append, afterEscape?, splitNumber_append_angle number]
    simp only [afterEscape?, number] at found
    grind
  | case6 kind chars noText noZeroEnded =>
    rw [afterEscape?.eq_5 chars kind noText noZeroEnded] at found
    cases found
  | case7 => cases found
  | case8 kind chars isKind =>
    obtain ⟨_, same⟩ := Option.ite_none_left_eq_some.mp found
    cases same
    exact if_neg isKind
  | case9 kind char chars _ _ _ isPlain =>
    simp only [String.reduceToList, List.contains_eq_mem, decide_eq_true_eq, List.mem_cons,
      List.not_mem_nil, or_false] at isPlain
    obtain rfl | rfl | rfl | rfl | rfl | rfl := isPlain <;> cases found <;> rfl
  | case10 kind char chars notByte notNumber notZero isOther =>
    rw [afterEscape?.eq_7 kind char chars notByte notNumber notZero, if_neg isOther] at found
    cases found

theorem keepsAngle_afterLineEnds? : KeepsAngle afterLineEnds? := by
  intro chars rest found
  fun_induction afterLineEnds? chars with
  | case1 => cases found
  | case2 chars induction => exact induction found
  | case3 chars induction => exact induction found
  | case4 chars induction => exact induction found
  | case5 chars induction => exact induction found
  | case6 => cases found
  | case7 chars notEmpty =>
    cases found
    cases rest with
    | nil => simp at notEmpty
    | cons char chars => simp_all [afterLineEnds?]

/-- An escape, or the end of a line and the blanks after it, which a backslash takes away. -/
theorem afterBackslash_append_angle
    (found : (if chars.head?.any fun char => char == '\n' || char == '\r' then afterLineEnds? chars
      else afterEscape? kind chars) = some rest) :
    (if (chars ++ ['>']).head?.any fun char => char == '\n' || char == '\r' then
      afterLineEnds? (chars ++ ['>']) else afterEscape? kind (chars ++ ['>'])) =
      some (rest ++ ['>']) := by
  have sameNext : ((chars ++ ['>']).head?.any fun char => char == '\n' || char == '\r') =
      chars.head?.any fun char => char == '\n' || char == '\r' :=
    Text.any_head?_append_cons (by decide) chars []
  rw [sameNext]
  split at found
  · rename_i isLineEnd
    rw [if_pos isLineEnd]
    exact keepsAngle_afterLineEnds? found
  · rename_i isEscape
    rw [if_neg isEscape]
    exact keepsAngle_afterEscape? found

theorem afterQuoted?_append_angle {count larger : Nat}
    (found : afterQuoted? kind count chars = some rest) (le : count ≤ larger) :
    afterQuoted? kind larger (chars ++ ['>']) = some (rest ++ ['>']) := by
  induction count generalizing chars larger with
  | zero => cases found
  | succ count induction =>
    obtain ⟨larger, rfl⟩ := Nat.exists_eq_add_one.mpr (Nat.zero_lt_of_lt le)
    have le := Nat.le_of_succ_le_succ le
    rw [afterQuoted?.eq_def] at found
    dsimp only at found
    split at found
    case h_1 => cases found
    case h_2 chars =>
      cases found
      exact congrArg some afterSuffix_append_angle
    case h_3 chars =>
      obtain ⟨middle, skipped, found⟩ := Option.bind_eq_some_iff.mp found
      rw [List.cons_append, afterQuoted?, afterBackslash_append_angle skipped]
      exact induction found le
    case h_4 chars =>
      rw [List.cons_append, List.cons_append, afterQuoted?]
      exact induction found le
    case h_5 => cases found
    case h_6 char chars noQuote noBackslash noLineEnd noReturn =>
      obtain ⟨isAllowed, found⟩ := Option.ite_none_right_eq_some.mp found
      rw [List.cons_append, afterQuoted?.eq_7 kind larger char _ noQuote noBackslash
        (fun _ same _ => noReturn same) noReturn, if_pos isAllowed]
      exact induction found le

theorem isPrefixOf_append_angle {front : List Char} (noAngle : '>' ∉ front) :
    front.isPrefixOf (chars ++ ['>']) = front.isPrefixOf chars := by
  induction front generalizing chars with
  | nil => simp
  | cons first front induction =>
    obtain ⟨different, noAngle⟩ := not_or.mp (mt List.mem_cons.mpr noAngle)
    cases chars with
    | nil => simp [List.isPrefixOf, Ne.symm different]
    | cons char chars => simp [List.isPrefixOf, induction noAngle]

theorem keepsAngle_afterRaw? {marks : List Char} (noAngle : '>' ∉ marks) :
    KeepsAngle (afterRaw? kind marks) := by
  intro chars rest found
  fun_induction afterRaw? kind marks chars with
  | case1 => cases found
  | case2 chars induction => exact induction found
  | case3 => cases found
  | case4 char chars _ noReturn isClosed =>
    cases found
    have within : marks.length ≤ chars.length :=
      (List.isPrefixOf_iff_prefix.mp (Bool.and_eq_true_iff.mp isClosed).2).length_le
    rw [List.cons_append, afterRaw?.eq_4 _ _ _ _ (fun _ same _ => noReturn same) noReturn,
      isPrefixOf_append_angle noAngle, if_pos isClosed, List.drop_append_of_le_length within,
      afterSuffix_append_angle]
  | case5 char chars _ noReturn notClosed isAllowed induction =>
    rw [List.cons_append, afterRaw?.eq_4 _ _ _ _ (fun _ same _ => noReturn same) noReturn,
      isPrefixOf_append_angle noAngle, if_neg notClosed, if_pos isAllowed]
    exact induction found
  | case6 => cases found

theorem keepsAngle_afterRawOpening? : KeepsAngle (afterRawOpening? kind) := by
  intro chars rest found
  have sameMarks : (chars ++ ['>']).takeWhile (· == '#') = chars.takeWhile (· == '#') :=
    Text.takeWhile_append_cons rfl chars []
  have afterMarks : (chars ++ ['>']).dropWhile (· == '#') = chars.dropWhile (· == '#') ++ ['>'] :=
    Text.dropWhile_append_cons rfl chars []
  have noAngle : '>' ∉ chars.takeWhile (· == '#') := fun member =>
    absurd (List.all_eq_true.mp List.all_takeWhile _ member) (by decide)
  simp only [afterRawOpening?, sameMarks, afterMarks] at found ⊢
  split at found
  · rename_i chars same
    obtain ⟨isShort, found⟩ := Option.ite_none_right_eq_some.mp found
    rw [same]
    simp only [List.cons_append, if_pos isShort]
    exact keepsAngle_afterRaw? noAngle found
  · cases found

/-! ## Single characters -/

/-- The quote that closes a character is still there, and no other is. -/
theorem afterQuote_append_angle (afterFirst : Option (List Char)) :
    (match afterFirst.map (· ++ ['>']) with
      | some ('\'' :: rest) => some (afterSuffix rest)
      | _ => none) =
      (match afterFirst with
      | some ('\'' :: rest) => some (afterSuffix rest)
      | _ => none).map (· ++ ['>']) := by
  match afterFirst with
  | none | some [] => rfl
  | some (char :: chars) =>
    by_cases isQuote : char = '\''
    · subst isQuote
      exact congrArg some afterSuffix_append_angle
    · simp [isQuote]

theorem afterCharacter?_append_angle {first : Char} (noEscape : first ≠ '\\') :
    afterCharacter? kind (first :: chars ++ ['>']) =
      (afterCharacter? kind (first :: chars)).map (· ++ ['>']) := by
  simp only [List.cons_append, afterCharacter?]
  by_cases isAllowed : kind.allows first = true
  · simp only [isAllowed, if_true]
    exact afterQuote_append_angle (some chars)
  · simp [isAllowed]

theorem keepsAngle_afterCharacter? : KeepsAngle (afterCharacter? kind) := by
  intro chars rest found
  cases chars with
  | nil => cases found
  | cons first chars =>
    by_cases isEscape : first = '\\'
    · subst isEscape
      simp only [List.cons_append, afterCharacter?] at found ⊢
      cases escape : afterEscape? kind chars with
      | none =>
        rw [escape] at found
        cases found
      | some middle =>
        rw [escape] at found
        rw [keepsAngle_afterEscape? escape]
        exact (afterQuote_append_angle (some middle)).trans (congrArg _ found)
    · rw [afterCharacter?_append_angle isEscape, found]
      rfl

/-! ## Literals -/

theorem after?_of_isDigit {first : Char} (isDigit : first.isDigit = true) :
    after? (first :: chars) = afterNumber? (first :: chars) := by
  unfold after?
  split
  case h_9 =>
    rename_i same
    cases same
    exact if_pos isDigit
  all_goals
    rename_i same
    cases same
  all_goals cases isDigit

theorem keepsAngle_after? : KeepsAngle after? := by
  intro chars rest found
  rw [after?.eq_def] at found
  split at found
  case h_1 | h_3 | h_6 => exact afterQuoted?_append_angle found (by simp)
  case h_2 | h_4 | h_7 => exact keepsAngle_afterRawOpening? found
  case h_5 | h_8 => exact keepsAngle_afterCharacter? found
  case h_9 =>
    obtain ⟨isDigit, found⟩ := Option.ite_none_right_eq_some.mp found
    rw [List.cons_append, after?_of_isDigit isDigit]
    exact passesAngle_afterNumber?.keepsAngle found
  case h_10 => cases found

theorem split_append_angle {literal : List Char} (found : split chars = some (literal, rest)) :
    split (chars ++ ['>']) = some (literal, rest ++ ['>']) := by
  obtain ⟨after, isAfter, same⟩ := Option.map_eq_some_iff.mp found
  cases same
  rw [split, keepsAngle_after? isAfter, Option.map_some, List.length_append, List.length_append,
    Nat.add_sub_add_right, List.take_append_of_le_length (Nat.sub_le _ _)]

end SqlSchema.CodeLiteral
