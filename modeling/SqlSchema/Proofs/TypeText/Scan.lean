import SqlSchema.Code.Grammar.Angle
import SqlSchema.Code.Scan
import SqlSchema.Proofs.TypeText.Literal

/-!
Scanning before `>`. The tokens of a text are the same where `>` comes after it, but that its last
mark may belong to the same operator. The text must not end in a line comment, which would take the
`>` in.
-/

namespace SqlSchema.CodeScan

variable {chars rest : List Char} {first : Char} {tokens : List CodeToken}

/-! ## Identifiers -/

theorem splitIdentifier_of_ne (notRaw : ∀ rest, chars ≠ 'r' :: '#' :: rest) :
    splitIdentifier chars = CodeLiteral.splitWord chars := by
  unfold splitIdentifier
  split
  · exact absurd rfl (notRaw _)
  · rfl

theorem splitIdentifier_append_angle : splitIdentifier (chars ++ ['>']) =
    (splitIdentifier chars).map (Prod.map id (· ++ ['>'])) := by
  match chars with
  | [] | [first] =>
    rw [splitIdentifier_of_ne (by simp), splitIdentifier_of_ne (by simp),
      CodeLiteral.splitWord_append_angle]
  | first :: second :: rest =>
    by_cases isRaw : first = 'r' ∧ second = '#'
    · obtain ⟨rfl, rfl⟩ := isRaw
      simp only [List.cons_append, splitIdentifier, CodeLiteral.splitWord_append_angle]
      match CodeLiteral.splitWord rest with
      | none => rfl
      | some (word, after) => by_cases isName : isRawName word = true <;> simp [isName]
    · have notRaw (rest after : List Char) : first :: second :: rest ≠ 'r' :: '#' :: after := by
        grind
      rw [List.cons_append, List.cons_append, splitIdentifier_of_ne (notRaw _),
        splitIdentifier_of_ne (notRaw _), ← List.cons_append, ← List.cons_append,
        CodeLiteral.splitWord_append_angle]

/-- An identifier begins with a letter or an underscore, also if it is written raw. -/
theorem isIdentifierStart_of_splitIdentifier {word : List Char}
    (found : splitIdentifier (first :: rest) = some (word, chars)) :
    Text.isIdentifierStart first = true := by
  by_cases isRaw : ∃ after, first :: rest = 'r' :: '#' :: after
  · obtain ⟨after, same⟩ := isRaw
    cases same
    rfl
  · rw [splitIdentifier_of_ne (not_exists.mp isRaw), CodeLiteral.splitWord] at found
    exact (Option.ite_none_right_eq_some.mp found).1

theorem isPrefixOf_append_angle_of_mem {fronts : List String}
    (noAngle : ∀ front ∈ fronts, '>' ∉ front.toList) :
    (fronts.any fun front => front.toList.isPrefixOf (chars ++ ['>'])) =
      fronts.any fun front => front.toList.isPrefixOf chars := by
  induction fronts with
  | nil => rfl
  | cons front fronts induction =>
    rw [List.any_cons, List.any_cons,
      CodeLiteral.isPrefixOf_append_angle (noAngle front List.mem_cons_self),
      induction fun other member => noAngle other (List.mem_cons_of_mem front member)]

theorem startsQuoted_append_angle : startsQuoted (chars ++ ['>']) = startsQuoted chars :=
  isPrefixOf_append_angle_of_mem (by decide)

theorem exists_of_startsLifetime (starts : startsLifetime chars = true) :
    ∃ parts, splitIdentifier chars = some parts := by
  unfold startsLifetime at starts
  cases found : splitIdentifier chars with
  | none => simp [found] at starts
  | some parts => exact ⟨parts, rfl⟩

/-- No quote and no `#` comes after the name of a lifetime where there was none. -/
theorem startsLifetime_append_angle : startsLifetime (chars ++ ['>']) = startsLifetime chars := by
  unfold startsLifetime
  rw [splitIdentifier_append_angle, CodeLiteral.isPrefixOf_append_angle (by decide)]
  match splitIdentifier chars with
  | none | some (_, []) => rfl
  | some (word, char :: rest) =>
    simp only [Option.map_some, Prod.map, List.cons_append]
    grind

/-! ## What is no literal -/

theorem isMark_eq_false_of_isDigit (isDigit : first.isDigit = true) : isMark first = false := by
  have noDigit : "~!@#$%^&*-=+|;:,<.>/?'".toList.all (!·.isDigit) = true := by decide
  refine Bool.eq_false_iff.mpr fun isMark => ?_
  have isOther := List.all_eq_true.mp noDigit first (List.contains_iff_mem.mp isMark)
  rw [isDigit] at isOther
  cases isOther

theorem isMark_eq_false_of_isIdentifierStart (starts : Text.isIdentifierStart first = true) :
    isMark first = false := by
  have noStart : "~!@#$%^&*-=+|;:,<.>/?'".toList.all (!Text.isIdentifierStart ·) = true :=
    rfl
  refine Bool.eq_false_iff.mpr fun isMark => ?_
  have isOther := List.all_eq_true.mp noStart first (List.contains_iff_mem.mp isMark)
  rw [starts] at isOther
  cases isOther

theorem isIdentifierStart_eq_false_of_isDigit (isDigit : first.isDigit = true) :
    Text.isIdentifierStart first = false := by
  have digits : ∀ number < 10, Text.isIdentifierStart (Char.ofNat (48 + number)) = false := by
    decide
  simp only [Char.isDigit, Bool.and_eq_true, decide_eq_true_eq, ge_iff_le,
    UInt32.le_iff_toNat_le] at isDigit
  have isNumber : 48 + (first.toNat - 48) = first.toNat := Nat.add_sub_of_le isDigit.1
  have small : first.toNat - 48 < 10 := by
    have bound : first.toNat ≤ 57 := isDigit.2
    omega
  have starts := digits (first.toNat - 48) small
  rwa [isNumber, Char.ofNat_toNat] at starts

/-- A raw text begins with a quote, `#` and a quote, or two `#`. -/
theorem afterRawOpening?_eq_none {kind : CodeLiteral.QuotedKind}
    (apart : ['"'].isPrefixOf chars = false ∧ ['#', '"'].isPrefixOf chars = false ∧
      ['#', '#'].isPrefixOf chars = false) :
    CodeLiteral.afterRawOpening? kind chars = none := by
  unfold CodeLiteral.afterRawOpening?
  dsimp only
  split
  · rename_i same
    match chars with
    | [] => cases same
    | [first] | first :: second :: rest =>
      simp [List.isPrefixOf] at apart
      simp only [List.dropWhile_cons, List.dropWhile_nil] at same
      grind
  · rfl

/-- No literal begins with a mark other than a quote. -/
theorem after?_eq_none_of_isMark (isMark : isMark first = true) (noQuote : first ≠ '\'') :
    CodeLiteral.after? (first :: rest) = none := by
  rw [CodeLiteral.after?.eq_def]
  split
  case h_9 =>
    rename_i same
    cases same
    exact if_neg fun isDigit => by simp [isMark_eq_false_of_isDigit isDigit] at isMark
  case h_10 => rfl
  case h_8 =>
    rename_i same
    cases same
    exact absurd rfl noQuote
  all_goals
    rename_i same
    cases same
    cases isMark

/-- No literal begins like an identifier, unless it is a quoted text. -/
theorem after?_eq_none_of_isIdentifierStart (starts : Text.isIdentifierStart first = true)
    (notQuoted : startsQuoted (first :: rest) = false) :
    CodeLiteral.after? (first :: rest) = none := by
  rw [CodeLiteral.after?.eq_def]
  split
  case h_10 => rfl
  case h_9 =>
    rename_i same
    cases same
    exact if_neg fun isDigit => by
      simp [isIdentifierStart_eq_false_of_isDigit isDigit] at starts
  all_goals
    rename_i same
    cases same
  case h_1 | h_8 => cases starts
  all_goals simp [startsQuoted, quotedFronts, List.isPrefixOf] at notQuoted
  case h_2 => exact afterRawOpening?_eq_none notQuoted
  case h_4 rest | h_7 rest =>
    refine afterRawOpening?_eq_none ⟨notQuoted.1, ?_⟩
    cases rest with
    | nil => exact ⟨rfl, rfl⟩
    | cons next rest =>
      simp [List.isPrefixOf] at notQuoted ⊢
      grind

/-! ## Marks -/

/-- Whether tokens at the end of a text are these before `>`: a mark is joined to it. -/
def JoinsAngle (tokens : List CodeToken) (rest : List Char) (joined : List CodeToken) : Prop :=
  joined = tokens ∨ rest = [] ∧ ∃ char, tokens = [.mark char false] ∧ joined = [.mark char true]

theorem startsWithMark_append_angle :
    startsWithMark (chars ++ ['>']) = (chars.isEmpty || startsWithMark chars) := by
  match chars with
  | [] => rfl
  | [first] | first :: second :: rest =>
    simp only [List.cons_append, List.nil_append, startsWithMark.eq_def]
    grind

theorem isMark_of_startsWithMark (starts : startsWithMark (first :: rest) = true) :
    isMark first = true := by
  unfold startsWithMark at starts
  split at starts <;> grind

theorem splitMark_of_ne (noQuote : first ≠ '\'') :
    splitMark (first :: rest) =
      if startsWithMark (first :: rest) then
        some ([.mark first (startsWithMark rest)], rest)
      else none := by
  simp [splitMark, noQuote]

theorem exists_splitMark_append_angle (found : splitMark chars = some (tokens, rest)) :
    ∃ joined, splitMark (chars ++ ['>']) = some (joined, rest ++ ['>']) ∧
      JoinsAngle tokens rest joined := by
  cases chars with
  | nil => cases found
  | cons first chars =>
    by_cases isQuote : first = '\''
    · subst isQuote
      obtain ⟨isLifetime, same⟩ := Option.ite_none_right_eq_some.mp found
      cases same
      refine ⟨[.mark '\'' true], ?_, .inl rfl⟩
      rw [List.cons_append, splitMark, startsLifetime_append_angle, if_pos isLifetime]
    · rw [splitMark_of_ne isQuote] at found
      obtain ⟨isMark, same⟩ := Option.ite_none_right_eq_some.mp found
      cases same
      refine ⟨[.mark first (rest.isEmpty || startsWithMark rest)], ?_, ?_⟩
      · rw [List.cons_append, splitMark_of_ne isQuote, ← List.cons_append,
          startsWithMark_append_angle, startsWithMark_append_angle, isMark, Bool.or_true, if_pos rfl]
      · cases rest with
        | nil => exact .inr ⟨rfl, first, rfl, rfl⟩
        | cons next rest => exact .inl rfl

theorem splitMark_eq_none_of_isIdentifierStart (starts : Text.isIdentifierStart first = true) :
    splitMark (first :: rest) = none := by
  have noQuote : first ≠ '\'' := by
    rintro rfl
    cases starts
  rw [splitMark_of_ne noQuote, if_neg]
  intro isFront
  have isMark := isMark_of_startsWithMark isFront
  rw [isMark_eq_false_of_isIdentifierStart starts] at isMark
  cases isMark

/-! ## Literals, marks and identifiers -/

/-- A mark is at the front of no literal, also where it closes no character. -/
theorem split_append_angle_of_splitMark (found : splitMark chars = some (tokens, rest))
    (noLiteral : CodeLiteral.split chars = none) :
    CodeLiteral.split (chars ++ ['>']) = none := by
  cases chars with
  | nil => cases found
  | cons first chars =>
    by_cases isQuote : first = '\''
    · subst isQuote
      obtain ⟨isLifetime, _⟩ := Option.ite_none_right_eq_some.mp found
      cases chars with
      | nil => cases isLifetime
      | cons second chars =>
        have noEscape : second ≠ '\\' := by
          rintro rfl
          obtain ⟨_, isIdentifier⟩ := exists_of_startsLifetime isLifetime
          cases isIdentifierStart_of_splitIdentifier isIdentifier
        rw [CodeLiteral.split, Option.map_eq_none_iff] at noLiteral ⊢
        exact (CodeLiteral.afterCharacter?_append_angle noEscape).trans
          (congrArg (Option.map _) noLiteral)
    · rw [splitMark_of_ne isQuote] at found
      obtain ⟨starts, _⟩ := Option.ite_none_right_eq_some.mp found
      rw [List.cons_append, CodeLiteral.split,
        after?_eq_none_of_isMark (isMark_of_startsWithMark starts) isQuote, Option.map_none]

theorem exists_splitLeaf_append_angle (found : splitLeaf chars = some (tokens, rest)) :
    ∃ joined, splitLeaf (chars ++ ['>']) = some (joined, rest ++ ['>']) ∧
      JoinsAngle tokens rest joined := by
  unfold splitLeaf at found ⊢
  cases literal : CodeLiteral.split chars with
  | some parts =>
    rw [literal] at found
    cases found
    rw [CodeLiteral.split_append_angle literal]
    exact ⟨_, rfl, .inl rfl⟩
  | none =>
    rw [literal] at found
    cases mark : splitMark chars with
    | some parts =>
      rw [mark] at found
      cases found
      obtain ⟨joined, splits, joins⟩ := exists_splitMark_append_angle mark
      rw [split_append_angle_of_splitMark mark literal, splits]
      exact ⟨joined, rfl, joins⟩
    | none =>
      rw [mark] at found
      obtain ⟨notQuoted, found⟩ := Option.ite_none_left_eq_some.mp found
      obtain ⟨⟨word, after⟩, isIdentifier, same⟩ := Option.map_eq_some_iff.mp found
      cases same
      cases chars with
      | nil => cases isIdentifier
      | cons first chars =>
        have starts := isIdentifierStart_of_splitIdentifier isIdentifier
        have noLiteral : CodeLiteral.split (first :: (chars ++ ['>'])) = none := by
          rw [CodeLiteral.split, after?_eq_none_of_isIdentifierStart starts, Option.map_none]
          rwa [← List.cons_append, startsQuoted_append_angle, ← Bool.not_eq_true]
        rw [List.cons_append, noLiteral, splitMark_eq_none_of_isIdentifierStart starts,
          ← List.cons_append, startsQuoted_append_angle, splitIdentifier_append_angle,
          isIdentifier, if_neg notQuoted]
        exact ⟨_, rfl, .inl rfl⟩

/-! ## Comments -/

/-- Whether a line comment at the front of a text goes on up to its end. -/
def isOpenComment : List Char → Bool
  | '/' :: '/' :: rest => (splitLine rest).2.isEmpty
  | _ => false

theorem splitLine_append_angle (closed : (splitLine chars).2 ≠ []) :
    splitLine (chars ++ ['>']) = ((splitLine chars).1, (splitLine chars).2 ++ ['>']) := by
  have ended : (chars.dropWhile (· != '\n')).isEmpty = false := List.isEmpty_eq_false_iff.mpr closed
  have sameLine : (chars ++ ['>']).takeWhile (· != '\n') = chars.takeWhile (· != '\n') := by
    have whole := congrArg List.length
      (List.takeWhile_append_dropWhile : chars.takeWhile (· != '\n') ++ _ = chars)
    have notEmpty : 0 < (chars.dropWhile (· != '\n')).length := List.length_pos_iff.mpr closed
    rw [List.length_append] at whole
    rw [List.takeWhile_append, if_neg (by omega)]
  have afterLine : (chars ++ ['>']).dropWhile (· != '\n') = chars.dropWhile (· != '\n') ++ ['>'] := by
    rw [List.dropWhile_append, ended, if_neg Bool.false_ne_true]
  simp only [splitLine, sameLine, afterLine, ended]
  simp

theorem append_angle_ne_cons {char : Char} (different : '>' ≠ char)
    (apart : ∀ rest, chars ≠ char :: rest) (rest : List Char) : chars ++ ['>'] ≠ char :: rest := by
  cases chars with
  | nil => simp [different]
  | cons first chars =>
    intro same
    exact apart chars (by rw [(List.cons.inj same).1])

/-- The `>` is not a character that makes a comment documentation, or none. -/
theorem isDocumentation_append_angle {second : Char} :
    isDocumentation second (chars ++ ['>']) = isDocumentation second chars := by
  fun_cases isDocumentation second chars with
  | case1 | case2 | case3 => rfl
  | case4 chars noLine =>
    rw [List.cons_append, isDocumentation.eq_4 _ (append_angle_ne_cons (by decide) noLine)]
  | case5 chars noEnd noBlock =>
    rw [List.cons_append, isDocumentation.eq_5 _ (append_angle_ne_cons (by decide) noEnd)
      (append_angle_ne_cons (by decide) noBlock)]
  | case6 second chars => rw [List.cons_append, isDocumentation.eq_6]
  | case7 second chars _ _ _ noLine noBlock noInner =>
    have notLine (isSlash : second = '/') := append_angle_ne_cons (show '>' ≠ '/' by decide)
      fun rest => noLine rest isSlash
    have notBlock (isStar : second = '*') := append_angle_ne_cons (show '>' ≠ '*' by decide)
      fun rest => noBlock rest isStar
    exact isDocumentation.eq_7 second _ (append_angle_ne_cons (by decide) noInner)
      (fun _ same => notLine same _) (fun _ same => notBlock same _) (fun _ same => notBlock same _)
      (fun _ same => notLine same _) fun _ same => notBlock same _

theorem splitComment_append_angle {second : Char} {text : List Char}
    (found : splitComment second chars = some (text, rest)) (closed : second = '/' → rest ≠ []) :
    splitComment second (chars ++ ['>']) = some (text, rest ++ ['>']) := by
  unfold splitComment at found ⊢
  split at found
  · rename_i isLine
    have same : splitLine chars = (text, rest) := Option.some.inj found
    rw [if_pos isLine, splitLine_append_angle (by rw [same]; exact closed isLine), same]
  · rename_i isBlock
    obtain ⟨⟨front, after⟩, split, same⟩ := Option.map_eq_some_iff.mp found
    cases same
    rw [if_neg isBlock, Trivia.splitComment_append split ['>']]
    rfl

theorem exists_of_comment {second : Char} (found : comment second chars = some (tokens, rest)) :
    ∃ text, splitComment second chars = some (text, rest) := by
  obtain ⟨⟨text, after⟩, isComment, found⟩ := Option.bind_eq_some_iff.mp found
  have same : after = rest := by grind
  exact ⟨text, same ▸ isComment⟩

theorem comment_append_angle {second : Char} (found : comment second chars = some (tokens, rest))
    (closed : second = '/' → rest ≠ []) :
    comment second (chars ++ ['>']) = some (tokens, rest ++ ['>']) := by
  obtain ⟨text, isComment⟩ := exists_of_comment found
  rw [comment, isComment] at found
  rw [comment, splitComment_append_angle isComment closed, isDocumentation_append_angle]
  grind

/-! ## Tokens -/

theorem splitFirst_of_no_comment (notBlank : isBlank first = false)
    (noLine : first = '/' → ∀ rest, chars ≠ '/' :: rest)
    (noBlock : first = '/' → ∀ rest, chars ≠ '*' :: rest) :
    splitFirst first chars =
      if unreadable.toList.isPrefixOf (first :: chars) then
        some ([.literal unreadable], (first :: chars).drop unreadable.length)
      else
        match delimiter? first with
        | some token => some ([token], chars)
        | none => splitLeaf (first :: chars) := by
  unfold splitFirst
  rw [notBlank, if_neg Bool.false_ne_true]
  split
  · exact absurd rfl (noLine rfl _)
  · exact absurd rfl (noBlock rfl _)
  · rfl

/-- What a text in front of `>` begins with is the same, unless it is an open comment. -/
theorem exists_splitFirst_append_angle (found : splitFirst first chars = some (tokens, rest))
    (closed : isOpenComment (first :: chars) = false) :
    ∃ joined, splitFirst first (chars ++ ['>']) = some (joined, rest ++ ['>']) ∧
      JoinsAngle tokens rest joined := by
  cases blank : isBlank first with
  | true =>
    cases (if_pos blank).symm.trans found
    exact ⟨[], if_pos blank, .inl rfl⟩
  | false =>
    by_cases isLine : first = '/' ∧ ∃ after, chars = '/' :: after
    · obtain ⟨rfl, after, rfl⟩ := isLine
      obtain ⟨text, isComment⟩ := exists_of_comment found
      have isRest : (splitLine after).2 = rest := congrArg Prod.snd (Option.some.inj isComment)
      have isClosed : rest ≠ [] := isRest ▸ List.isEmpty_eq_false_iff.mp closed
      exact ⟨tokens, comment_append_angle found fun _ => isClosed, .inl rfl⟩
    by_cases isBlock : first = '/' ∧ ∃ after, chars = '*' :: after
    · obtain ⟨rfl, after, rfl⟩ := isBlock
      exact ⟨tokens, comment_append_angle found nofun, .inl rfl⟩
    have noLine (isSlash : first = '/') (after : List Char) (same : chars = '/' :: after) : False :=
      isLine ⟨isSlash, after, same⟩
    have noBlock (isSlash : first = '/') (after : List Char) (same : chars = '*' :: after) : False :=
      isBlock ⟨isSlash, after, same⟩
    rw [splitFirst_of_no_comment blank noLine noBlock] at found
    rw [splitFirst_of_no_comment blank
      (fun isSlash => append_angle_ne_cons (by decide) (noLine isSlash))
      (fun isSlash => append_angle_ne_cons (by decide) (noBlock isSlash)), ← List.cons_append,
      CodeLiteral.isPrefixOf_append_angle (by decide)]
    split at found
    · rename_i isUnreadable
      cases found
      have within : unreadable.length ≤ (first :: chars).length := by
        rw [← String.length_toList]
        exact (List.isPrefixOf_iff_prefix.mp isUnreadable).length_le
      rw [if_pos isUnreadable, List.drop_append_of_le_length within]
      exact ⟨_, rfl, .inl rfl⟩
    · rename_i isReadable
      rw [if_neg isReadable]
      split at found
      · cases found
        exact ⟨_, rfl, .inl rfl⟩
      · exact exists_splitLeaf_append_angle found

/-! ## All tokens -/

/-- Whether the last piece of a text is a line comment; `count` bounds the pieces. -/
def endsInCommentUpTo : Nat → List Char → Bool
  | count + 1, first :: rest =>
    isOpenComment (first :: rest) ||
      (splitFirst first rest).any fun (_, rest) => endsInCommentUpTo count rest
  | _, _ => false

/-- Whether a text ends in a line comment, which takes in what comes after the text. -/
def endsInComment (chars : List Char) : Bool :=
  endsInCommentUpTo chars.length chars

example : ["i32 // c", "i32 // c\n", "/* // */ i32", "S<\"//\">"].map
    (fun text => endsInComment text.toList) = [true, false, false, false] := by
  decide +kernel

/-- The tokens of a text in front of `>` are those that it begins with, and the others in front of
`>`. -/
theorem JoinsAngle.exists_beforeAngle {front joined : List CodeToken}
    (joins : JoinsAngle front rest joined) (ended : rest = [] → tokens = [])
    (noMinus : ∀ isJoined, (front ++ tokens).getLast? ≠ some (.mark '-' isJoined))
    (isJoined : Bool) : ∃ isJoinedWhole, joined ++ CodeGrammar.beforeAngle isJoined tokens =
      CodeGrammar.beforeAngle isJoinedWhole (front ++ tokens) := by
  obtain same | ⟨isEnd, char, rfl, rfl⟩ := joins
  · subst same
    cases tokens with
    | nil =>
      rw [List.append_nil] at noMinus ⊢
      exact ⟨false, (CodeGrammar.beforeAngle_false noMinus).symm⟩
    | cons token tokens =>
      exact ⟨isJoined, (CodeGrammar.beforeAngle_append (List.cons_ne_nil token tokens)).symm⟩
  · obtain rfl := ended isEnd
    have different : (char != '-') = true := bne_iff_ne.mpr fun same =>
      noMinus false (by rw [same]; rfl)
    refine ⟨true, ?_⟩
    rw [List.append_nil, CodeGrammar.beforeAngle_singleton, CodeGrammar.lastBeforeAngle, different]
    rfl

theorem tokensUpTo_nil {count : Nat} : tokensUpTo count [] = some [] := by
  cases count <;> rfl

theorem tokensUpTo_cons {count : Nat} {front tail : List CodeToken}
    (isFirst : splitFirst first rest = some (front, chars))
    (isTail : tokensUpTo count chars = some tail) :
    tokensUpTo (count + 1) (first :: rest) = some (front ++ tail) := by
  simp only [tokensUpTo, isFirst, Option.bind_eq_bind, Option.bind_some, isTail]
  rfl

theorem tokensUpTo_angle {count : Nat} : tokensUpTo (count + 1) ['>'] = some [.mark '>' false] := by
  have isAngle : splitFirst '>' [] = some ([.mark '>' false], []) := rfl
  exact tokensUpTo_cons isAngle tokensUpTo_nil

/-- The tokens of a text are the same in front of `>`, unless it ends in a line comment. A minus at
the end would make an arrow with the `>`. -/
theorem exists_tokensUpTo_append_angle {count larger : Nat}
    (found : tokensUpTo count chars = some tokens) (closed : endsInCommentUpTo count chars = false)
    (noMinus : ∀ isJoined, tokens.getLast? ≠ some (.mark '-' isJoined)) (lt : count < larger) :
    ∃ isJoined, tokensUpTo larger (chars ++ ['>']) =
      some (CodeGrammar.beforeAngle isJoined tokens) := by
  induction count generalizing chars tokens larger with
  | zero =>
    obtain ⟨larger, rfl⟩ := Nat.exists_eq_add_one.mpr (Nat.zero_lt_of_lt lt)
    cases chars with
    | nil =>
      cases found
      exact ⟨false, tokensUpTo_angle⟩
    | cons first chars => cases found
  | succ count induction =>
    obtain ⟨larger, rfl⟩ := Nat.exists_eq_add_one.mpr (Nat.zero_lt_of_lt lt)
    cases chars with
    | nil =>
      cases found
      exact ⟨false, tokensUpTo_angle⟩
    | cons first chars =>
      obtain ⟨⟨front, after⟩, isFirst, found⟩ := Option.bind_eq_some_iff.mp found
      obtain ⟨tail, isTail, same⟩ := Option.bind_eq_some_iff.mp found
      cases same
      rw [endsInCommentUpTo, isFirst, Bool.or_eq_false_iff] at closed
      have noMinusTail (isJoined : Bool) : tail.getLast? ≠ some (.mark '-' isJoined) := by
        intro same
        exact noMinus isJoined (by rw [List.getLast?_append, same, Option.some_or])
      obtain ⟨isJoined, tailBefore⟩ := induction isTail closed.2 noMinusTail
        (Nat.lt_of_succ_lt_succ lt)
      obtain ⟨joined, firstBefore, joins⟩ := exists_splitFirst_append_angle isFirst closed.1
      have ended (isEnd : after = []) : tail = [] := by
        subst isEnd
        exact (Option.some.inj (tokensUpTo_nil.symm.trans isTail)).symm
      obtain ⟨isJoinedWhole, same⟩ := joins.exists_beforeAngle ended noMinus isJoined
      exact ⟨isJoinedWhole, same ▸ tokensUpTo_cons firstBefore tailBefore⟩

end SqlSchema.CodeScan
