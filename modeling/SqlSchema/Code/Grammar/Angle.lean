import SqlSchema.Code.Identifier
import SqlSchema.Code.Token

/-!
Tokens before `>`. A type may end where a list of arguments ends, so the tokens of a type have to
read alike when `>` comes after them, also if it belongs to the same operator as the last of them.
-/

namespace SqlSchema.CodeGrammar

/-! ## Operators -/

/-- Whether tokens begin with the marks of an operator, which may go on. -/
def startsWith : List Char → List CodeToken → Bool
  | [char], .mark found _ :: _ => found == char
  | char :: next :: chars, .mark found true :: tokens =>
    found == char && startsWith (next :: chars) tokens
  | _, _ => false

/-- Whether an operator may begin where tokens end and `>` comes next. -/
def meetsAngle : List Char → Bool
  | [] | ['-', '>'] => false
  | [char] => char == '>'
  | _ :: next :: chars => meetsAngle (next :: chars)

/-! ## Tokens before an angle bracket -/

/-- The last token before `>`, which stands right before it if `isJoined` holds. A minus does not,
since it would make an arrow. -/
def lastBeforeAngle (isJoined : Bool) : CodeToken → CodeToken
  | .mark char wasJoined => .mark char ((wasJoined || isJoined) && char != '-')
  | token => token

/-- Tokens and then `>`. -/
def beforeAngle (isJoined : Bool) : List CodeToken → List CodeToken
  | [] => [.mark '>' false]
  | token :: rest =>
    (if rest.isEmpty then lastBeforeAngle isJoined token else token) :: beforeAngle isJoined rest

section

variable {isJoined : Bool} {char next : Char} {chars : List Char} {token second : CodeToken}
  {tokens rest front : List CodeToken}

@[simp]
theorem beforeAngle_nil : beforeAngle isJoined [] = [.mark '>' false] :=
  rfl

@[simp]
theorem beforeAngle_singleton :
    beforeAngle isJoined [token] = [lastBeforeAngle isJoined token, .mark '>' false] :=
  rfl

@[simp]
theorem beforeAngle_cons_cons :
    beforeAngle isJoined (token :: second :: rest) =
      token :: beforeAngle isJoined (second :: rest) :=
  rfl

/-- Tokens other than marks stay as they are. -/
theorem beforeAngle_cons (same : lastBeforeAngle isJoined token = token) :
    beforeAngle isJoined (token :: rest) = token :: beforeAngle isJoined rest := by
  cases rest with
  | nil => rw [beforeAngle_singleton, same, beforeAngle_nil]
  | cons next rest => rfl

theorem beforeAngle_append (notEmpty : tokens ≠ []) :
    beforeAngle isJoined (front ++ tokens) = front ++ beforeAngle isJoined tokens := by
  induction front with
  | nil => rfl
  | cons token front induction =>
    obtain ⟨next, rest, same⟩ := List.exists_cons_of_ne_nil
      (List.append_ne_nil_of_right_ne_nil front notEmpty)
    rw [List.cons_append, List.cons_append, ← induction, same, beforeAngle_cons_cons]

theorem lastBeforeAngle_false (noMinus : ∀ isJoined, token ≠ .mark '-' isJoined) :
    lastBeforeAngle false token = token := by
  cases token with
  | mark char isJoined =>
    have different : (char != '-') = true := bne_iff_ne.mpr fun same =>
      noMinus isJoined (by rw [same])
    rw [lastBeforeAngle, different, Bool.or_false, Bool.and_true]
  | _ => rfl

/-- Tokens that stand apart from `>` stay as they are, unless they end with a minus. -/
theorem beforeAngle_false (noMinus : ∀ isJoined, tokens.getLast? ≠ some (.mark '-' isJoined)) :
    beforeAngle false tokens = tokens ++ [.mark '>' false] := by
  induction tokens with
  | nil => rfl
  | cons token tokens induction =>
    cases tokens with
    | nil =>
      rw [beforeAngle_singleton, lastBeforeAngle_false]
      · rfl
      · exact fun isJoined same => noMinus isJoined (congrArg some same)
    | cons next rest =>
      rw [beforeAngle_cons_cons, List.cons_append]
      exact congrArg (token :: ·) (induction noMinus)

theorem drop_beforeAngle {count : Nat} (within : count ≤ tokens.length) :
    (beforeAngle isJoined tokens).drop count = beforeAngle isJoined (tokens.drop count) := by
  induction count generalizing tokens with
  | zero => rfl
  | succ count induction =>
    cases tokens with
    | nil => simp at within
    | cons token tokens =>
      rw [List.length_cons, Nat.add_le_add_iff_right] at within
      exact induction within

theorem length_beforeAngle : (beforeAngle isJoined tokens).length = tokens.length + 1 := by
  induction tokens with
  | nil => rfl
  | cons token tokens induction => exact congrArg (· + 1) induction

@[simp]
theorem startsWith_nil_right : startsWith chars [] = false := by
  unfold startsWith
  split <;> simp_all

/-- The marks of an operator are still there when `>` comes next. -/
theorem startsWith_beforeAngle_of_startsWith (starts : startsWith chars tokens = true) :
    startsWith chars (beforeAngle isJoined tokens) = true := by
  fun_induction startsWith chars tokens with
  | case1 char found wasJoined rest =>
    cases rest <;> exact starts
  | case2 char next chars found rest induction =>
    rw [Bool.and_eq_true] at starts
    cases rest with
    | nil => simp at starts
    | cons token rest =>
      rw [beforeAngle_cons_cons, startsWith, Bool.and_eq_true]
      exact ⟨starts.1, induction starts.2⟩
  | case3 => cases starts

@[simp]
theorem startsWith_singleton_mark {found : Char} :
    startsWith [char] (.mark found isJoined :: tokens) = (found == char) :=
  rfl

@[simp]
theorem startsWith_of_noMark (noMark : ∀ char isJoined, token ≠ .mark char isJoined) :
    startsWith chars (token :: tokens) = false := by
  unfold startsWith
  split <;> simp_all

theorem exists_of_startsWith_singleton (starts : startsWith [char] tokens = true) :
    ∃ isJoined rest, tokens = .mark char isJoined :: rest := by
  match tokens with
  | [] | .word _ :: _ | .literal _ :: _ | .opening _ :: _ | .closing _ :: _ => cases starts
  | .mark found isJoined :: rest => exact ⟨isJoined, rest, by rw [← beq_iff_eq.mp starts]⟩

theorem startsWith_cons_cons :
    startsWith (char :: next :: chars) (token :: tokens) =
      (token == .mark char true && startsWith (next :: chars) tokens) := by
  cases token with
  | mark found isJoined => cases isJoined <;> simp [startsWith, Bool.beq_eq_decide_eq]
  | _ => rfl

theorem startsWith_singleton_beforeAngle_cons :
    startsWith [char] (beforeAngle isJoined (token :: tokens)) =
      startsWith [char] (token :: tokens) := by
  cases tokens <;> cases token <;> rfl

/-- No other operator begins when `>` comes next, unless it may begin with this mark. -/
theorem startsWith_beforeAngle (apart : meetsAngle chars = false) :
    startsWith chars (beforeAngle isJoined tokens) = startsWith chars tokens := by
  fun_induction meetsAngle chars generalizing tokens with
  | case1 => simp [startsWith]
  | case2 =>
    match tokens with
    | [] => rfl
    | [token] =>
      have notJoined : (lastBeforeAngle isJoined token == .mark '-' true) = false := by
        cases token with
        | mark char wasJoined => by_cases isMinus : char = '-' <;> simp [lastBeforeAngle, isMinus]
        | _ => rfl
      rw [beforeAngle_singleton, startsWith_cons_cons, startsWith_cons_cons, notJoined,
        startsWith_nil_right, Bool.and_false, Bool.false_and]
    | token :: next :: rest =>
      rw [beforeAngle_cons_cons, startsWith_cons_cons, startsWith_cons_cons,
        startsWith_singleton_beforeAngle_cons]
  | case3 char =>
    cases tokens with
    | nil =>
      rw [startsWith_nil_right, beforeAngle_nil, startsWith]
      exact beq_eq_false_iff_ne.mpr (beq_eq_false_iff_ne.mp apart).symm
    | cons token tokens => exact startsWith_singleton_beforeAngle_cons
  | case4 char next chars notArrow induction =>
    match tokens with
    | [] => rfl
    | [token] =>
      have stops : startsWith (next :: chars) [.mark '>' false] = false :=
        (@induction [] apart).trans startsWith_nil_right
      rw [beforeAngle_singleton, startsWith_cons_cons, startsWith_cons_cons, stops,
        startsWith_nil_right, Bool.and_false, Bool.and_false]
    | token :: second :: rest =>
      rw [beforeAngle_cons_cons, startsWith_cons_cons, startsWith_cons_cons, induction apart]

theorem length_le_of_startsWith (starts : startsWith chars tokens = true) :
    chars.length ≤ tokens.length := by
  fun_induction startsWith chars tokens with
  | case1 => simp
  | case2 char next chars found rest induction =>
    rw [Bool.and_eq_true] at starts
    exact Nat.succ_le_succ (induction starts.2)
  | case3 => cases starts

/-- The last mark of an operator is its last character. -/
theorem getLast?_take_of_startsWith (starts : startsWith chars tokens = true) :
    ∃ char isJoined, chars.getLast? = some char ∧
      (tokens.take chars.length).getLast? = some (.mark char isJoined) := by
  fun_induction startsWith chars tokens with
  | case1 char found wasJoined rest =>
    rw [beq_iff_eq] at starts
    exact ⟨char, wasJoined, rfl, by rw [starts]; rfl⟩
  | case2 char next chars found rest induction =>
    rw [Bool.and_eq_true] at starts
    obtain ⟨last, isJoined, same, taken⟩ := induction starts.2
    refine ⟨last, isJoined, by rw [List.getLast?_cons_cons, same], ?_⟩
    rw [List.length_cons, List.take_succ_cons, List.getLast?_cons, taken]
    rfl
  | case3 => cases starts

end

/-! ## Tokens that are taken -/

/-- Whether tokens have been taken from the front, of which the last is no minus. -/
def Takes (tokens rest : List CodeToken) : Prop :=
  ∃ front, tokens = front ++ rest ∧ ∀ isJoined, front.getLast? ≠ some (.mark '-' isJoined)

section

variable {tokens rest after : List CodeToken}

theorem Takes.refl : Takes tokens tokens :=
  ⟨[], rfl, by simp⟩

theorem Takes.trans (first : Takes tokens rest) (second : Takes rest after) :
    Takes tokens after := by
  obtain ⟨front, rfl, noMinus⟩ := first
  obtain ⟨between, rfl, noMinusBetween⟩ := second
  refine ⟨front ++ between, by rw [List.append_assoc], fun isJoined => ?_⟩
  have noMinusLast := noMinusBetween isJoined
  rw [List.getLast?_append]
  generalize between.getLast? = last at noMinusLast
  cases last with
  | none => exact noMinus isJoined
  | some token => exact noMinusLast

/-- A single token has been taken. -/
theorem Takes.single {token : CodeToken} (noMinus : ∀ isJoined, token ≠ .mark '-' isJoined) :
    Takes (token :: rest) rest :=
  ⟨[token], rfl, fun isJoined same => noMinus isJoined (Option.some.inj same)⟩

end

/-! ## Literals and lifetimes -/

/-- The literal at the front of some tokens, as it is written, and the tokens after it. The sign of
a number belongs to the literal, but is written as a mark. -/
def splitLiteral : List CodeToken → Option (List CodeToken × List CodeToken)
  | .literal text :: rest => some ([.literal text], rest)
  | .mark sign _ :: .literal text :: rest =>
    if sign = '-' ∧ text.toList.head?.any Char.isDigit then
      some (CodeToken.operator "-" ++ [.literal text], rest)
    else none
  | .word text :: rest =>
    if text = "true" ∨ text = "false" then some ([.word text], rest) else none
  | _ => none

/-- The lifetime at the front of some tokens, as it is written, and the tokens after it. -/
def splitLifetime : List CodeToken → Option (List CodeToken × List CodeToken)
  | .mark quote isJoined :: .word name :: rest =>
    if quote = '\'' ∧ isJoined then some (CodeToken.lifetime name, rest) else none
  | _ => none

section

variable {isJoined : Bool} {tokens written rest : List CodeToken}

theorem takes_of_splitLiteral (found : splitLiteral tokens = some (written, rest)) :
    Takes tokens rest := by
  match tokens with
  | .literal text :: rest =>
    cases found
    exact .single nofun
  | .mark sign joined :: .literal text :: rest =>
    obtain ⟨_, same⟩ := Option.ite_none_right_eq_some.mp found
    cases same
    exact ⟨[.mark sign joined, .literal text], rfl, nofun⟩
  | .word text :: rest =>
    obtain ⟨_, same⟩ := Option.ite_none_right_eq_some.mp found
    cases same
    exact .single nofun

theorem splitLiteral_beforeAngle : splitLiteral (beforeAngle isJoined tokens) =
    (splitLiteral tokens).map (Prod.map id (beforeAngle isJoined)) := by
  match tokens with
  | .literal text :: rest =>
    rw [beforeAngle_cons rfl]
    rfl
  | .mark sign joined :: .literal text :: rest =>
    rw [beforeAngle_cons_cons, beforeAngle_cons rfl, splitLiteral, splitLiteral]
    split <;> rfl
  | .word text :: rest =>
    rw [beforeAngle_cons rfl, splitLiteral, splitLiteral]
    split <;> rfl
  | [] | [.mark _ _] => rfl
  | .opening _ :: rest | .closing _ :: rest | .mark _ _ :: .word _ :: rest
  | .mark _ _ :: .mark _ _ :: rest | .mark _ _ :: .opening _ :: rest
  | .mark _ _ :: .closing _ :: rest => cases rest <;> rfl

theorem takes_of_splitLifetime (found : splitLifetime tokens = some (written, rest)) :
    Takes tokens rest := by
  match tokens with
  | .mark quote joined :: .word name :: rest =>
    obtain ⟨_, same⟩ := Option.ite_none_right_eq_some.mp found
    cases same
    exact ⟨[.mark quote joined, .word name], rfl, nofun⟩

theorem splitLifetime_beforeAngle : splitLifetime (beforeAngle isJoined tokens) =
    (splitLifetime tokens).map (Prod.map id (beforeAngle isJoined)) := by
  match tokens with
  | .mark quote joined :: .word name :: rest =>
    rw [beforeAngle_cons_cons, beforeAngle_cons rfl, splitLifetime, splitLifetime]
    split <;> rfl
  | [] | [.mark _ _] => rfl
  | .word _ :: rest | .literal _ :: rest | .opening _ :: rest | .closing _ :: rest
  | .mark _ _ :: .mark _ _ :: rest | .mark _ _ :: .literal _ :: rest
  | .mark _ _ :: .opening _ :: rest | .mark _ _ :: .closing _ :: rest => cases rest <;> rfl

end

end SqlSchema.CodeGrammar
