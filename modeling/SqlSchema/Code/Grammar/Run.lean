import SqlSchema.Code.Grammar.Angle

/-!
Runs of readers: what a reader of code finds at the front of some tokens. Runs are made of others,
and two things hold of whatever is made here: it finds the same when the runs that it is made of
find more, and it finds the same when `>` comes after the tokens.
-/

namespace SqlSchema.CodeGrammar

/-- What a reader finds. -/
structure Found (ω α : Type) where
  value : α
  /-- What is written for the tokens that have been read. -/
  written : List ω
  rest : List CodeToken

/-- Takes tokens from the front, or refuses. -/
abbrev Run (ω α : Type) := List CodeToken → Option (Found ω α)

namespace Run

variable {ω ω' α β σ : Type}

/-- Whether `more` finds whatever `run` finds. -/
def Within (run more : Run ω α) : Prop :=
  ∀ tokens found, run tokens = some found → more tokens = some found

/-- Whether `more` finds whatever `run` finds, also if `>` comes after the tokens. What is written
may differ, since it may tell whether the last token is joined to the next. -/
def WithinAngle (run more : Run ω α) : Prop :=
  ∀ tokens found, run tokens = some found → Takes tokens found.rest ∧ ∀ isJoined, ∃ written,
    more (beforeAngle isJoined tokens) =
      some ⟨found.value, written, beforeAngle isJoined found.rest⟩

/-! ## Runs one after the other -/

/-- Takes no token. -/
def done (value : α) (written : List ω) : Run ω α :=
  fun tokens => some ⟨value, written, tokens⟩

def bind (first : Run ω α) (next : α → Run ω β) : Run ω β :=
  fun tokens => do
    let before ← first tokens
    let found ← next before.value before.rest
    return { found with written := before.written ++ found.written }

theorem bind_eq_some {first : Run ω α} {next : α → Run ω β} {tokens : List CodeToken}
    {found : Found ω β} :
    first.bind next tokens = some found ↔ ∃ before second, first tokens = some before ∧
      next before.value before.rest = some second ∧
      { second with written := before.written ++ second.written } = found := by
  simp [bind, Option.bind_eq_some_iff]

section

variable {first first' : Run ω α} {next next' : α → Run ω β} {value : α} {written : List ω}

theorem withinAngle_done : (done value written).WithinAngle (done value written) := by
  rintro tokens found ⟨⟩
  exact ⟨.refl, fun isJoined => ⟨written, rfl⟩⟩

theorem Within.bind (within : first.Within first')
    (withinNext : ∀ value, (next value).Within (next' value)) :
    (first.bind next).Within (first'.bind next') := by
  intro tokens found reads
  obtain ⟨before, second, readsFirst, readsNext, same⟩ := bind_eq_some.mp reads
  exact bind_eq_some.mpr
    ⟨before, second, within _ _ readsFirst, withinNext _ _ _ readsNext, same⟩

theorem WithinAngle.bind (within : first.WithinAngle first')
    (withinNext : ∀ value, (next value).WithinAngle (next' value)) :
    (first.bind next).WithinAngle (first'.bind next') := by
  intro tokens found reads
  obtain ⟨before, second, readsFirst, readsNext, rfl⟩ := bind_eq_some.mp reads
  obtain ⟨takesFirst, findsFirst⟩ := within _ _ readsFirst
  obtain ⟨takesNext, findsNext⟩ := withinNext _ _ _ readsNext
  refine ⟨takesFirst.trans takesNext, fun isJoined => ?_⟩
  obtain ⟨written, findsFirst⟩ := findsFirst isJoined
  obtain ⟨writtenNext, findsNext⟩ := findsNext isJoined
  exact ⟨written ++ writtenNext, bind_eq_some.mpr ⟨_, _, findsFirst, findsNext, rfl⟩⟩

end

/-! ## What is written -/

def mapWritten (change : α → List ω → List ω') (run : Run ω α) : Run ω' α :=
  fun tokens =>
    (run tokens).map fun found => ⟨found.value, change found.value found.written, found.rest⟩

/-- Tells something about what is written. -/
def tellWritten (view : List ω → β) (run : Run ω α) : Run ω β :=
  fun tokens =>
    (run tokens).map fun found => ⟨view found.written, found.written, found.rest⟩

/-- Writes the tokens as they stand if the run says so. -/
def asItStandsIf (run : Run CodeToken Bool) : Run CodeToken Unit :=
  fun tokens => (run tokens).map fun found =>
    let raw := tokens.take (tokens.length - found.rest.length)
    ⟨(), if found.value then raw else found.written, found.rest⟩

section

variable {run more : Run ω α} {change : α → List ω → List ω'}

theorem Within.mapWritten (within : run.Within more) :
    (run.mapWritten change).Within (more.mapWritten change) := by
  intro tokens found reads
  obtain ⟨before, readsRun, same⟩ := Option.map_eq_some_iff.mp reads
  exact Option.map_eq_some_iff.mpr ⟨before, within _ _ readsRun, same⟩

theorem Within.tellWritten {view : List ω → β} (within : run.Within more) :
    (run.tellWritten view).Within (more.tellWritten view) := by
  intro tokens found reads
  obtain ⟨before, readsRun, same⟩ := Option.map_eq_some_iff.mp reads
  exact Option.map_eq_some_iff.mpr ⟨before, within _ _ readsRun, same⟩

theorem WithinAngle.mapWritten (within : run.WithinAngle more) :
    (run.mapWritten change).WithinAngle (more.mapWritten change) := by
  intro tokens found reads
  obtain ⟨before, readsRun, rfl⟩ := Option.map_eq_some_iff.mp reads
  obtain ⟨takes, finds⟩ := within _ _ readsRun
  refine ⟨takes, fun isJoined => ?_⟩
  obtain ⟨written, finds⟩ := finds isJoined
  exact ⟨_, Option.map_eq_some_iff.mpr ⟨_, finds, rfl⟩⟩

end

theorem Within.asItStandsIf {run more : Run CodeToken Bool} (within : run.Within more) :
    run.asItStandsIf.Within more.asItStandsIf := by
  intro tokens found reads
  obtain ⟨before, readsRun, same⟩ := Option.map_eq_some_iff.mp reads
  exact Option.map_eq_some_iff.mpr ⟨before, within _ _ readsRun, same⟩

theorem WithinAngle.asItStandsIf {run more : Run CodeToken Bool} (within : run.WithinAngle more) :
    run.asItStandsIf.WithinAngle more.asItStandsIf := by
  intro tokens found reads
  obtain ⟨before, readsRun, rfl⟩ := Option.map_eq_some_iff.mp reads
  obtain ⟨takes, finds⟩ := within _ _ readsRun
  refine ⟨takes, fun isJoined => ?_⟩
  obtain ⟨written, finds⟩ := finds isJoined
  exact ⟨_, Option.map_eq_some_iff.mpr ⟨_, finds, rfl⟩⟩

/-! ## Looking ahead -/

/-- What can be seen of the tokens. -/
def look (view : List CodeToken → α) : Run ω α :=
  fun tokens => some ⟨view tokens, [], tokens⟩

/-- Whether one of some marks comes next, which may be `>`. Something has to. -/
def nextCloses (marks : List Char) : Run ω Bool
  | [] => none
  | token :: rest =>
    some ⟨marks.any fun mark => startsWith [mark] (token :: rest), [], token :: rest⟩

/-- What is found after the next `count` tokens, without taking any. -/
def later (count : Nat) (run : Run ω α) : Run ω α :=
  fun tokens => (run (tokens.drop count)).map fun found => ⟨found.value, [], tokens⟩

/-- What `first` finds, or what `second` finds in its place if `peek` says so about the tokens after
it. -/
def unlessFollowed (first : Run ω α) (peek : Run ω Bool) (second : Run ω α) : Run ω α :=
  fun tokens => do
    let found ← first tokens
    let isFollowed ← peek found.rest
    if isFollowed.value then second tokens else return found

theorem withinAngle_look {view : List CodeToken → α}
    (same : ∀ isJoined tokens, view (beforeAngle isJoined tokens) = view tokens) :
    (look view : Run ω α).WithinAngle (look view) := by
  rintro tokens found ⟨⟩
  exact ⟨.refl, fun isJoined => ⟨[], by rw [look, same]⟩⟩

theorem withinAngle_nextCloses {marks : List Char} :
    (nextCloses marks : Run ω Bool).WithinAngle (nextCloses marks) := by
  intro tokens found reads
  match tokens with
  | token :: rest =>
    cases reads
    refine ⟨.refl, fun isJoined => ⟨[], ?_⟩⟩
    have same (mark : Char) :
        startsWith [mark] (beforeAngle isJoined (token :: rest)) =
          startsWith [mark] (token :: rest) :=
      startsWith_singleton_beforeAngle_cons
    simp only [← same]
    rfl

section

variable {run more : Run ω α} {count : Nat}

theorem Within.later (within : run.Within more) : (run.later count).Within (more.later count) := by
  intro tokens found reads
  obtain ⟨seen, sees, same⟩ := Option.map_eq_some_iff.mp reads
  exact Option.map_eq_some_iff.mpr ⟨seen, within _ _ sees, same⟩

/-- Far ahead, there is nothing with and without `>`. -/
theorem WithinAngle.later (within : run.Within more) (withinAngle : run.WithinAngle more) :
    (run.later count).WithinAngle (more.later count) := by
  intro tokens found reads
  obtain ⟨seen, sees, rfl⟩ := Option.map_eq_some_iff.mp reads
  refine ⟨.refl, fun isJoined => ⟨[], Option.map_eq_some_iff.mpr ?_⟩⟩
  by_cases isNear : count ≤ tokens.length
  · obtain ⟨written, finds⟩ := (withinAngle _ _ sees).2 isJoined
    rw [drop_beforeAngle isNear]
    exact ⟨_, finds, rfl⟩
  · rw [Nat.not_le] at isNear
    rw [List.drop_of_length_le (Nat.le_of_lt isNear)] at sees
    rw [List.drop_of_length_le (length_beforeAngle ▸ isNear)]
    exact ⟨seen, within _ _ sees, rfl⟩

end

section

variable {first first' second second' : Run ω α} {peek peek' : Run ω Bool}

theorem unlessFollowed_eq_some {tokens : List CodeToken} {found : Found ω α} :
    first.unlessFollowed peek second tokens = some found ↔
      ∃ before seen, first tokens = some before ∧ peek before.rest = some seen ∧
        (if seen.value then second tokens else some before) = some found := by
  simp [unlessFollowed, Option.bind_eq_some_iff]

theorem Within.unlessFollowed (within : first.Within first') (withinPeek : peek.Within peek')
    (withinSecond : second.Within second') :
    (first.unlessFollowed peek second).Within (first'.unlessFollowed peek' second') := by
  intro tokens found reads
  obtain ⟨before, seen, reads, sees, same⟩ := unlessFollowed_eq_some.mp reads
  refine unlessFollowed_eq_some.mpr
    ⟨before, seen, within _ _ reads, withinPeek _ _ sees, ?_⟩
  cases isFollowed : seen.value <;> rw [isFollowed] at same
  · exact same
  · exact withinSecond _ _ same

theorem WithinAngle.unlessFollowed (within : first.WithinAngle first')
    (withinPeek : peek.WithinAngle peek') (withinSecond : second.WithinAngle second') :
    (first.unlessFollowed peek second).WithinAngle (first'.unlessFollowed peek' second') := by
  intro tokens found reads
  obtain ⟨before, seen, reads, sees, same⟩ := unlessFollowed_eq_some.mp reads
  obtain ⟨takes, finds⟩ := within _ _ reads
  obtain ⟨_, seesAngle⟩ := withinPeek _ _ sees
  cases isFollowed : seen.value with
  | false =>
    rw [isFollowed] at same
    cases same
    refine ⟨takes, fun isJoined => ?_⟩
    obtain ⟨written, finds⟩ := finds isJoined
    obtain ⟨_, sees⟩ := seesAngle isJoined
    exact ⟨written, unlessFollowed_eq_some.mpr ⟨_, _, finds, sees, by rw [isFollowed]; rfl⟩⟩
  | true =>
    rw [isFollowed] at same
    obtain ⟨takesSecond, findsSecond⟩ := withinSecond _ _ same
    refine ⟨takesSecond, fun isJoined => ?_⟩
    obtain ⟨_, finds⟩ := finds isJoined
    obtain ⟨_, sees⟩ := seesAngle isJoined
    obtain ⟨written, findsSecond⟩ := findsSecond isJoined
    exact ⟨written, unlessFollowed_eq_some.mpr
      ⟨_, _, finds, sees, by rw [isFollowed]; exact findsSecond⟩⟩

end

/-! ## Repetition -/

/-- Repeats a step from a state on while it says so, `count` times at most. -/
def iterateUpTo (step : σ → Run ω (ForInStep σ)) : Nat → σ → Run ω σ
  | 0, _ => fun _ => none
  | count + 1, state => (step state).bind fun next =>
    match next with
    | .done state => done state []
    | .yield state => iterateUpTo step count state

/-- Repeats a step from a state on while it says so. Each time takes a token, so the number of
tokens is enough. -/
def iterate (step : σ → Run ω (ForInStep σ)) (state : σ) : Run ω σ :=
  fun tokens => iterateUpTo step (tokens.length + 1) state tokens

section

variable {step more : σ → Run ω (ForInStep σ)} {count : Nat} {state : σ}

theorem Within.iterateUpTo (within : ∀ state, (step state).Within (more state)) :
    (Run.iterateUpTo step count state).Within (Run.iterateUpTo more count state) := by
  induction count generalizing state with
  | zero => nofun
  | succ count induction =>
    refine (within state).bind fun next => ?_
    cases next with
    | done state => exact fun _ _ => id
    | yield state => exact induction

theorem WithinAngle.iterateUpTo (within : ∀ state, (step state).WithinAngle (more state)) :
    (Run.iterateUpTo step count state).WithinAngle (Run.iterateUpTo more count state) := by
  induction count generalizing state with
  | zero => nofun
  | succ count induction =>
    refine (within state).bind fun next => ?_
    cases next with
    | done state => exact withinAngle_done
    | yield state => exact induction

/-- More repetitions are no hindrance. -/
theorem within_iterateUpTo_succ :
    (iterateUpTo step count state).Within (iterateUpTo step (count + 1) state) := by
  induction count generalizing state with
  | zero => nofun
  | succ count induction =>
    refine Within.bind (fun _ _ => id) fun next => ?_
    cases next with
    | done state => exact fun _ _ => id
    | yield state => exact induction

theorem Within.iterate (within : ∀ state, (step state).Within (more state)) :
    (Run.iterate step state).Within (Run.iterate more state) :=
  fun tokens => Within.iterateUpTo within tokens

theorem WithinAngle.iterate (within : ∀ state, (step state).WithinAngle (more state)) :
    (Run.iterate step state).WithinAngle (Run.iterate more state) := by
  intro tokens found reads
  obtain ⟨takes, finds⟩ := WithinAngle.iterateUpTo within _ _ reads
  refine ⟨takes, fun isJoined => ?_⟩
  obtain ⟨written, finds⟩ := finds isJoined
  refine ⟨written, ?_⟩
  rw [Run.iterate, length_beforeAngle]
  exact within_iterateUpTo_succ _ _ finds

end

/-! ## Single tokens -/

/-- Takes a token that is no mark, and may say something about it. -/
def take (view : CodeToken → Option α) : Run CodeToken α
  | token :: rest => (view token).map fun value => ⟨value, [token], rest⟩
  | [] => none

/-- Takes the tokens of a literal or of a lifetime. -/
def taken (split : List CodeToken → Option (List CodeToken × List CodeToken)) :
    Run CodeToken Unit :=
  fun tokens => (split tokens).map fun (written, rest) => ⟨(), written, rest⟩

/-- Takes an operator, out of a longer one if need be. -/
def operator (chars : List Char) (written : List ω) : Run ω Unit :=
  fun tokens =>
    if startsWith chars tokens then some ⟨(), written, tokens.drop chars.length⟩ else none

theorem withinAngle_take {view : CodeToken → Option α}
    (noMark : ∀ char isJoined, view (.mark char isJoined) = none) :
    (take view).WithinAngle (take view) := by
  intro tokens found reads
  match tokens with
  | [] => cases reads
  | token :: rest =>
    obtain ⟨value, seen, rfl⟩ := Option.map_eq_some_iff.mp reads
    have same (isJoined : Bool) : lastBeforeAngle isJoined token = token := by
      cases token with
      | mark char _ => rw [noMark] at seen; cases seen
      | _ => rfl
    refine ⟨.single fun isJoined isMinus => ?_, fun isJoined => ⟨[token], ?_⟩⟩
    · rw [isMinus, noMark] at seen
      cases seen
    · rw [beforeAngle_cons (same isJoined), take, seen]
      rfl

theorem withinAngle_taken {split : List CodeToken → Option (List CodeToken × List CodeToken)}
    (takes : ∀ {tokens written rest}, split tokens = some (written, rest) → Takes tokens rest)
    (same : ∀ {isJoined tokens}, split (beforeAngle isJoined tokens) =
      (split tokens).map (Prod.map id (beforeAngle isJoined))) :
    (taken split).WithinAngle (taken split) := by
  intro tokens found reads
  obtain ⟨⟨written, rest⟩, splits, rfl⟩ := Option.map_eq_some_iff.mp reads
  exact ⟨takes splits, fun isJoined => ⟨written, by rw [taken, same, splits]; rfl⟩⟩

/-- An operator is taken also from before `>`, if it is not the beginning of an arrow. -/
theorem withinAngle_operator {chars : List Char} {written : List ω}
    (noMinus : chars.getLast? ≠ some '-') :
    (operator chars written).WithinAngle (operator chars written) := by
  intro tokens found reads
  obtain ⟨starts, same⟩ := Option.ite_none_right_eq_some.mp reads
  cases same
  have within := length_le_of_startsWith starts
  obtain ⟨last, wasJoined, isLast, taken⟩ := getLast?_take_of_startsWith starts
  refine ⟨⟨tokens.take chars.length, (List.take_append_drop _ _).symm, fun isJoined same => ?_⟩,
    fun isJoined => ⟨written, ?_⟩⟩
  · rw [taken] at same
    cases same
    exact noMinus isLast
  · rw [operator, if_pos (startsWith_beforeAngle_of_startsWith starts), drop_beforeAngle within]

/-! ## Groups -/

/-- The delimiters that are open after a token, innermost first. -/
def openAfter : CodeToken → List Delimiter → Option (List Delimiter)
  | .opening found, pending => some (found :: pending)
  | .closing found, first :: pending => if found = first then some pending else none
  | .closing _, [] => none
  | _, pending => some pending

/-- The front of a list of tokens up to where the delimiters that are open are closed, and the
tokens after it. -/
def splitGroup : List Delimiter → List CodeToken → Option (List CodeToken × List CodeToken)
  | [], tokens => some ([], tokens)
  | _ :: _, [] => none
  | first :: pending, token :: tokens => do
    let pending ← openAfter token (first :: pending)
    let (front, rest) ← splitGroup pending tokens
    return (token :: front, rest)

/-- The group at the front of some tokens: its delimiter, its tokens after the first, and what
follows. -/
def firstGroup? : List CodeToken → Option (Delimiter × List CodeToken × List CodeToken)
  | .opening delimiter :: tokens => (splitGroup [delimiter] tokens).map fun split =>
    (delimiter, split)
  | _ => none

/-- What stands between delimiters, all of which has to be read. -/
def between (delimiter : Delimiter) (run : Run CodeToken α) : Run CodeToken α :=
  fun tokens => do
    let (found, inside, rest) ← firstGroup? tokens
    let content ← run inside.dropLast
    if found = delimiter ∧ content.rest = [] then
      return ⟨content.value, CodeToken.group delimiter content.written, rest⟩
    else none

/-- A group of any tokens between delimiters, written as they are. -/
def group : Run CodeToken Unit :=
  fun tokens => (firstGroup? tokens).map fun (delimiter, inside, rest) =>
    ⟨(), .opening delimiter :: inside, rest⟩

/-- The token that closes the last delimiter. -/
theorem exists_closing_of_openAfter {token : CodeToken} {first : Delimiter}
    {pending : List Delimiter} (closes : openAfter token (first :: pending) = some []) :
    token = .closing first := by
  cases token with
  | closing found =>
    obtain ⟨rfl, _⟩ := Option.ite_none_right_eq_some.mp closes
    rfl
  | _ => cases closes

theorem splitGroup_cons_eq_some {first : Delimiter} {pending : List Delimiter}
    {tokens front rest : List CodeToken}
    (found : splitGroup (first :: pending) tokens = some (front, rest)) :
    tokens = front ++ rest ∧ (∃ delimiter, front.getLast? = some (.closing delimiter)) ∧
      ∀ isJoined, splitGroup (first :: pending) (beforeAngle isJoined tokens) =
        some (front, beforeAngle isJoined rest) := by
  induction tokens generalizing first pending front rest with
  | nil => cases found
  | cons token tokens induction =>
    simp only [splitGroup, Option.bind_eq_bind, Option.bind_eq_some_iff, Prod.exists] at found
    obtain ⟨after, opens, front, rest, splits, same⟩ := found
    cases same
    cases after with
    | nil =>
      rw [splitGroup] at splits
      cases splits
      obtain rfl := exists_closing_of_openAfter opens
      refine ⟨rfl, ⟨first, rfl⟩, fun isJoined => ?_⟩
      rw [beforeAngle_cons rfl, splitGroup, opens, Option.bind_eq_bind, Option.bind_some, splitGroup]
      rfl
    | cons next pending =>
      obtain ⟨same, ⟨delimiter, last⟩, splitsAngle⟩ := induction splits
      refine ⟨congrArg (token :: ·) same, ⟨delimiter, ?_⟩, fun isJoined => ?_⟩
      · rw [List.getLast?_cons, last]
        rfl
      · cases tokens with
        | nil => cases splits
        | cons second tokens =>
          rw [beforeAngle_cons_cons, splitGroup, opens, Option.bind_eq_bind, Option.bind_some,
            splitsAngle]
          rfl

theorem firstGroup?_eq_some {tokens inside rest : List CodeToken} {delimiter : Delimiter}
    (found : firstGroup? tokens = some (delimiter, inside, rest)) :
    Takes tokens rest ∧ ∀ isJoined, firstGroup? (beforeAngle isJoined tokens) =
      some (delimiter, inside, beforeAngle isJoined rest) := by
  match tokens with
  | .opening first :: tokens =>
    obtain ⟨split, splits, same⟩ := Option.map_eq_some_iff.mp found
    cases same
    obtain ⟨same, ⟨closing, last⟩, splitsAngle⟩ := splitGroup_cons_eq_some splits
    refine ⟨⟨.opening delimiter :: inside, congrArg _ same, fun isJoined isMinus => ?_⟩,
      fun isJoined => ?_⟩
    · rw [List.getLast?_cons, last] at isMinus
      cases isMinus
    · rw [beforeAngle_cons rfl, firstGroup?, splitsAngle]
      rfl

section

variable {run more : Run CodeToken α} {delimiter : Delimiter}

theorem between_eq_some {tokens : List CodeToken} {found : Found CodeToken α} :
    between delimiter run tokens = some found ↔ ∃ inside rest content,
      firstGroup? tokens = some (delimiter, inside, rest) ∧ run inside.dropLast = some content ∧
        content.rest = [] ∧
        (⟨content.value, CodeToken.group delimiter content.written, rest⟩ : Found _ _) = found := by
  simp only [between, Option.bind_eq_bind, Option.bind_eq_some_iff, Prod.exists,
    Option.ite_none_right_eq_some]
  constructor
  · rintro ⟨_, inside, rest, group, content, reads, ⟨rfl, ends⟩, same⟩
    exact ⟨inside, rest, content, group, reads, ends, Option.some.inj same⟩
  · rintro ⟨inside, rest, content, group, reads, ends, same⟩
    exact ⟨delimiter, inside, rest, group, content, reads, ⟨rfl, ends⟩, congrArg some same⟩

theorem Within.between (within : run.Within more) :
    (Run.between delimiter run).Within (Run.between delimiter more) := by
  intro tokens found reads
  obtain ⟨inside, rest, content, group, reads, same⟩ := between_eq_some.mp reads
  exact between_eq_some.mpr ⟨inside, rest, content, group, within _ _ reads, same⟩

/-- What stands between delimiters is the same with and without `>` after them. -/
theorem WithinAngle.between (within : run.Within more) :
    (Run.between delimiter run).WithinAngle (Run.between delimiter more) := by
  intro tokens found reads
  obtain ⟨inside, rest, content, group, readsContent, ends, rfl⟩ := between_eq_some.mp reads
  obtain ⟨takes, groupAngle⟩ := firstGroup?_eq_some group
  exact ⟨takes, fun isJoined => ⟨_, between_eq_some.mpr
    ⟨inside, _, content, groupAngle isJoined, within _ _ readsContent, ends, rfl⟩⟩⟩

end

theorem withinAngle_group : group.WithinAngle group := by
  intro tokens found reads
  obtain ⟨⟨delimiter, inside, rest⟩, split, rfl⟩ := Option.map_eq_some_iff.mp reads
  obtain ⟨takes, splitAngle⟩ := firstGroup?_eq_some split
  exact ⟨takes, fun isJoined => ⟨_, Option.map_eq_some_iff.mpr ⟨_, splitAngle isJoined, rfl⟩⟩⟩

/-! ## Alternatives -/

/-- What the first run finds, or the second where the first refuses. -/
def orElse (first second : Run ω α) : Run ω α :=
  fun tokens => (first tokens).orElse fun _ => second tokens

theorem Within.orElse {first second more : Run ω α} (within : second.Within more) :
    (first.orElse second).Within (first.orElse more) := by
  intro tokens found reads
  unfold Run.orElse at reads ⊢
  generalize first tokens = outcome at reads ⊢
  cases outcome with
  | none => exact within _ _ reads
  | some before => exact reads

end Run

end SqlSchema.CodeGrammar
