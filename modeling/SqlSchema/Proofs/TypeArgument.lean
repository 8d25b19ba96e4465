import SqlSchema.Code.Grammar.Level

/-!
A type as an argument: the tokens of a type can stand between `Option <` and `>`, also where the
last of them is joined to the `>`.
-/

namespace SqlSchema.CodeGrammar

variable {scope : Scope} {ω ω' α β σ : Type} {inner : Inner} {tokens rest : List CodeToken}

/-! ## What a reader finds -/

/-- Whether a reader takes some tokens up to `rest`, whatever it writes for them. -/
def ReaderOf.Finds (reader : ReaderOf scope ω α) (inner : Inner) (tokens : List CodeToken)
    (value : α) (rest : List CodeToken) : Prop :=
  ∃ written, reader.run inner tokens = some ⟨value, written, rest⟩

@[simp]
theorem finds_pure {value found : α} :
    (pure value : ReaderOf scope ω α).Finds inner tokens found rest ↔
      found = value ∧ rest = tokens := by
  constructor
  · rintro ⟨written, ⟨⟩⟩
    exact ⟨rfl, rfl⟩
  · rintro ⟨rfl, rfl⟩
    exact ⟨[], rfl⟩

theorem ReaderOf.run_bind {first : ReaderOf scope ω α} {next : α → ReaderOf scope ω β} :
    (first >>= next).run inner tokens =
      (first.run inner).bind (fun value => (next value).run inner) tokens :=
  rfl

@[simp]
theorem finds_bind {first : ReaderOf scope ω α} {next : α → ReaderOf scope ω β} {value : β} :
    (first >>= next).Finds inner tokens value rest ↔ ∃ before after,
      first.Finds inner tokens before after ∧ (next before).Finds inner after value rest := by
  constructor
  · rintro ⟨written, reads⟩
    rw [ReaderOf.run_bind] at reads
    obtain ⟨before, second, readsFirst, readsNext, ⟨⟩⟩ := Run.bind_eq_some.mp reads
    exact ⟨before.value, before.rest, ⟨_, readsFirst⟩, ⟨_, readsNext⟩⟩
  · rintro ⟨before, after, ⟨written, readsFirst⟩, ⟨writtenNext, readsNext⟩⟩
    refine ⟨written ++ writtenNext, ?_⟩
    rw [ReaderOf.run_bind]
    exact Run.bind_eq_some.mpr ⟨_, _, readsFirst, readsNext, rfl⟩

@[simp]
theorem finds_refuse {value : α} :
    ¬ (refuse : ReaderOf scope ω α).Finds inner tokens value rest := by
  rintro ⟨written, ⟨⟩⟩

@[simp]
theorem finds_look {view : List CodeToken → α} {value : α}
    {same : scope = .anywhere → ∀ isJoined tokens,
      view (beforeAngle isJoined tokens) = view tokens} :
    (look view same : ReaderOf scope ω α).Finds inner tokens value rest ↔
      value = view tokens ∧ rest = tokens := by
  constructor
  · rintro ⟨written, ⟨⟩⟩
    exact ⟨rfl, rfl⟩
  · rintro ⟨rfl, rfl⟩
    exact ⟨[], rfl⟩

@[simp]
theorem finds_mapWritten {change : α → List ω → List ω'} {reader : ReaderOf scope ω α} {value : α} :
    (mapWritten change reader).Finds inner tokens value rest ↔
      reader.Finds inner tokens value rest := by
  constructor
  · rintro ⟨written, reads⟩
    obtain ⟨found, readsHere, same⟩ := Option.map_eq_some_iff.mp reads
    cases same
    exact ⟨_, readsHere⟩
  · rintro ⟨written, reads⟩
    exact ⟨_, Option.map_eq_some_iff.mpr ⟨_, reads, rfl⟩⟩

@[simp]
theorem finds_later {count : Nat} {peek : Peek scope} {value : Bool} :
    (later count peek).Finds inner tokens value rest ↔
      (∃ after, peek.Finds inner (tokens.drop count) value after) ∧ rest = tokens := by
  constructor
  · rintro ⟨written, reads⟩
    obtain ⟨found, sees, same⟩ := Option.map_eq_some_iff.mp reads
    cases same
    exact ⟨⟨_, _, sees⟩, rfl⟩
  · rintro ⟨⟨after, written, sees⟩, rfl⟩
    exact ⟨_, Option.map_eq_some_iff.mpr ⟨_, sees, rfl⟩⟩

/-- Something has to come next where an argument may end. -/
@[simp]
theorem finds_nextCloses {marks : List Char} {value : Bool} :
    (nextCloses marks : Peek scope).Finds inner tokens value rest ↔
      tokens ≠ [] ∧ value = (marks.any fun mark => startsWith [mark] tokens) ∧ rest = tokens := by
  cases tokens <;>
    simp [ReaderOf.Finds, nextCloses, ReaderOf.ofRun, Run.nextCloses, eq_comm]

@[simp]
theorem finds_word {value : Unit} :
    (word : Reader scope).Finds inner tokens value rest ↔ ∃ text, tokens = .word text :: rest := by
  cases tokens with
  | nil => simp [ReaderOf.Finds, word, ReaderOf.ofRun, Run.take]
  | cons token tokens => 
    cases token <;> simp [ReaderOf.Finds, word, ReaderOf.ofRun, Run.take]

@[simp]
theorem finds_ofRun_operator {chars : List Char} {written : List ω} {value : Unit}
    {same : scope = .anywhere → (Run.operator chars written).WithinAngle (.operator chars written)} :
    (ReaderOf.ofRun (.operator chars written) same).Finds inner tokens value rest ↔
      startsWith chars tokens = true ∧ rest = tokens.drop chars.length := by
  simp only [ReaderOf.Finds, ReaderOf.ofRun, Run.operator, Option.ite_none_right_eq_some,
    Option.some_inj, Found.mk.injEq, true_and, exists_and_left, exists_eq_left']
  rw [eq_comm (a := rest)]

theorem ReaderOf.run_iterate {step : σ → ReaderOf scope ω (ForInStep σ)} {state : σ} :
    (iterate step state).run inner tokens =
      ((step state).run inner).bind (fun next =>
        match next with
        | .done state => .done state []
        | .yield state =>
          .iterateUpTo (fun state => (step state).run inner) tokens.length state) tokens :=
  rfl

/-- The first step may be the last. -/
theorem finds_iterate_of_done {step : σ → ReaderOf scope ω (ForInStep σ)} {state value : σ}
    (done : (step state).Finds inner tokens (.done value) rest) :
    (iterate step state).Finds inner tokens value rest := by
  obtain ⟨written, reads⟩ := done
  refine ⟨written ++ [], ?_⟩
  rw [ReaderOf.run_iterate]
  exact Run.bind_eq_some.mpr ⟨_, _, reads, rfl, rfl⟩

/-- There is a first step, after which nothing is found if it is the last. -/
theorem exists_of_finds_iterate {step : σ → ReaderOf scope ω (ForInStep σ)} {state value : σ}
    (finds : (iterate step state).Finds inner tokens value rest) :
    ∃ next after, (step state).Finds inner tokens next after ∧
      ∀ last, next = .done last → value = last ∧ rest = after := by
  obtain ⟨written, reads⟩ := finds
  rw [ReaderOf.run_iterate] at reads
  obtain ⟨before, second, readsFirst, readsNext, same⟩ := Run.bind_eq_some.mp reads
  refine ⟨before.value, before.rest, ⟨_, readsFirst⟩, fun last isDone => ?_⟩
  rw [isDone] at readsNext
  cases readsNext
  cases same
  exact ⟨rfl, rfl⟩

/-! ## All levels -/

/-- Deeper levels find whatever higher ones find. -/
theorem levelUpTo_within {depth more : Nat} (le : depth ≤ more) :
    (levelUpTo depth).Within (levelUpTo more) := by
  induction depth generalizing more with
  | zero => exact fun _ _ _ => nofun
  | succ depth induction =>
    obtain ⟨more, rfl⟩ := Nat.exists_eq_add_of_lt le
    intro construct
    exact (levelOf construct).within (induction (Nat.le_of_succ_le_succ le))

/-- Deeper levels find whatever higher ones find also before `>`. -/
theorem levelUpTo_withinAngle {depth more : Nat} (le : depth ≤ more) :
    (levelUpTo depth).WithinAngle (levelUpTo more) := by
  refine ⟨levelUpTo_within le, ?_⟩
  induction depth generalizing more with
  | zero => exact fun _ _ _ _ => nofun
  | succ depth induction =>
    obtain ⟨more, rfl⟩ := Nat.exists_eq_add_of_lt le
    have le := Nat.le_of_succ_le_succ le
    exact fun construct isAnywhere =>
      (levelOf construct).withinAngle isAnywhere ⟨levelUpTo_within le, induction le⟩

/-! ## The first tokens of a type -/

section

attribute [local simp] typeOf otherType operator nextIs nextIsOneOf nextIsWord nextIsWordOf nextIsWordThat
  nextSatisfies nextIsOpening nextIsPath nextIsName nextIsLifetime startsWith_cons_cons and_assoc

variable {shape : TypeShape}

/-- The marks that a type may begin with. -/
def typeMarks : List Char :=
  [':', '<', '*', '&', '!', '\'']

theorem splitLifetime_cons_of_ne {token : CodeToken} (noQuote : token ≠ .mark '\'' true) :
    splitLifetime (token :: tokens) = none := by
  match token, tokens with
  | .mark quote isJoined, .word name :: tokens =>
    refine if_neg fun ⟨isQuote, joins⟩ => noQuote ?_
    rw [isQuote, joins]
  | .mark _ _, [] | .mark _ _, .mark _ _ :: _ | .mark _ _, .literal _ :: _
  | .mark _ _, .opening _ :: _ | .mark _ _, .closing _ :: _ => rfl
  | .word _, _ | .literal _, _ | .opening _, _ | .closing _, _ => rfl

theorem not_finds_typeOf_mark {char : Char} {isJoined : Bool} (other : char ∉ typeMarks) :
    ¬ (typeOf true : ReaderOf scope _ _).Finds inner (.mark char isJoined :: tokens) shape rest := by
  simp only [typeMarks, List.mem_cons, not_or, List.not_mem_nil, not_false_eq_true, and_true]
    at other
  simp [other, splitLifetime_cons_of_ne]

theorem not_finds_typeOf_nil :
    ¬ (typeOf true : ReaderOf scope _ _).Finds inner [] shape rest := by
  simp [splitLifetime]

/-- A constant is no type. -/
theorem not_finds_typeOf_constant
    (isConstant : (splitLiteral tokens).isSome ∨ tokens.head? = some (.opening .brace)) :
    ¬ (typeOf true : ReaderOf scope _ _).Finds inner tokens shape rest := by
  match tokens with
  | [] => exact not_finds_typeOf_nil
  | .literal text :: tokens | .closing delimiter :: tokens => simp [splitLifetime_cons_of_ne]
  | .opening delimiter :: tokens =>
    obtain rfl : delimiter = .brace := by simpa [splitLiteral] using isConstant
    simp [splitLifetime_cons_of_ne]
  | .word text :: tokens =>
    have isTruth : text = "true" ∨ text = "false" := by
      simpa [splitLiteral, Option.isSome_ite] using isConstant
    obtain rfl | rfl := isTruth <;>
      simp [splitLifetime_cons_of_ne, isName, Identifier.keywords, Identifier.pathKeywords]
  | .mark sign isJoined :: tokens =>
    have isMinus : sign = '-' := by
      cases tokens with
      | nil => simp [splitLiteral] at isConstant
      | cons token tokens => 
        cases token <;> simp [splitLiteral, Option.isSome_ite] at isConstant
        exact isConstant.1
    exact not_finds_typeOf_mark (by rw [isMinus]; decide)

theorem finds_lifetime {value : Unit} :
    (lifetime : Reader scope).Finds inner tokens value rest ↔
      ∃ written, splitLifetime tokens = some (written, rest) := by
  simp [ReaderOf.Finds, lifetime, ReaderOf.ofRun, Run.taken]

/-- A type that begins with a lifetime consists of bounds, of which another one is a trait. -/
theorem startsWith_plus_of_finds_typeOf
    (finds : (typeOf true : ReaderOf scope _ _).Finds inner tokens shape rest)
    (isLifetime : (splitLifetime tokens).isSome) :
    startsWith ['+'] (tokens.drop 2) = true := by
  match tokens with
  | .mark quote isJoined :: .word name :: tokens =>
    obtain ⟨rfl, rfl⟩ : quote = '\'' ∧ isJoined = true := by
      simpa [splitLifetime, Option.isSome_ite] using isLifetime
    have findsMore : (moreBounds .object false : Peek scope).Finds inner tokens true rest := by
      simp [splitLifetime, traitBounds, bounds, bound, finds_lifetime] at finds
      exact finds.1
    cases plus : startsWith ['+'] tokens with
    | true => exact plus
    | false =>
      obtain ⟨next, after, findsStep, isLast⟩ := exists_of_finds_iterate findsMore
      simp [plus] at findsStep
      cases (isLast false findsStep.1).1

theorem finds_unlessFollowed {first second : Reader scope} {peek : Peek scope} {value : Unit}
    (finds : first.Finds inner tokens value rest) (sees : peek.Finds inner rest false rest) :
    (unlessFollowed first peek second).Finds inner tokens value rest := by
  obtain ⟨written, reads⟩ := finds
  obtain ⟨_, sees⟩ := sees
  exact ⟨written, Run.unlessFollowed_eq_some.mpr ⟨_, _, reads, sees, rfl⟩⟩

/-- The tokens of a type are an argument, and not the name of an associated type. -/
theorem finds_argumentOf {isJoined : Bool}
    (finds : (typeOf true : ReaderOf scope _ _).Finds inner tokens shape rest)
    (findsInner :
      (Inner.type true : ReaderOf scope _ _).Finds inner tokens shape [.mark '>' isJoined]) :
    (argumentOf : Peek scope).Finds inner tokens false [.mark '>' isJoined] := by
  have notConstant := mt not_finds_typeOf_constant (not_not_intro finds)
  rw [not_or] at notConstant
  have notLifetime :
      ¬ ((splitLifetime tokens).isSome = true ∧ startsWith ['+'] (tokens.drop 2) = false) := by
    rintro ⟨isLifetime, noPlus⟩
    rw [startsWith_plus_of_finds_typeOf finds isLifetime] at noPlus
    cases noPlus
  have findsTokens :
      (unlessFollowed (Inner.typeTokens true) (nextIsOneOf ["=", ":"]) binding :
        Reader scope).Finds inner tokens () [.mark '>' isJoined] := by
    refine finds_unlessFollowed ?_ (by simp)
    simp [Inner.typeTokens]
    exact ⟨_, findsInner⟩
  have noBrace : (tokens.head?.any fun token => token == .opening .brace) = false := by
    cases first : tokens.head? with
    | none => rfl
    | some token => simpa [first] using notConstant.2
  simp only [nextIsOneOf] at findsTokens
  simp [argumentOf, nextIsConstant, nextIsLiteral, notLifetime, notConstant, noBrace]
  refine ⟨⟨(), by simpa using findsTokens⟩, ?_⟩
  simpa using notLifetime

/-! ## Arguments of a path -/

/-- A single argument between angle brackets. -/
theorem finds_argumentsInAngles {argument : Peek scope} {isLifetime opens isJoined : Bool}
    (notEmpty : tokens ≠ []) (notAngle : startsWith ['>'] tokens = false)
    (finds : argument.Finds inner tokens isLifetime (.mark '>' isJoined :: rest)) :
    (argumentsInAngles argument).Finds inner (.mark '<' opens :: tokens) () rest := by
  have findsArguments : (argumentsUntilAngle argument).Finds inner tokens false
      (.mark '>' isJoined :: rest) := by
    refine finds_iterate_of_done ?_
    simp [silently, notEmpty, notAngle, -Bool.exists_bool]
    exact ⟨_, _, finds, by simp⟩
  simp [argumentsInAngles, -Bool.exists_bool]
  exact ⟨_, _, findsArguments, by simp⟩

/-- A name with an argument between angle brackets. -/
theorem finds_segment {name : String} {opens isJoined : Bool} (isName : isName name = true)
    (notModule : name ∉ moduleWords) (notEmpty : tokens ≠ [])
    (notAngle : startsWith ['>'] tokens = false) (notEquals : startsWith ['='] tokens = false)
    (notLessEquals : startsWith ['<', '='] tokens = false)
    (finds : (Inner.argument : Peek scope).Finds inner tokens false (.mark '>' isJoined :: rest)) :
    (segment false : ReaderOf scope _ _).Finds inner (.word name :: .mark '<' opens :: tokens)
      ⟨false, false⟩ rest := by
  have findsArguments : (angleArguments : Reader scope).Finds inner (.mark '<' opens :: tokens) ()
      rest := by
    simp [angleArguments, readIf]
    exact finds_argumentsInAngles notEmpty notAngle finds
  have findsAngle : (nextIsAngle false : Peek scope).Finds inner (.mark '<' opens :: tokens) true
      (.mark '<' opens :: tokens) := by
    simp [nextIsAngle, afterColons, notEquals, notLessEquals, -Bool.exists_bool]
  simp [segment, isName, notModule, -Bool.exists_bool]
  refine ⟨_, _, findsAngle, ?_⟩
  simp
  exact ⟨_, findsArguments⟩

/-! ## Optional types -/

/-- At any level, an equals sign begins no type. -/
theorem levelUpTo_equals {depth : Nat} {isJoined : Bool} :
    levelUpTo depth (.type true) (.mark '=' isJoined :: tokens) = none := by
  cases depth with
  | zero => rfl
  | succ depth =>
    refine Option.eq_none_iff_forall_ne_some.mpr fun found reads => ?_
    exact not_finds_typeOf_mark (by decide) ⟨_, reads⟩

theorem not_startsWith_of_finds_typeOf {char : Char}
    (finds : (typeOf true : ReaderOf scope _ _).Finds inner tokens shape rest)
    (other : char ∉ typeMarks) : startsWith [char] tokens = false := by
  refine Bool.eq_false_iff.mpr fun starts => ?_
  obtain ⟨isJoined, rest, rfl⟩ := exists_of_startsWith_singleton starts
  exact not_finds_typeOf_mark other finds

theorem not_startsWith_lessEquals {depth : Nat}
    (finds : (typeOf true : ReaderOf scope _ _).Finds (levelUpTo depth) tokens shape rest) :
    startsWith ['<', '='] tokens = false := by
  refine Bool.eq_false_iff.mpr fun starts => ?_
  match tokens with
  | [] => cases starts
  | token :: tokens =>
    rw [startsWith_cons_cons, Bool.and_eq_true, beq_iff_eq] at starts
    obtain ⟨rfl, starts⟩ := starts
    obtain ⟨isJoined, rest, rfl⟩ := exists_of_startsWith_singleton starts
    simp [qualifiedPath, Inner.typeTokens] at finds
    obtain ⟨⟨_, ⟨_, _, reads⟩, _⟩, _⟩ := finds
    cases levelUpTo_equals.symm.trans reads

/-- A type can stand between `Option <` and `>`. -/
theorem finds_typeOf_option {isJoined opens : Bool} {depth : Nat}
    (finds : (typeOf true : ReaderOf scope _ _).Finds (levelUpTo depth) tokens shape rest)
    (findsArgument :
      (Inner.argument : Peek scope).Finds (levelUpTo depth) tokens false [.mark '>' isJoined]) :
    (typeOf true : ReaderOf scope _ _).Finds (levelUpTo depth)
      (.word "Option" :: .mark '<' opens :: tokens) .bound [] := by
  have notEmpty : tokens ≠ [] := by
    rintro rfl
    exact not_finds_typeOf_nil finds
  have isName : isName "Option" = true := by decide +kernel
  have findsSegment : (segment false : ReaderOf scope _ _).Finds (levelUpTo depth)
      (.word "Option" :: .mark '<' opens :: tokens) ⟨false, false⟩ [] :=
    finds_segment isName (by decide +kernel) notEmpty
      (not_startsWith_of_finds_typeOf finds (by decide))
      (not_startsWith_of_finds_typeOf finds (by decide)) (not_startsWith_lessEquals finds)
      findsArgument
  have findsPath : (path false : ReaderOf scope _ _).Finds (levelUpTo depth)
      (.word "Option" :: .mark '<' opens :: tokens) ⟨false, false⟩ [] := by
    simp [path, readIf, -Bool.exists_bool]
    refine ⟨_, _, findsSegment, finds_iterate_of_done ?_⟩
    simp [afterColons]
  have findsPathType : (pathType true : ReaderOf scope _ _).Finds (levelUpTo depth)
      (.word "Option" :: .mark '<' opens :: tokens) .bound [] := by
    simp [pathType]
    exact ⟨_, _, findsPath, by simp [nextIsCall]⟩
  simpa [isName] using findsPathType

end

variable {shape : TypeShape} {written : List CodeToken}

/-- Wherever a type makes up all tokens, it also makes up those before `>`, at all deeper levels. -/
theorem exists_of_readType (reads : readType tokens = some ⟨shape, written, []⟩) (isJoined : Bool)
    {depth : Nat} (le : 3 * tokens.length + 3 ≤ depth) :
    ∃ writtenAngle, levelUpTo depth (.type true) (beforeAngle isJoined tokens) =
      some ⟨shape, writtenAngle, [.mark '>' false]⟩ :=
  (((levelUpTo_withinAngle le).withinAngle (.type true) rfl) _ _ reads).2 isJoined

/-- No type ends with a minus. -/
theorem getLast?_ne_minus_of_readType (reads : readType tokens = some ⟨shape, written, []⟩)
    (isJoined : Bool) : tokens.getLast? ≠ some (.mark '-' isJoined) := by
  obtain ⟨front, same, noMinus⟩ :=
    ((levelUpTo_withinAngle (Nat.le_refl _)).withinAngle (.type true) rfl _ _ reads).1
  rw [List.append_nil] at same
  exact same ▸ noMinus isJoined

/-- A type between `Option <` and `>` is a type. -/
theorem exists_readType_option (reads : readType tokens = some ⟨shape, written, []⟩)
    (opens isJoined : Bool) :
    ∃ writtenOption, readType (.word "Option" :: .mark '<' opens :: beforeAngle isJoined tokens) =
      some ⟨.bound, writtenOption, []⟩ := by
  obtain ⟨depth, isDepth⟩ : ∃ depth, depth = 3 * tokens.length + 10 := ⟨_, rfl⟩
  have finds (depth : Nat) (le : 3 * tokens.length + 3 ≤ depth) :=
    exists_of_readType reads isJoined le
  have findsArgument : (argumentOf : Peek .anywhere).Finds (levelUpTo depth)
      (beforeAngle isJoined tokens) false [.mark '>' false] :=
    finds_argumentOf (finds (depth + 1) (by omega)) (finds depth (by omega))
  have findsOption : (typeOf true : ReaderOf .anywhere _ _).Finds (levelUpTo (depth + 1))
      (.word "Option" :: .mark '<' opens :: beforeAngle isJoined tokens) .bound [] :=
    finds_typeOf_option (finds (depth + 2) (by omega)) findsArgument
  have isDeep : 3 * (CodeToken.word "Option" :: .mark '<' opens ::
      beforeAngle isJoined tokens).length + 3 = depth + 2 := by
    rw [List.length_cons, List.length_cons, length_beforeAngle]
    omega
  rw [readType, isDeep]
  exact findsOption

end SqlSchema.CodeGrammar
