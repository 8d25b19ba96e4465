import SqlSchema.Proofs.Name

/-!
Words of a name. In snake case a name is its ASCII letters and digits made small, with an underscore
wherever a run or a word begins; in Pascal case it is the same letters and digits without
underscores. A name that has been converted is left as it is by the same conversion.
-/

namespace SqlSchema.Name

/-- Words of small ASCII letters and digits with single underscores between them. -/
structure IsSnake (chars : List Char) : Prop where
  plain : ∀ char ∈ chars, char.isLower = true ∨ char.isDigit = true ∨ char = '_'
  head?_ne : chars.head? ≠ some '_'
  getLast?_ne : chars.getLast? ≠ some '_'
  single : ∀ front rest, chars ≠ front ++ '_' :: '_' :: rest

/-- The ASCII letters and digits of a text, made small. -/
def lowered (chars : List Char) : List Char :=
  (chars.filter Char.isAlphanum).map Char.toLower

/-- What is left of a text without its underscores. -/
def withoutUnderscores (chars : List Char) : List Char :=
  chars.filter (· ≠ '_')

/-! ## Small letters -/

theorem isLower_or_isDigit_toLower {char : Char} (alphanum : char.isAlphanum = true) :
    char.toLower.isLower = true ∨ char.toLower.isDigit = true := by
  rw [← isAlphanum_toLower, Char.isAlphanum, Char.isAlpha,
    Char.isUpper_toLower_eq_false] at alphanum
  simpa using alphanum

theorem isAlphanum_of_isLower_or_isDigit {char : Char}
    (small : char.isLower = true ∨ char.isDigit = true) : char.isAlphanum = true := by
  rcases small with isLower | isDigit
  · simp [Char.isAlphanum, Char.isAlpha, isLower]
  · simp [Char.isAlphanum, isDigit]

/-- Digits are no capitals. -/
theorem isUpper_eq_false_of_isDigit {char : Char} (isDigit : char.isDigit = true) :
    char.isUpper = false := by
  simp only [Char.isDigit, Char.isUpper, Bool.and_eq_true, decide_eq_true_eq,
    UInt32.le_iff_toNat_le] at isDigit ⊢
  simp at isDigit ⊢
  omega

theorem isUpper_eq_false_of_small {char : Char}
    (small : char.isLower = true ∨ char.isDigit = true) : char.isUpper = false := by
  rcases small with isLower | isDigit
  · exact Bool.eq_false_iff.mpr (Char.not_isUpper_of_isLower isLower)
  · exact isUpper_eq_false_of_isDigit isDigit

theorem map_toLower_of_small {chars : List Char}
    (small : ∀ char ∈ chars, char.isLower = true ∨ char.isDigit = true) :
    chars.map Char.toLower = chars := by
  refine (List.map_congr_left fun char member => ?_).trans (List.map_id chars)
  exact Char.toLower_eq_of_not_isUpper (Bool.eq_false_iff.mp
    (isUpper_eq_false_of_small (small char member)))

/-! ## Joined words -/

theorem intercalate_cons (separator word : List Char) (after : List (List Char)) :
    separator.intercalate (word :: after) = word ++ after.flatMap (separator ++ ·) := by
  induction after generalizing word with
  | nil => simp
  | cons next after induction =>
    rw [List.intercalate_cons_cons, induction, List.flatMap_cons]
    simp

/-- Words with a separator between them, seen from one of the words. -/
theorem intercalate_append_cons (separator word : List Char) (before after : List (List Char)) :
    separator.intercalate (before ++ word :: after) =
      before.flatMap (· ++ separator) ++ word ++ after.flatMap (separator ++ ·) := by
  induction before with
  | nil => simpa using intercalate_cons separator word after
  | cons first before induction =>
    obtain ⟨next, others, split⟩ : ∃ next others, before ++ word :: after = next :: others := by
      cases before <;> exact ⟨_, _, rfl⟩
    rw [List.cons_append, split, List.intercalate_cons_cons, ← split, induction]
    simp

/-- A word that may be cut in two, in the place where it is cut. -/
theorem intercalate_cut (separator left right : List Char) (cut : Bool)
    (before after : List (List Char)) :
    separator.intercalate (before ++ (if cut then [left, right] else [left ++ right]) ++ after) =
      before.flatMap (· ++ separator) ++ (left ++ (if cut then separator else []) ++ right) ++
        after.flatMap (separator ++ ·) := by
  cases cut with
  | true => simp [intercalate_append_cons]
  | false => simp [intercalate_append_cons]

theorem withoutUnderscores_append (left right : List Char) :
    withoutUnderscores (left ++ right) = withoutUnderscores left ++ withoutUnderscores right :=
  List.filter_append ..

/-- Underscores before or after words are all that is left out of them. -/
theorem withoutUnderscores_flatMap {join : List Char → List Char}
    (joined : ∀ part, withoutUnderscores (join part) = withoutUnderscores part)
    (parts : List (List Char)) :
    withoutUnderscores (parts.flatMap join) = withoutUnderscores parts.flatten := by
  induction parts with
  | nil => rfl
  | cons part parts induction =>
    rw [List.flatMap_cons, List.flatten_cons, withoutUnderscores_append, withoutUnderscores_append,
      joined, induction]

theorem withoutUnderscores_before (parts : List (List Char)) :
    withoutUnderscores (parts.flatMap (· ++ ['_'])) = withoutUnderscores parts.flatten := by
  apply withoutUnderscores_flatMap
  intro part
  rw [withoutUnderscores_append]
  exact List.append_nil _

theorem withoutUnderscores_after (parts : List (List Char)) :
    withoutUnderscores (parts.flatMap (['_'] ++ ·)) = withoutUnderscores parts.flatten := by
  apply withoutUnderscores_flatMap
  intro part
  rfl

theorem withoutUnderscores_intercalate (parts : List (List Char)) :
    withoutUnderscores (['_'].intercalate parts) = withoutUnderscores parts.flatten := by
  cases parts with
  | nil => rfl
  | cons part rest =>
    rw [intercalate_cons, List.flatten_cons, withoutUnderscores_append, withoutUnderscores_append,
      withoutUnderscores_after]

/-- Letters and digits made small have no underscore. -/
theorem withoutUnderscores_lowered (chars : List Char) :
    withoutUnderscores (lowered chars) = lowered chars := by
  apply List.filter_eq_self.mpr
  intro char member
  obtain ⟨letter, letterMember, rfl⟩ := List.mem_map.mp member
  have alphanum := (List.mem_filter.mp letterMember).2
  rw [← isAlphanum_toLower] at alphanum
  simpa using ne_underscore_of_isAlphanum alphanum

/-- Between words that are not empty there is one underscore, not two. -/
theorem intercalate_single {parts : List (List Char)} (nonempty : ∀ part ∈ parts, part ≠ [])
    (alphanum : ∀ part ∈ parts, ∀ char ∈ part, char.isAlphanum = true) :
    (['_'].intercalate parts).IsChain fun left right => left ≠ '_' ∨ right ≠ '_' := by
  have plain {part : List Char} (alphanum : ∀ char ∈ part, char.isAlphanum = true) :
      part.IsChain fun left right => left ≠ '_' ∨ right ≠ '_' := by
    induction part with
    | nil => exact .nil
    | cons char rest induction =>
      obtain ⟨isAlphanum, restAlphanum⟩ := List.forall_mem_cons.mp alphanum
      exact (induction restAlphanum).cons fun _ _ => .inl (ne_underscore_of_isAlphanum isAlphanum)
  induction parts with
  | nil => exact .nil
  | cons part rest induction =>
    obtain ⟨partNonempty, restNonempty⟩ := List.forall_mem_cons.mp nonempty
    obtain ⟨partAlphanum, restAlphanum⟩ := List.forall_mem_cons.mp alphanum
    cases rest with
    | nil => simpa using plain partAlphanum
    | cons next others =>
      have joined := isJoined_intercalate restNonempty restAlphanum
      rw [List.intercalate_cons_cons, List.append_assoc]
      refine (plain partAlphanum).append ?_ ?_
      · refine (induction restNonempty restAlphanum).cons fun first isFirst => .inr ?_
        rintro rfl
        exact joined.head?_ne isFirst
      · intro last isLast _ _
        exact .inl (ne_underscore_of_isAlphanum (partAlphanum last (List.mem_of_getLast? isLast)))

theorem isSnake_intercalate {parts : List (List Char)} (nonempty : ∀ part ∈ parts, part ≠ [])
    (small : ∀ part ∈ parts, ∀ char ∈ part, char.isLower = true ∨ char.isDigit = true) :
    IsSnake (['_'].intercalate parts) := by
  have alphanum : ∀ part ∈ parts, ∀ char ∈ part, char.isAlphanum = true :=
    fun part member char charMember =>
      isAlphanum_of_isLower_or_isDigit (small part member char charMember)
  have joined := isJoined_intercalate nonempty alphanum
  refine ⟨?_, joined.head?_ne, joined.getLast?_ne, ?_⟩
  · intro char member
    by_cases underscore : char = '_'
    · exact .inr (.inr underscore)
    · have kept : char ∈ withoutUnderscores (['_'].intercalate parts) :=
        List.mem_filter.mpr ⟨member, by simpa using underscore⟩
      rw [withoutUnderscores_intercalate] at kept
      obtain ⟨part, partMember, charMember⟩ := List.mem_flatten.mp (List.mem_filter.mp kept).1
      exact (small part partMember char charMember).imp_right .inl
  · intro front rest split
    have single := intercalate_single nonempty alphanum
    rw [split] at single
    have pair := (List.isChain_append.mp single).2.1
    simp at pair

/-! ## Pieces and words around two neighbours -/

/-- The first piece begins like the list, if that begins with no separator. -/
theorem head?_of_splitOnP {α : Type} {separates : α → Bool} {items piece : List α}
    {pieces : List (List α)} (split : items.splitOnP separates = piece :: pieces) :
    piece.head? = items.head?.filter (!separates ·) := by
  cases items with
  | nil =>
    cases split
    rfl
  | cons item rest =>
    rw [List.splitOnP_cons_eq_if_modifyHead] at split
    obtain ⟨head, tail, splitRest⟩ :=
      List.exists_cons_of_ne_nil (List.splitOnP_ne_nil separates rest)
    cases separated : separates item with
    | true =>
      rw [if_pos separated] at split
      cases split
      simp [Option.filter, separated]
    | false =>
      rw [if_neg (by simp [separated]), splitRest] at split
      cases split
      simp [Option.filter, separated]

/-- Two neighbours that are no separators stand in one piece. Before and after them the pieces have
the other items of the list. -/
theorem exists_splitOnP_neighbours {α : Type} (separates : α → Bool) {first second : α}
    (firstKept : separates first = false) (secondKept : separates second = false)
    (front rest : List α) :
    ∃ before left right after, (front ++ first :: second :: rest).splitOnP separates =
        before ++ (left ++ first :: second :: right) :: after ∧
      before.flatten ++ left = front.filter (!separates ·) ∧
      right ++ after.flatten = rest.filter (!separates ·) ∧
      right.head? = rest.head?.filter (!separates ·) := by
  induction front with
  | nil =>
    obtain ⟨right, after, split⟩ := List.exists_cons_of_ne_nil (List.splitOnP_ne_nil separates rest)
    refine ⟨[], [], right, after, ?_, rfl, ?_, head?_of_splitOnP split⟩
    · simp [List.splitOnP_cons_eq_if_modifyHead, firstKept, secondKept, split]
    · rw [← flatten_splitOnP, split, List.flatten_cons]
  | cons item front induction =>
    obtain ⟨before, left, right, after, split, frontSame, restSame, head⟩ := induction
    rw [List.cons_append, List.splitOnP_cons_eq_if_modifyHead, split, List.filter_cons]
    cases separated : separates item with
    | true =>
      exact ⟨[] :: before, left, right, after, rfl, by simpa using frontSame, restSame, head⟩
    | false =>
      cases before with
      | nil => exact ⟨[], item :: left, right, after, rfl, by simpa using frontSame, restSame, head⟩
      | cons piece before =>
        exact ⟨(item :: piece) :: before, left, right, after, rfl, by simpa using frontSame,
          restSame, head⟩

/-- The first word of a run begins with its first character. -/
theorem exists_words_cons (char : Char) (rest : List Char) :
    ∃ word others, words (char :: rest) = (char :: word) :: others ∧
      word ++ others.flatten = rest := by
  have flat := flatten_words (char :: rest)
  cases found : words (char :: rest) with
  | nil =>
    rw [found] at flat
    cases flat
  | cons word others =>
    have member : word ∈ words (char :: rest) := by simp [found]
    obtain ⟨first, word, rfl⟩ := List.exists_cons_of_ne_nil (ne_nil_of_mem_words member)
    rw [found] at flat
    cases flat
    exact ⟨word, others, rfl, rfl⟩

/-- Two neighbours in a run stand in one word, or the second begins another word. -/
theorem exists_words_neighbours (first second : Char) (front rest : List Char) :
    ∃ before left right after, words (front ++ first :: second :: rest) =
        before ++ (if beginsWord first second rest.head? then [left ++ [first], second :: right]
          else [left ++ [first] ++ second :: right]) ++ after ∧
      before.flatten ++ left = front ∧ right ++ after.flatten = rest := by
  induction front with
  | nil =>
    obtain ⟨right, after, found, flat⟩ := exists_words_cons second rest
    refine ⟨[], [], right, after, ?_, rfl, flat⟩
    rw [List.nil_append, words, found]
    split <;> rfl
  | cons char front induction =>
    obtain ⟨before, left, right, after, found, frontSame, restSame⟩ := induction
    obtain ⟨next, others, split⟩ :
        ∃ next others, front ++ first :: second :: rest = next :: others := by
      cases front <;> exact ⟨_, _, rfl⟩
    rw [List.cons_append, split, words, ← split, found]
    split
    · exact ⟨[char] :: before, left, right, after, rfl, by simpa using frontSame, restSame⟩
    · cases before with
      | nil =>
        refine ⟨[], char :: left, right, after, ?_, by simpa using frontSame, restSame⟩
        split <;> rfl
      | cons word before =>
        exact ⟨(char :: word) :: before, left, right, after, rfl, by simpa using frontSame,
          restSame⟩

/-! ## Snake case -/

/-- The words of a name in small letters. -/
def smallWords (name : String) : List (List Char) :=
  ((runs name).flatMap words).map (·.map Char.toLower)

theorem toList_snakeCase (name : String) :
    (snakeCase name).toList = ['_'].intercalate (smallWords name) := by
  rw [snakeCase, String.toList_ofList, smallWords]

theorem ne_nil_of_mem_smallWords {name : String} {part : List Char}
    (member : part ∈ smallWords name) : part ≠ [] := by
  obtain ⟨word, wordMember, rfl⟩ := List.mem_map.mp member
  obtain ⟨run, _, wordMember⟩ := List.mem_flatMap.mp wordMember
  simpa using ne_nil_of_mem_words wordMember

theorem small_of_mem_smallWords {name : String} {part : List Char}
    (member : part ∈ smallWords name) :
    ∀ char ∈ part, char.isLower = true ∨ char.isDigit = true := by
  intro char charMember
  obtain ⟨word, wordMember, rfl⟩ := List.mem_map.mp member
  obtain ⟨run, runMember, wordMember⟩ := List.mem_flatMap.mp wordMember
  obtain ⟨letter, letterMember, rfl⟩ := List.mem_map.mp charMember
  have inRun := mem_of_mem_words wordMember letter letterMember
  exact isLower_or_isDigit_toLower (isAlphanum_of_mem_runs runMember letter inRun)

theorem isAlphanum_of_mem_smallWords {name : String} :
    ∀ part ∈ smallWords name, ∀ char ∈ part, char.isAlphanum = true :=
  fun _ member char charMember =>
    isAlphanum_of_isLower_or_isDigit (small_of_mem_smallWords member char charMember)

theorem isSnake_snakeCase (name : String) : IsSnake (snakeCase name).toList := by
  rw [toList_snakeCase]
  exact isSnake_intercalate (fun _ => ne_nil_of_mem_smallWords) fun _ => small_of_mem_smallWords

theorem flatten_flatMap_words (lists : List (List Char)) :
    (lists.flatMap words).flatten = lists.flatten := by
  induction lists with
  | nil => rfl
  | cons run lists induction =>
    rw [List.flatMap_cons, List.flatten_append, flatten_words, induction, List.flatten_cons]

theorem withoutUnderscores_snakeCase (name : String) :
    withoutUnderscores (snakeCase name).toList = lowered name.toList := by
  have flat : (smallWords name).flatten = lowered name.toList := by
    rw [smallWords, ← List.map_flatten, flatten_flatMap_words, flatten_runs, lowered]
  rw [toList_snakeCase, withoutUnderscores_intercalate, flat, withoutUnderscores_lowered]

/-- A run without capitals is one word. -/
theorem words_of_no_capital {run : List Char} (some : run ≠ [])
    (noCapital : ∀ char ∈ run, char.isUpper = false) : words run = [run] := by
  induction run with
  | nil => exact absurd rfl some
  | cons char rest induction =>
    cases rest with
    | nil => rfl
    | cons next rest =>
      have noCapitalRest := (List.forall_mem_cons.mp noCapital).2
      have noWord : beginsWord char next rest.head? = false := by
        rw [beginsWord, noCapitalRest next List.mem_cons_self, Bool.false_and]
      rw [words, if_neg (by simp [noWord]), induction (List.cons_ne_nil _ _) noCapitalRest]
      rfl

theorem splitOnP_eq_splitOn {chars : List Char}
    (plain : ∀ char ∈ chars, char.isAlphanum = true ∨ char = '_') :
    chars.splitOnP (!Char.isAlphanum ·) = chars.splitOn '_' := by
  rw [List.splitOn]
  induction chars with
  | nil => rfl
  | cons char chars induction =>
    obtain ⟨charPlain, charsPlain⟩ := List.forall_mem_cons.mp plain
    have same : (!char.isAlphanum) = (char == '_') := by
      rcases charPlain with alphanum | rfl
      · simp [alphanum, ne_underscore_of_isAlphanum alphanum]
      · rfl
    rw [List.splitOnP_cons_eq_if_modifyHead, List.splitOnP_cons_eq_if_modifyHead, same,
      induction charsPlain]

/-- The runs of words that are joined by underscores are the words. -/
theorem runs_intercalate {parts : List (List Char)} (nonempty : ∀ part ∈ parts, part ≠ [])
    (alphanum : ∀ part ∈ parts, ∀ char ∈ part, char.isAlphanum = true) :
    runs (String.ofList (['_'].intercalate parts)) = parts := by
  cases parts with
  | nil => rfl
  | cons part rest =>
    have joined := isJoined_intercalate nonempty alphanum
    have noUnderscore : ∀ part' ∈ part :: rest, '_' ∉ part' := fun part' member underscore =>
      ne_underscore_of_isAlphanum (alphanum part' member '_' underscore) rfl
    rw [runs, String.toList_ofList, splitOnP_eq_splitOn joined.plain,
      List.splitOn_intercalate '_' noUnderscore (List.cons_ne_nil part rest)]
    exact List.filter_eq_self.mpr fun part' member => by simpa using nonempty part' member

theorem runs_of_isAlphanum {chars : List Char} (some : chars ≠ [])
    (alphanum : ∀ char ∈ chars, char.isAlphanum = true) : runs (String.ofList chars) = [chars] := by
  have single : runs (String.ofList (['_'].intercalate [chars])) = [chars] :=
    runs_intercalate (by simpa using some) (by simpa using alphanum)
  rwa [List.intercalate_singleton] at single

theorem snakeCase_snakeCase (name : String) : snakeCase (snakeCase name) = snakeCase name := by
  have again : runs (snakeCase name) = smallWords name := by
    rw [← String.ofList_toList (s := snakeCase name), toList_snakeCase]
    exact runs_intercalate (fun _ => ne_nil_of_mem_smallWords) isAlphanum_of_mem_smallWords
  have noneCapital : (smallWords name).flatMap words = smallWords name := by
    have single : ∀ part ∈ smallWords name, words part = [part] := fun part member =>
      words_of_no_capital (ne_nil_of_mem_smallWords member) fun char charMember =>
        isUpper_eq_false_of_small (small_of_mem_smallWords member char charMember)
    rw [List.flatMap_congr single]
    simp
  have noneLarge : (smallWords name).map (·.map Char.toLower) = smallWords name := by
    refine (List.map_congr_left fun part member => ?_).trans (List.map_id _)
    exact map_toLower_of_small (small_of_mem_smallWords member)
  apply String.toList_inj.mp
  rw [toList_snakeCase, toList_snakeCase, smallWords, again, noneCapital, noneLarge]

/-! ## Neighbours in snake case -/

/-- Only a small letter after a capital tells where a word begins, so that it does not matter
whether the run or the name goes on with it. -/
theorem beginsWord_filter (previous char : Char) (next : Option Char) :
    beginsWord previous char (next.filter Char.isAlphanum) = beginsWord previous char next := by
  have same : (next.filter Char.isAlphanum).any Char.isLower = next.any Char.isLower := by
    cases next with
    | none => rfl
    | some next =>
      cases small : next.isLower with
      | true => simp [Option.filter, isAlphanum_of_isLower_or_isDigit (.inl small), small]
      | false => cases alphanum : next.isAlphanum <;> simp [Option.filter, alphanum, small]
  rw [beginsWord, beginsWord, same]

section

variable {name : String} {front rest : List Char} {first second : Char}
  (split : name.toList = front ++ first :: second :: rest)
  (firstAlphanum : first.isAlphanum = true) (secondAlphanum : second.isAlphanum = true)
include split firstAlphanum secondAlphanum

/-- The words around two neighbouring letters or digits of a name have the letters and digits
before and after them. -/
theorem exists_smallWords_neighbours :
    ∃ before left right after, smallWords name =
        before ++ (if beginsWord first second rest.head?
          then [left ++ [first.toLower], second.toLower :: right]
          else [left ++ [first.toLower] ++ second.toLower :: right]) ++ after ∧
      before.flatten ++ left = lowered front ∧ right ++ after.flatten = lowered rest := by
  obtain ⟨runsBefore, runLeft, runRight, runsAfter, pieces, frontSame, restSame, head⟩ :=
    exists_splitOnP_neighbours (!Char.isAlphanum ·) (by rw [firstAlphanum, Bool.not_true])
      (by rw [secondAlphanum, Bool.not_true]) front rest
  obtain ⟨wordsBefore, left, right, wordsAfter, found, leftSame, rightSame⟩ :=
    exists_words_neighbours first second runLeft runRight
  simp only [Bool.not_not] at frontSame restSame head
  rw [head, beginsWord_filter] at found
  have flat (lists : List (List Char)) :
      ((lists.filter (· ≠ [])).flatMap words).flatten = lists.flatten := by
    rw [flatten_flatMap_words, List.flatten_filter_ne_nil]
  let small (word : List Char) : List Char := word.map Char.toLower
  refine ⟨((runsBefore.filter (· ≠ [])).flatMap words ++ wordsBefore).map small, small left,
    small right, (wordsAfter ++ (runsAfter.filter (· ≠ [])).flatMap words).map small, ?_, ?_, ?_⟩
  · rw [smallWords, runs, split, pieces, List.filter_append, List.filter_cons_of_pos (by simp),
      List.flatMap_append, List.flatMap_cons, found]
    cases beginsWord first second rest.head? <;> simp [small]
  · rw [← List.map_flatten, List.flatten_append, flat, ← List.map_append, List.append_assoc,
      leftSame, frontSame, lowered]
  · rw [← List.map_flatten, List.flatten_append, flat, ← List.map_append, ← List.append_assoc,
      rightSame, restSame, lowered]

/-- Two neighbouring letters or digits of a name in its snake case. There is an underscore between
them if the second begins a word, and the others stand before and after. -/
theorem exists_snakeCase_neighbours :
    ∃ before after, (snakeCase name).toList = before ++ first.toLower ::
        ((if beginsWord first second rest.head? then ['_'] else []) ++ second.toLower :: after) ∧
      withoutUnderscores before = lowered front ∧ withoutUnderscores after = lowered rest := by
  obtain ⟨before, left, right, after, found, frontSame, restSame⟩ :=
    exists_smallWords_neighbours split firstAlphanum secondAlphanum
  refine ⟨before.flatMap (· ++ ['_']) ++ left, right ++ after.flatMap (['_'] ++ ·), ?_, ?_, ?_⟩
  · rw [toList_snakeCase, found, intercalate_cut]
    simp
  · rw [withoutUnderscores_append, withoutUnderscores_before, ← withoutUnderscores_append,
      frontSame, withoutUnderscores_lowered]
  · rw [withoutUnderscores_append, withoutUnderscores_after, ← withoutUnderscores_append,
      restSame, withoutUnderscores_lowered]

end

/-! ## Pascal case -/

theorem toList_pascalCase (name : String) :
    (pascalCase name).toList = (runs name).flatMap capitalize := by
  rw [pascalCase, String.toList_ofList]

theorem ne_nil_of_mem_runs {name : String} {run : List Char} (member : run ∈ runs name) :
    run ≠ [] := by
  simpa using (List.mem_filter.mp member).2

theorem map_toLower_capitalize (run : List Char) :
    (capitalize run).map Char.toLower = run.map Char.toLower := by
  cases run with
  | nil => rfl
  | cons char rest => simp [capitalize]

theorem map_toLower_pascalCase (name : String) :
    (pascalCase name).toList.map Char.toLower = lowered name.toList := by
  rw [toList_pascalCase, List.map_flatMap,
    List.flatMap_congr fun run _ => map_toLower_capitalize run, ← List.map_flatMap,
    List.flatMap_id', flatten_runs, lowered]

/-- After the first run has its capital, nothing is left to do at the front. -/
theorem capitalize_flatMap_capitalize {parts : List (List Char)}
    (nonempty : ∀ part ∈ parts, part ≠ []) :
    capitalize (parts.flatMap capitalize) = parts.flatMap capitalize := by
  cases parts with
  | nil => rfl
  | cons part rest =>
    obtain ⟨char, others, rfl⟩ := List.exists_cons_of_ne_nil (nonempty part List.mem_cons_self)
    simp [capitalize]

theorem pascalCase_pascalCase (name : String) : pascalCase (pascalCase name) = pascalCase name := by
  apply String.toList_inj.mp
  rw [toList_pascalCase (pascalCase name)]
  by_cases empty : (pascalCase name).toList = []
  · rw [runs, empty]
    rfl
  · have again := runs_of_isAlphanum empty isAlphanum_of_mem_pascalCase
    rw [String.ofList_toList] at again
    rw [again, List.flatMap_singleton, toList_pascalCase]
    exact capitalize_flatMap_capitalize fun _ => ne_nil_of_mem_runs

/-! ## Both cases -/

theorem beginsWord_iff (previous char : Char) (next : Option Char) :
    beginsWord previous char next = true ↔ char.isUpper = true ∧
      (previous.isLower = true ∨ previous.isDigit = true ∨
        previous.isUpper = true ∧ ∃ following ∈ next, following.isLower = true) := by
  cases next with
  | none => simp [beginsWord]
  | some following => simp [beginsWord, or_assoc]

/-- Snake case is words of small letters and digits with single underscores between them, and Pascal
case is the same letters and digits without underscores. Both have the ASCII letters and digits of
the name in their order, and both leave a converted name as it is. Between two neighbours of the
name there is an underscore exactly if the second begins a word. -/
theorem cases_keep_letters (name : String) :
    IsSnake (snakeCase name).toList ∧
    (snakeCase name = "" ↔ hasLetterOrDigit name = false) ∧
    snakeCase (snakeCase name) = snakeCase name ∧
    withoutUnderscores (snakeCase name).toList = lowered name.toList ∧
    pascalCase (pascalCase name) = pascalCase name ∧
    (pascalCase name).toList.map Char.toLower = lowered name.toList ∧
    ∀ front first second rest, name.toList = front ++ first :: second :: rest →
      first.isAlphanum = true → second.isAlphanum = true →
      ∃ before between after, (snakeCase name).toList =
          before ++ first.toLower :: (between ++ second.toLower :: after) ∧
        withoutUnderscores before = lowered front ∧ withoutUnderscores after = lowered rest ∧
        (between = [] ∨ between = ['_']) ∧
        (between = ['_'] ↔ second.isUpper = true ∧
          (first.isLower = true ∨ first.isDigit = true ∨
            first.isUpper = true ∧ ∃ next ∈ rest.head?, next.isLower = true)) := by
  refine ⟨isSnake_snakeCase name, snakeCase_eq_empty_iff name, snakeCase_snakeCase name,
    withoutUnderscores_snakeCase name, pascalCase_pascalCase name, map_toLower_pascalCase name, ?_⟩
  intro front first second rest split firstAlphanum secondAlphanum
  obtain ⟨before, after, found, frontSame, restSame⟩ :=
    exists_snakeCase_neighbours split firstAlphanum secondAlphanum
  refine ⟨before, _, after, found, frontSame, restSame, ?_⟩
  rw [← beginsWord_iff]
  cases beginsWord first second rest.head? with
  | true => exact ⟨.inr rfl, by simp⟩
  | false => exact ⟨.inl rfl, by simp⟩

/-- The last of several capitals begins a word if a small letter follows. -/
theorem cases_keep_letters_http :
    "HTTPStatus".toList = "HTT".toList ++ 'P' :: 'S' :: "tatus".toList ∧
      'P'.isAlphanum = true ∧ 'S'.isAlphanum = true ∧
      ∃ before after, (snakeCase "HTTPStatus").toList = before ++ 'p' :: '_' :: 's' :: after ∧
        withoutUnderscores before = "htt".toList ∧ withoutUnderscores after = "tatus".toList := by
  have split : "HTTPStatus".toList = "HTT".toList ++ 'P' :: 'S' :: "tatus".toList := by decide
  refine ⟨split, rfl, rfl, ?_⟩
  obtain ⟨before, between, after, found, frontSame, restSame, -, underscore⟩ :=
    (cases_keep_letters "HTTPStatus").2.2.2.2.2.2 _ 'P' 'S' _ split rfl rfl
  cases underscore.mpr ⟨rfl, .inr (.inr ⟨rfl, 't', by decide, rfl⟩)⟩
  exact ⟨before, after, found, frontSame.trans (by decide), restSame.trans (by decide)⟩

end SqlSchema.Name
