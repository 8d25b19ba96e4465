import SqlSchema.Proofs.Batches.Module
import SqlSchema.Table.Outcome

/-!
Statements that are passed over. Such a statement has no grammar of its own: it goes on to the next
`CREATE` outside of groups, and there another statement begins. So a script that begins with a
permission statement is read without an error, and has no table, unless a `CREATE TABLE` stands
outside of groups before any module.
-/

namespace SqlSchema

namespace Token

/-- Whether a `CREATE` outside of groups stands after `count` of the tokens. -/
def CreatesAt (tokens : List Token) (count : Nat) : Prop :=
  openGroups 0 (tokens.take count) = 0 ∧ Grammar.nextIsWord "CREATE" (tokens.drop count) = true

instance (tokens : List Token) (count : Nat) : Decidable (CreatesAt tokens count) := by
  unfold CreatesAt
  infer_instance

/-- Whether each `CREATE TABLE` outside of groups stands after the beginning of a module. -/
def HidesTables (tokens : List Token) : Prop :=
  ∀ count < tokens.length, CreatesAt tokens count →
    Grammar.nextAreWords ["CREATE", "TABLE"] (tokens.drop count) = true →
    ∃ earlier < count, CreatesAt tokens earlier ∧ BeginsModule (tokens.drop earlier)

instance (tokens : List Token) : Decidable (HidesTables tokens) := by
  unfold HidesTables
  infer_instance

theorem kind_of_isWord {token : Token} {keyword : String} (isWord : token.isWord keyword = true) :
    token.kind = .word := by
  simpa using (Bool.and_eq_true_iff.mp isWord).1

theorem kind_of_isWordIn {token : Token} {keywords : List String}
    (isWord : token.isWordIn keywords = true) : token.kind = .word := by
  obtain ⟨keyword, -, isKeyword⟩ := List.any_eq_true.mp isWord
  exact kind_of_isWord isKeyword

end Token

namespace Grammar

open Token

/-! ## One statement -/

/-- Whether a statement that is passed over ends before `token`, with `depth` groups open. -/
def stopsAt (depth : Nat) (token : Token) : Bool :=
  depth = 0 && (token.kind == .semicolon || token.endsBatch || token.isWord "CREATE")

theorem skipStatement_cons (depth : Nat) (token : Token) (rest : List Token) :
    skipStatement depth (token :: rest) =
      if stopsAt depth token then token :: rest
      else skipStatement (openGroups depth [token]) rest := by
  rw [skipStatement, stopsAt]
  split
  · rfl
  · split <;> simp [openGroups, *]

/-- What is passed over ends before a `CREATE` outside of groups or with the tokens, and has no such
`CREATE` inside. -/
theorem exists_of_skipStatement (depth : Nat) {tokens : List Token}
    (plain : ∀ token ∈ tokens, token.kind ≠ .semicolon ∧ token.endsBatch = false) :
    ∃ passed, tokens = passed ++ skipStatement depth tokens ∧
      (skipStatement depth tokens = [] ∨
        openGroups depth passed = 0 ∧ nextIsWord "CREATE" (skipStatement depth tokens) = true) ∧
      ∀ count < passed.length, openGroups depth (passed.take count) = 0 →
        nextIsWord "CREATE" (passed.drop count) = false := by
  induction tokens generalizing depth with
  | nil => exact ⟨[], rfl, .inl rfl, fun _ bound => absurd bound (Nat.not_lt_zero _)⟩
  | cons token rest induction =>
    obtain ⟨⟨notSemicolon, notEnd⟩, restPlain⟩ := List.forall_mem_cons.mp plain
    have stops : stopsAt depth token = (depth = 0 && token.isWord "CREATE") := by
      rw [stopsAt, notEnd, beq_eq_false_iff_ne.mpr notSemicolon, Bool.false_or, Bool.false_or]
    rw [skipStatement_cons, stops]
    split
    · rename_i isStop
      obtain ⟨outside, isCreate⟩ := Bool.and_eq_true_iff.mp isStop
      exact ⟨[], rfl, .inr ⟨of_decide_eq_true outside, isCreate⟩,
        fun _ bound => absurd bound (Nat.not_lt_zero _)⟩
    · rename_i goesOn
      obtain ⟨passed, same, ends, noCreate⟩ := induction (openGroups depth [token]) restPlain
      have openCons (tokens : List Token) :
          openGroups depth (token :: tokens) = openGroups (openGroups depth [token]) tokens :=
        openGroups_append depth [token] tokens
      refine ⟨token :: passed, congrArg (token :: ·) same, ?_, ?_⟩
      · rwa [openCons passed]
      · intro count bound closed
        cases count with
        | zero =>
          have outside : depth = 0 := closed
          simpa [outside, nextIsWord_cons] using goesOn
        | succ count =>
          rw [List.take_succ_cons, openCons] at closed
          exact noCreate count (Nat.lt_of_succ_lt_succ bound) closed

/-! ## A batch of statements -/

theorem openGroups_of_word {token : Token} (isWord : token.kind = .word) (depth : Nat)
    (rest : List Token) : openGroups depth (token :: rest) = openGroups depth rest := by
  rw [openGroups, isWord]

section

variable {first : Token} {passed rest : List Token} (isWord : first.kind = .word)
include isWord

/-- What follows a closed statement has its places after those of the statement. -/
theorem createsAt_append_iff (closed : openGroups 0 passed = 0) (count : Nat) :
    CreatesAt (first :: (passed ++ rest)) (passed.length + count + 1) ↔ CreatesAt rest count := by
  rw [CreatesAt, CreatesAt, List.take_succ_cons, List.drop_succ_cons, List.take_length_add_append,
    List.drop_length_add_append, openGroups_of_word isWord, openGroups_append, closed]

/-- Tables stay hidden after a statement that is no module. -/
theorem hidesTables_of_append (hides : HidesTables (first :: (passed ++ rest)))
    (noModule : atModule (first :: (passed ++ rest)) = false)
    (closed : openGroups 0 passed = 0)
    (noCreate : ∀ count < passed.length, openGroups 0 (passed.take count) = 0 →
      nextIsWord "CREATE" (passed.drop count) = false) : HidesTables rest := by
  intro count bound creates isTable
  have later (count : Nat) :
      (first :: (passed ++ rest)).drop (passed.length + count + 1) = rest.drop count := by
    rw [List.drop_succ_cons, List.drop_length_add_append]
  obtain ⟨earlier, before, earlierCreates, begins⟩ := hides (passed.length + count + 1)
    (by simpa using bound) ((createsAt_append_iff isWord closed count).mpr creates)
    (by rwa [later])
  cases earlier with
  | zero =>
    rw [List.drop_zero] at begins
    rw [(atModule_of_beginsModule begins).1] at noModule
    cases noModule
  | succ earlier =>
    rcases Nat.lt_or_ge earlier passed.length with inside | after
    · obtain ⟨groups, isCreate⟩ := earlierCreates
      rw [List.take_succ_cons, openGroups_of_word isWord,
        List.take_append_of_le_length (Nat.le_of_lt inside)] at groups
      have none := noCreate earlier inside groups
      rw [List.drop_succ_cons, List.drop_append_of_le_length (Nat.le_of_lt inside),
        List.drop_eq_getElem_cons inside, List.cons_append, nextIsWord_cons] at isCreate
      rw [List.drop_eq_getElem_cons inside, nextIsWord_cons, isCreate] at none
      cases none
    · obtain ⟨earlier, rfl⟩ := Nat.exists_eq_add_of_le after
      refine ⟨earlier, by omega, (createsAt_append_iff isWord closed earlier).mp earlierCreates, ?_⟩
      rwa [later] at begins

end

theorem nextAreWords_of_hidesTables {tokens : List Token} (hides : HidesTables tokens) :
    nextAreWords ["CREATE", "TABLE"] tokens = false := by
  cases tokens with
  | nil => rfl
  | cons first rest =>
    refine Bool.eq_false_iff.mpr fun isTable => ?_
    have creates : CreatesAt (first :: rest) 0 := ⟨rfl, (Bool.and_eq_true_iff.mp isTable).1⟩
    obtain ⟨_, before, -⟩ := hides 0 (Nat.zero_lt_succ _) creates isTable
    exact absurd before (Nat.not_lt_zero _)

/-- After a statement another begins with `CREATE`, and its tables are hidden, too. -/
theorem exists_of_afterStatement {first : Token} {rest : List Token} (isWord : first.kind = .word)
    (plain : ∀ token ∈ rest, token.kind ≠ .semicolon ∧ token.endsBatch = false)
    (hides : HidesTables (first :: rest)) :
    ∃ passed, rest = passed ++ afterStatement first rest ∧
      (afterStatement first rest = [] ∨
        nextIsWord "CREATE" (afterStatement first rest) = true ∧
          HidesTables (afterStatement first rest)) := by
  rw [afterStatement]
  cases isModule : atModule (first :: rest) with
  | true =>
    have none : rest.dropWhile (!·.endsBatch) = [] := by
      rw [List.dropWhile_eq_nil_iff]
      intro token member
      rw [(plain token member).2, Bool.not_false]
    rw [if_pos rfl, none]
    exact ⟨rest, (List.append_nil rest).symm, .inl rfl⟩
  | false =>
    rw [if_neg Bool.false_ne_true]
    obtain ⟨passed, same, ends, noCreate⟩ := exists_of_skipStatement 0 plain
    rw [same] at hides isModule
    rcases ends with done | ⟨closed, isCreate⟩
    · exact ⟨passed, same, .inl done⟩
    · have restHides := hidesTables_of_append isWord hides isModule closed noCreate
      exact ⟨passed, same, .inr ⟨isCreate, restHides⟩⟩

/-- Tokens of one batch that begin with a word, and whose tables are hidden, are statements that are
passed over. Each but the first begins with `CREATE`. -/
theorem exists_statements_of_hidesTables (defaultSchema : String) {first : Token}
    {rest : List Token} (isWord : first.kind = .word)
    (plain : ∀ token ∈ first :: rest, token.kind ≠ .semicolon ∧ token.endsBatch = false)
    (hides : HidesTables (first :: rest)) :
    ∃ run runs, first :: rest = first :: run ++ runs.flatten ∧
      statements defaultSchema (first :: rest) =
        .ok (((first :: run) :: runs).map fun run => .other (textOf run)) ∧
      ∀ run ∈ runs, nextIsWord "CREATE" run = true := by
  obtain ⟨⟨notSemicolon, notEnd⟩, restPlain⟩ := List.forall_mem_cons.mp plain
  have noTable := nextAreWords_of_hidesTables hides
  obtain ⟨passed, same, ends⟩ := exists_of_afterStatement isWord restPlain hides
  have text : textTo (first :: rest) (afterStatement first rest) = textOf (first :: passed) := by
    nth_rewrite 1 [same]
    rw [textTo, ← List.cons_append, run_append]
  rw [statements_cons, if_neg notSemicolon, notEnd, if_neg Bool.false_ne_true, noTable,
    if_neg Bool.false_ne_true]
  dsimp only
  rw [text]
  cases after : afterStatement first rest with
  | nil =>
    rw [after, List.append_nil] at same
    refine ⟨passed, [], by rw [same, List.flatten_nil, List.append_nil], ?_, List.forall_mem_nil _⟩
    rw [statements_nil]
    rfl
  | cons next others =>
    rw [after] at same ends
    obtain ⟨isCreate, restHides⟩ := ends.resolve_left (List.cons_ne_nil next others)
    obtain ⟨run, runs, sameRuns, read, creates⟩ :=
      exists_statements_of_hidesTables defaultSchema (kind_of_isWord isCreate)
        (fun token member => restPlain token (same ▸ List.mem_append_right passed member)) restHides
    refine ⟨passed, (next :: run) :: runs, ?_, ?_, List.forall_mem_cons.mpr ⟨isCreate, creates⟩⟩
    · rw [same, sameRuns]
      rfl
    · rw [read]
      rfl
termination_by rest.length
decreasing_by
  have shorter := length_afterStatement_le first rest
  rw [after] at shorter
  exact shorter

end Grammar

open Grammar

end SqlSchema
