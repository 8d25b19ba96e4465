import SqlSchema.Grammar.Table
import SqlSchema.Proofs.Parallel.Constraint

/-!
Elements of a table in parallel lists. An element that ends within both lists is the same in both.
-/

namespace SqlSchema.Grammar

/-- The elements after one that ends here: those after its comma, if there are more. -/
def furtherElements (tokens : List Token) : Except Refusal (List Node × List Token) :=
  if nextIs .comma tokens then
    if nextIs .rightParen tokens.tail then .ok ([], tokens.tail) else tableElements tokens.tail
  else .ok ([], tokens)

theorem tableElements_eq (tokens : List Token) :
    tableElements tokens = (do
      let (nodes, rest) ← tableElement tokens
      let (others, rest) ← furtherElements rest
      .ok (nodes ++ others, rest)) := by
  rw [tableElements.eq_def]
  split
  · rename_i refused
    rw [refused]
    rfl
  · rename_i nodes rest read
    rw [read]
    change _ = furtherElements rest >>= fun (others, rest) => .ok (nodes ++ others, rest)
    unfold furtherElements
    split
    · split
      · simp [bind, Except.bind]
      · cases tableElements rest.tail <;> rfl
    · simp [bind, Except.bind]

/-- An element does not begin with `)`. -/
theorem nextIs_of_tableElements {tokens rest : List Token} {nodes : List Node}
    (found : tableElements tokens = .ok (nodes, rest)) : nextIs .rightParen tokens = false := by
  rw [tableElements_eq] at found
  obtain ⟨first, found, -⟩ := bind_eq_ok.mp found
  cases tokens with
  | nil => rfl
  | cons token tokens =>
    refine Bool.eq_false_iff.mpr fun isParen => ?_
    have ends : token.EndsElement := .inr (by simpa [nextIs] using isParen)
    have notName : identifier (token :: tokens) = refuse .name (token :: tokens) := by
      simp [identifier, name, ends.isName_eq_false, refuse, bind, Except.bind]
    unfold tableElement at found
    simp only [nextIsWordIn, nextIsWord, nextAreWords, List.head?_cons, Option.any_some,
      ends.isWordIn_eq_false, ends.isWord_eq_false, Bool.false_and, Bool.false_eq_true, if_false,
      List.isEmpty_cons, column, notName] at found
    cases found

theorem length_of_furtherElements {tokens rest : List Token} {nodes : List Node}
    (found : furtherElements tokens = .ok (nodes, rest)) : rest.length ≤ tokens.length := by
  unfold furtherElements at found
  split at found
  · have shorter := length_tail_of_nextIs ‹_›
    split at found
    · cases found
      omega
    · have notLonger := length_of_tableElements found
      omega
  · cases found
    exact Nat.le_refl _

namespace Parallel

variable {exchange : Exchange} {tokens tokens' rest : List Token}

/-! ## Columns -/

theorem of_columnOption (parallel : Parallel exchange tokens tokens') {node : Node}
    (found : columnOption tokens = .ok (node, rest))
    (within : exchange.after.length < rest.length) :
    ∃ rest', columnOption tokens' = .ok (node, rest') ∧ Parallel exchange rest rest' := by
  unfold columnOption at found ⊢
  dsimp only at found ⊢
  simp only [parallel.nextIsWord_eq, parallel.nextAreWords_eq, parallel.nextIsWordIn_eq]
  refine of_branch found (fun isIdentity found => ?_) fun _ found =>
    of_branch found (fun isNull found => ?_) fun _ found =>
    of_branch found (fun isNotNull found => ?_) fun _ found =>
    of_branch found (fun isRowGuid found => ?_) fun _ found =>
    of_branch found (fun isCollation found => ?_) fun _ found =>
    of_branch found (fun _ found => parallel.of_constraint found within) fun _ found => ?_
  · obtain ⟨afterGroup, skipped, equal⟩ := bind_eq_ok.mp found
    cases equal
    have notLonger := length_dropNotForReplication_le afterGroup
    obtain ⟨_, skipped', parallelGroup⟩ :=
      (parallel.tail_of_nextIsWord isIdentity).of_skipOptionalGroup skipped
        (Nat.lt_of_lt_of_le within notLonger)
    have parallelRest := parallelGroup.of_dropNotForReplication
    rw [← parallel.textTo_eq parallelRest]
    exact ⟨_, bind_eq_ok.mpr ⟨_, skipped', rfl⟩, parallelRest⟩
  · cases found
    have parallelRest := parallel.tail_of_nextIsWord isNull
    rw [← parallel.textTo_eq parallelRest]
    exact ⟨_, rfl, parallelRest⟩
  · cases found
    have parallelRest : Parallel exchange (tokens.drop 2) (tokens'.drop 2) :=
      parallel.drop_of_nextAreWords isNotNull
    rw [← parallel.textTo_eq parallelRest]
    exact ⟨_, rfl, parallelRest⟩
  · cases found
    have parallelRest := parallel.tail_of_nextIsWord isRowGuid
    rw [← parallel.textTo_eq parallelRest]
    exact ⟨_, rfl, parallelRest⟩
  · exact of_quoting_value (fun _ => Node.collation) parallel found fun _ named =>
      (parallel.tail_of_nextIsWord isCollation).of_name named
  · exact of_quoting (Node.unknown "ColumnOption") parallel found fun skipped =>
      parallel.of_unknownOption skipped within

theorem of_columnOption? (parallel : Parallel exchange tokens tokens') {node : Node}
    (found : columnOption? tokens = .ok (some (node, rest)))
    (within : exchange.after.length < rest.length) :
    ∃ rest', columnOption? tokens' = .ok (some (node, rest')) ∧
      Parallel exchange rest rest' := by
  unfold columnOption? at found ⊢
  rw [parallel.atElementEnd_eq]
  split at found
  · cases found
  · rename_i goesOn
    obtain ⟨⟨option, after⟩, optionFound, equal⟩ := map_eq_ok.mp found
    cases equal
    obtain ⟨rest', optionFound', parallelRest⟩ := parallel.of_columnOption optionFound within
    rw [if_neg goesOn]
    exact ⟨rest', map_eq_ok.mpr ⟨_, optionFound', rfl⟩, parallelRest⟩

theorem columnOption?_of_none (parallel : Parallel exchange tokens tokens')
    (none : columnOption? tokens = .ok none) : columnOption? tokens' = .ok Option.none := by
  unfold columnOption? at none ⊢
  rw [parallel.atElementEnd_eq]
  split at none
  · rename_i ends
    exact if_pos ends
  · obtain ⟨_, _, equal⟩ := map_eq_ok.mp none
    cases equal

theorem of_columnOptions (parallel : Parallel exchange tokens tokens') {nodes : List Node}
    (found : columnOptions tokens = .ok (nodes, rest))
    (within : exchange.after.length < rest.length) :
    ∃ rest', columnOptions tokens' = .ok (nodes, rest') ∧ Parallel exchange rest rest' :=
  parallel.of_many (fun parallel found within => parallel.of_columnOption? found within)
    columnOption?_of_none found within

theorem of_columnType (parallel : Parallel exchange tokens tokens') {nodes : List Node}
    (found : columnType tokens = .ok (nodes, rest))
    (within : exchange.after.length < rest.length) :
    ∃ rest', columnType tokens' = .ok (nodes, rest') ∧ Parallel exchange rest rest' := by
  unfold columnType at found ⊢
  rw [parallel.atElementEnd_eq, parallel.atColumnOption_eq]
  refine of_branch found (fun _ found => ?_) fun _ found => ?_
  · cases found
    exact ⟨_, rfl, parallel⟩
  · exact of_wrapping (fun type => [Node.dataType type]) found fun _ typeFound =>
      parallel.of_dataType typeFound within

theorem of_column (parallel : Parallel exchange tokens tokens') {node : Node}
    (found : column tokens = .ok (node, rest)) (within : exchange.after.length < rest.length) :
    ∃ rest', column tokens' = .ok (node, rest') ∧ Parallel exchange rest rest' := by
  obtain ⟨⟨label, afterLabel⟩, labelFound, found⟩ := bind_eq_ok.mp found
  obtain ⟨afterLabel', labelFound', parallelLabel⟩ := parallel.of_identifier labelFound
  dsimp only at found
  split at found
  · rename_i isComputed
    obtain ⟨⟨value, afterValue⟩, valueFound, found⟩ := bind_eq_ok.mp found
    obtain ⟨⟨options, after⟩, optionsFound, equal⟩ := bind_eq_ok.mp found
    cases equal
    dsimp only at within
    have optionsShorter : after.length ≤ (dropWord "PERSISTED" afterValue).length :=
      length_of_columnOptions optionsFound
    have notLonger := length_dropWord_le "PERSISTED" afterValue
    obtain ⟨_, valueFound', parallelValue⟩ :=
      of_expression (parallelLabel.tail_of_nextIsWord isComputed) valueFound (by omega)
    obtain ⟨rest', optionsFound', parallelRest⟩ :=
      (parallelValue.of_dropWord "PERSISTED").of_columnOptions optionsFound within
    refine ⟨rest', bind_eq_ok.mpr ⟨_, labelFound', ?_⟩, parallelRest⟩
    dsimp only
    rw [parallelLabel.nextIsWord_eq, if_pos isComputed, ← parallel.textTo_eq parallelRest]
    exact bind_eq_ok.mpr ⟨_, valueFound', bind_eq_ok.mpr ⟨_, optionsFound', rfl⟩⟩
  · rename_i notComputed
    obtain ⟨⟨type, afterType⟩, typeFound, found⟩ := bind_eq_ok.mp found
    obtain ⟨⟨options, after⟩, optionsFound, equal⟩ := bind_eq_ok.mp found
    cases equal
    dsimp only at within
    have optionsShorter : after.length ≤ afterType.length :=
      length_of_columnOptions optionsFound
    obtain ⟨_, typeFound', parallelType⟩ := parallelLabel.of_columnType typeFound (by omega)
    obtain ⟨rest', optionsFound', parallelRest⟩ :=
      parallelType.of_columnOptions optionsFound within
    refine ⟨rest', bind_eq_ok.mpr ⟨_, labelFound', ?_⟩, parallelRest⟩
    dsimp only
    rw [parallelLabel.nextIsWord_eq, if_neg notComputed, ← parallel.textTo_eq parallelRest]
    exact bind_eq_ok.mpr ⟨_, typeFound', bind_eq_ok.mpr ⟨_, optionsFound', rfl⟩⟩

/-! ## Elements -/

theorem of_unknownElement (parallel : Parallel exchange tokens tokens') {typeName : String}
    {node : Node} (found : unknownElement typeName tokens = .ok (node, rest))
    (within : exchange.after.length < rest.length) :
    ∃ rest', unknownElement typeName tokens' = .ok (node, rest') ∧
      Parallel exchange rest rest' :=
  of_quoting (Node.unknown typeName) parallel found fun skipped =>
    parallel.of_skipElement skipped within

theorem isEmpty_eq (parallel : Parallel exchange tokens tokens') :
    tokens'.isEmpty = tokens.isEmpty := by
  cases parallel <;> rfl

theorem of_tableElement (parallel : Parallel exchange tokens tokens') {nodes : List Node}
    (found : tableElement tokens = .ok (nodes, rest))
    (within : exchange.after.length < rest.length) :
    ∃ rest', tableElement tokens' = .ok (nodes, rest') ∧ Parallel exchange rest rest' := by
  unfold tableElement at found ⊢
  rw [parallel.isEmpty_eq, parallel.nextIsWordIn_eq, parallel.nextIsWord_eq,
    parallel.nextAreWords_eq]
  refine of_branch found (fun _ found => ?_) fun _ found =>
    of_branch found (fun _ found => ?_) fun _ found =>
    of_branch found (fun _ found => ?_) fun _ found =>
    of_branch found (fun _ found => ?_) fun _ found => ?_
  · cases found
  · obtain ⟨⟨node, afterNode⟩, nodeFound, found⟩ := bind_eq_ok.mp found
    dsimp only at found
    split at found
    · rename_i ends
      cases found
      obtain ⟨rest', nodeFound', parallelRest⟩ := parallel.of_constraint nodeFound within
      refine ⟨rest', bind_eq_ok.mpr ⟨_, nodeFound', ?_⟩, parallelRest⟩
      dsimp only
      rw [parallelRest.atElementEnd_eq, if_pos ends]
    · rename_i goesOn
      obtain ⟨⟨option, after⟩, optionFound, equal⟩ := bind_eq_ok.mp found
      cases equal
      dsimp only at within
      have optionShorter := length_of_unknownElement optionFound
      obtain ⟨_, nodeFound', parallelNode⟩ := parallel.of_constraint nodeFound (by omega)
      obtain ⟨rest', optionFound', parallelRest⟩ :=
        parallelNode.of_unknownElement optionFound within
      refine ⟨rest', bind_eq_ok.mpr ⟨_, nodeFound', ?_⟩, parallelRest⟩
      dsimp only
      rw [parallelNode.atElementEnd_eq, if_neg goesOn]
      exact bind_eq_ok.mpr ⟨_, optionFound', rfl⟩
  · exact of_wrapping (fun node => [node]) found fun _ nodeFound =>
      parallel.of_unknownElement nodeFound within
  · exact of_wrapping (fun node => [node]) found fun _ nodeFound =>
      parallel.of_unknownElement nodeFound within
  · exact of_wrapping (fun node => [node]) found fun _ nodeFound =>
      parallel.of_column nodeFound within

/-! ## Lists of elements -/

theorem eq_of_stop (parallel : Parallel exchange (exchange.stop :: exchange.after) tokens') :
    tokens' = exchange.newStop :: exchange.newAfter := by
  rcases parallel.eq_stop_or_cons with ⟨_, equal⟩ | ⟨_, _, _, front, _, equal, _, parallelFront⟩
  · exact equal
  · have longer := parallelFront.length_lt
    cases equal
    exact absurd longer (Nat.lt_irrefl _)

theorem nextIs_eq_of_same (parallel : Parallel exchange tokens tokens')
    (same : exchange.newStop.kind = exchange.stop.kind) (kind : TokenKind) :
    nextIs kind tokens' = nextIs kind tokens := by
  cases parallel with
  | stop => simp [nextIs, same]
  | cons => rfl

/-- Where the ends are of the same class, the elements are the same. -/
theorem of_tableElements {tokens tokens' rest : List Token}
    (parallel : Parallel exchange tokens tokens')
    (same : exchange.newStop.kind = exchange.stop.kind) {nodes : List Node}
    (found : tableElements tokens = .ok (nodes, rest))
    (within : exchange.after.length < rest.length) :
    ∃ rest', tableElements tokens' = .ok (nodes, rest') ∧ Parallel exchange rest rest' := by
  rw [tableElements_eq] at found ⊢
  obtain ⟨⟨first, afterFirst⟩, firstFound, found⟩ := bind_eq_ok.mp found
  obtain ⟨⟨others, after⟩, othersFound, equal⟩ := bind_eq_ok.mp found
  cases equal
  have firstShorter := length_of_tableElement firstFound
  have othersShorter : rest.length ≤ afterFirst.length := length_of_furtherElements othersFound
  obtain ⟨afterFirst', firstFound', parallelFirst⟩ :=
    parallel.of_tableElement firstFound (Nat.lt_of_lt_of_le within othersShorter)
  obtain ⟨rest', othersFound', parallelRest⟩ :
      ∃ rest', furtherElements afterFirst' = .ok (others, rest') ∧
        Parallel exchange rest rest' := by
    unfold furtherElements at othersFound ⊢
    rw [parallelFirst.nextIs_eq_of_same same]
    split at othersFound
    · rename_i goesOn
      have tailShorter := length_tail_of_nextIs goesOn
      rw [if_pos goesOn]
      split at othersFound
      · rename_i isLast
        cases othersFound
        have parallelTail := parallelFirst.tail within
        exact ⟨_, if_pos (by rw [parallelTail.nextIs_eq_of_same same, isLast]), parallelTail⟩
      · rename_i notLast
        have shorter := length_of_tableElements othersFound
        have parallelTail := parallelFirst.tail (Nat.lt_of_lt_of_le within shorter)
        rw [parallelTail.nextIs_eq_of_same same, if_neg notLast]
        exact of_tableElements parallelTail same othersFound within
    · rename_i ends
      cases othersFound
      exact ⟨_, if_neg ends, parallelFirst⟩
  exact ⟨rest', bind_eq_ok.mpr ⟨_, firstFound', bind_eq_ok.mpr ⟨_, othersFound', rfl⟩⟩,
    parallelRest⟩
termination_by tokens.length

/-- Elements up to a `)` that has no comma before it are the first elements of a list that goes on
after them. -/
theorem tableElements_eq_append {tokens tokens' rest : List Token}
    (parallel : Parallel exchange tokens tokens') (closes : exchange.stop.kind = .rightParen)
    (noComma : ∀ comma : Token, comma.kind = .comma →
      ¬comma :: exchange.stop :: exchange.after <:+ exchange.whole)
    {nodes others : List Node}
    (found : tableElements tokens = .ok (nodes, exchange.stop :: exchange.after))
    (further : furtherElements (exchange.newStop :: exchange.newAfter) = .ok (others, rest)) :
    tableElements tokens' = .ok (nodes ++ others, rest) := by
  rw [tableElements_eq] at found ⊢
  obtain ⟨⟨first, afterFirst⟩, firstFound, found⟩ := bind_eq_ok.mp found
  obtain ⟨⟨second, after⟩, secondFound, equal⟩ := bind_eq_ok.mp found
  cases equal
  have firstShorter := length_of_tableElement firstFound
  have secondShorter := length_of_furtherElements secondFound
  obtain ⟨afterFirst', firstFound', parallelFirst⟩ :=
    parallel.of_tableElement firstFound secondShorter
  refine bind_eq_ok.mpr ⟨_, firstFound', ?_⟩
  dsimp only
  unfold furtherElements at secondFound
  split at secondFound
  · rename_i goesOn
    obtain ⟨start, line, comma, front, front', equal, equal', parallelFront⟩ :
        ∃ start line comma front front', afterFirst = comma :: front ∧
          afterFirst' = comma.relocated start line :: front' ∧
            Parallel exchange front front' := by
      rcases parallelFirst.eq_stop_or_cons with ⟨rfl, _⟩ | cons
      · simp [nextIs, closes] at goesOn
      · exact cons
    subst equal equal'
    have isComma : comma.kind = .comma := by simpa [nextIs] using goesOn
    rw [List.tail_cons] at secondFound
    split at secondFound
    · rename_i isLast
      cases secondFound
      exact absurd parallelFirst.isSuffix (noComma comma isComma)
    · rename_i notLast
      have read := tableElements_eq_append parallelFront closes noComma secondFound further
      have notLast' : nextIs .rightParen front' = false := by
        rcases parallelFront.eq_stop_or_cons with ⟨rfl, _⟩ | ⟨_, _, _, _, _, rfl, rfl, _⟩
        · simp [nextIs, closes] at notLast
        · simpa [nextIs] using notLast
      refine bind_eq_ok.mpr ⟨(second ++ others, rest), ?_, by simp⟩
      have goesOn' : nextIs .comma (comma.relocated start line :: front') = true := goesOn
      unfold furtherElements
      rw [if_pos goesOn', List.tail_cons, notLast', if_neg (by simp)]
      exact read
  · cases secondFound
    rw [parallelFirst.eq_of_stop]
    exact bind_eq_ok.mpr ⟨_, further, by simp⟩
termination_by tokens.length

end Parallel

end SqlSchema.Grammar
