import SqlSchema.Grammar.Constraint
import SqlSchema.Proofs.Parallel.Expression

/-!
Constraints in parallel lists: keys, references, checks and defaults end at the same places in both
of them and give the same nodes.
-/

namespace SqlSchema.Grammar

/-- A token list without the direction that a column of a key may have. -/
def dropDirection (tokens : List Token) : List Token :=
  if nextIsWordIn ["ASC", "DESC"] tokens then tokens.tail else tokens

theorem length_dropDirection_le (tokens : List Token) :
    (dropDirection tokens).length ≤ tokens.length := by
  unfold dropDirection
  split <;> simp

theorem indexedColumns_eq (tokens : List Token) :
    indexedColumns tokens = (do
      let (column, rest) ← name tokens
      let after := dropDirection rest
      let node : Node := .indexedColumn column (Token.textTo tokens after)
      if nextIs .comma after then
        let (nodes, rest) ← indexedColumns after.tail
        .ok (node :: nodes, rest)
      else
        let rest ← expectRightParen after
        .ok ([node], rest)) := by
  rw [indexedColumns.eq_def]
  split
  · rename_i refused
    rw [refused]
    rfl
  · rename_i column rest named
    have direction :
        (if nextIsWordIn ["ASC", "DESC"] rest = true then rest.tail else rest) =
          dropDirection rest := rfl
    rw [named]
    dsimp only
    rw [direction]
    change _ = if nextIs .comma (dropDirection rest) = true then _ else _
    split
    · cases indexedColumns (dropDirection rest).tail <;> rfl
    · cases expectRightParen (dropDirection rest) <;> rfl

namespace Parallel

variable {exchange : Exchange} {tokens tokens' rest : List Token}

/-- What a step reads in both lists, its repetition does. -/
theorem of_many {α : Type} {step : Step α} {progresses : step.Progresses}
    (items : ∀ {tokens tokens' rest value}, Parallel exchange tokens tokens' →
      step tokens = .ok (some (value, rest)) → exchange.after.length < rest.length →
        ∃ rest', step tokens' = .ok (some (value, rest')) ∧ Parallel exchange rest rest')
    (ends : ∀ {tokens tokens'}, Parallel exchange tokens tokens' →
      step tokens = .ok none → step tokens' = .ok none)
    (parallel : Parallel exchange tokens tokens') {values : List α}
    (found : many step progresses tokens = .ok (values, rest))
    (within : exchange.after.length < rest.length) :
    ∃ rest', many step progresses tokens' = .ok (values, rest') ∧
      Parallel exchange rest rest' := by
  fun_induction many step progresses tokens generalizing tokens' values rest with
  | case1 => cases found
  | case2 tokens none =>
    cases found
    exact ⟨tokens', many_of_none (ends parallel none), parallel⟩
  | case3 => cases found
  | case4 tokens value after item others rest othersFound induction =>
    cases found
    have shorter := length_of_many othersFound
    obtain ⟨after', item', parallelAfter⟩ := items parallel item (by omega)
    obtain ⟨rest', others', parallelRest⟩ := induction parallelAfter othersFound within
    refine ⟨rest', ?_, parallelRest⟩
    rw [many_of_some item', others']
    rfl

/-! ## Keys -/

theorem of_dropNotForReplication (parallel : Parallel exchange tokens tokens') :
    Parallel exchange (dropNotForReplication tokens) (dropNotForReplication tokens') := by
  unfold dropNotForReplication
  rw [parallel.nextAreWords_eq]
  split
  · exact parallel.drop_of_nextAreWords ‹_›
  · exact parallel

theorem of_dropDirection (parallel : Parallel exchange tokens tokens') :
    Parallel exchange (dropDirection tokens) (dropDirection tokens') := by
  unfold dropDirection
  rw [parallel.nextIsWordIn_eq]
  split
  · exact parallel.tail_of_nextIsWordIn ‹_›
  · exact parallel

theorem of_indexedColumns {tokens tokens' rest : List Token}
    (parallel : Parallel exchange tokens tokens') {nodes : List Node}
    (found : indexedColumns tokens = .ok (nodes, rest))
    (within : exchange.after.length < rest.length) :
    ∃ rest', indexedColumns tokens' = .ok (nodes, rest') ∧ Parallel exchange rest rest' := by
  rw [indexedColumns_eq] at found ⊢
  obtain ⟨⟨column, afterName⟩, named, found⟩ := bind_eq_ok.mp found
  obtain ⟨afterName', named', parallelName⟩ := parallel.of_name named
  have parallelAfter := parallelName.of_dropDirection
  have nameShorter := length_of_name named
  have notLonger := length_dropDirection_le afterName
  dsimp only at found
  split at found
  · rename_i goesOn
    obtain ⟨⟨others, after⟩, othersFound, equal⟩ := bind_eq_ok.mp found
    cases equal
    dsimp only at within
    have shorter := length_of_indexedColumns othersFound
    have tailShorter := length_tail_of_nextIs goesOn
    obtain ⟨rest', othersFound', parallelRest⟩ :=
      of_indexedColumns (parallelAfter.tail (by omega)) othersFound within
    refine ⟨rest', bind_eq_ok.mpr ⟨_, named', ?_⟩, parallelRest⟩
    dsimp only
    rw [parallelAfter.nextIs_eq_of_within (by omega), if_pos goesOn,
      parallel.textTo_eq parallelAfter]
    exact bind_eq_ok.mpr ⟨_, othersFound', rfl⟩
  · rename_i ends
    obtain ⟨after, closed, equal⟩ := bind_eq_ok.mp found
    cases equal
    have shorter := length_of_expectRightParen closed
    obtain ⟨rest', closed', parallelRest⟩ := parallelAfter.of_expectRightParen closed within
    refine ⟨rest', bind_eq_ok.mpr ⟨_, named', ?_⟩, parallelRest⟩
    dsimp only
    rw [parallelAfter.nextIs_eq_of_within (by rw [List.length_tail]; omega), if_neg ends,
      parallel.textTo_eq parallelAfter]
    exact bind_eq_ok.mpr ⟨_, closed', rfl⟩
termination_by tokens.length

theorem isAssigned_eq (parallel : Parallel exchange tokens tokens') :
    (tokens'.head?.any fun token => token.kind == .operator && token.text == "=") =
      tokens.head?.any fun token => token.kind == .operator && token.text == "=" := by
  cases parallel with
  | stop => simp [exchange.ends.kind_beq_eq_false, exchange.newEnds.kind_beq_eq_false]
  | cons => rfl

theorem of_bareIndexOption (parallel : Parallel exchange tokens tokens')
    (found : bareIndexOption tokens = .ok rest) (within : exchange.after.length < rest.length) :
    ∃ rest', bareIndexOption tokens' = .ok rest' ∧ Parallel exchange rest rest' := by
  obtain ⟨⟨option, afterName⟩, named, equal⟩ := bind_eq_ok.mp found
  cases equal
  obtain ⟨afterName', named', parallelName⟩ := parallel.of_name named
  refine ⟨_, bind_eq_ok.mpr ⟨_, named', rfl⟩, ?_⟩
  rw [parallelName.isAssigned_eq]
  split at within
  · rename_i isAssigned
    rw [if_pos isAssigned, if_pos isAssigned]
    exact parallelName.drop within
  · rename_i notAssigned
    rw [if_neg notAssigned, if_neg notAssigned]
    exact parallelName.drop within

theorem of_indexOption? (parallel : Parallel exchange tokens tokens') {node : Node}
    (found : indexOption? tokens = .ok (some (node, rest)))
    (within : exchange.after.length < rest.length) :
    ∃ rest', indexOption? tokens' = .ok (some (node, rest')) ∧ Parallel exchange rest rest' := by
  unfold indexOption? at found ⊢
  dsimp only at found ⊢
  rw [parallel.nextIsWord_eq, parallel.nextIsWord_eq]
  refine of_branch found (fun isWith found => ?_) fun _ found =>
    of_branch found (fun isOn found => ?_) fun _ found => ?_
  · have parallelTail := parallel.tail_of_nextIsWord isWith
    rw [parallelTail.nextIs_eq (by decide) (by decide)]
    refine of_branch found (fun _ found => ?_) fun _ found => ?_
    · obtain ⟨after, skipped, equal⟩ := bind_eq_ok.mp found
      cases equal
      obtain ⟨rest', skipped', parallelRest⟩ := parallelTail.of_skipGroup skipped within
      rw [← parallel.textTo_eq parallelRest]
      exact ⟨rest', bind_eq_ok.mpr ⟨_, skipped', rfl⟩, parallelRest⟩
    · obtain ⟨after, read, equal⟩ := bind_eq_ok.mp found
      cases equal
      obtain ⟨rest', read', parallelRest⟩ := parallelTail.of_bareIndexOption read within
      rw [← parallel.textTo_eq parallelRest]
      exact ⟨rest', bind_eq_ok.mpr ⟨_, read', rfl⟩, parallelRest⟩
  · obtain ⟨⟨group, afterName⟩, named, found⟩ := bind_eq_ok.mp found
    obtain ⟨after, skipped, equal⟩ := bind_eq_ok.mp found
    cases equal
    obtain ⟨_, named', parallelName⟩ := (parallel.tail_of_nextIsWord isOn).of_name named
    obtain ⟨rest', skipped', parallelRest⟩ := parallelName.of_skipOptionalGroup skipped within
    rw [← parallel.textTo_eq parallelRest]
    exact ⟨rest', bind_eq_ok.mpr ⟨_, named', bind_eq_ok.mpr ⟨_, skipped', rfl⟩⟩, parallelRest⟩
  · cases found

theorem indexOption?_of_none (parallel : Parallel exchange tokens tokens')
    (none : indexOption? tokens = .ok none) : indexOption? tokens' = .ok Option.none := by
  unfold indexOption? at none ⊢
  dsimp only at none ⊢
  rw [parallel.nextIsWord_eq, parallel.nextIsWord_eq]
  split at none
  · split at none
    · obtain ⟨_, _, equal⟩ := bind_eq_ok.mp none
      cases equal
    · obtain ⟨_, _, equal⟩ := bind_eq_ok.mp none
      cases equal
  rename_i notWith
  rw [if_neg notWith]
  split at none
  · obtain ⟨_, _, found⟩ := bind_eq_ok.mp none
    obtain ⟨_, _, equal⟩ := bind_eq_ok.mp found
    cases equal
  · rename_i notOn
    exact if_neg notOn

theorem of_dropIndexKind (parallel : Parallel exchange tokens tokens') :
    Parallel exchange (dropIndexKind tokens) (dropIndexKind tokens') := by
  unfold dropIndexKind
  rw [parallel.nextIsWord_eq, parallel.nextIsWord_eq]
  split
  · exact parallel.tail_of_nextIsWord ‹_›
  split
  · exact (parallel.tail_of_nextIsWord ‹_›).of_dropWord "HASH"
  · exact parallel

theorem of_indexOptions (parallel : Parallel exchange tokens tokens') {nodes : List Node}
    (found : indexOptions tokens = .ok (nodes, rest))
    (within : exchange.after.length < rest.length) :
    ∃ rest', indexOptions tokens' = .ok (nodes, rest') ∧ Parallel exchange rest rest' :=
  parallel.of_many (fun parallel found within => parallel.of_indexOption? found within)
    indexOption?_of_none found within

theorem of_keyTail (parallel : Parallel exchange tokens tokens') {nodes : List Node}
    (found : keyTail tokens = .ok (nodes, rest)) (within : exchange.after.length < rest.length) :
    ∃ rest', keyTail tokens' = .ok (nodes, rest') ∧ Parallel exchange rest rest' := by
  have parallelKind := parallel.of_dropIndexKind
  unfold keyTail at found ⊢
  dsimp only at found ⊢
  rw [parallelKind.nextIs_eq (by decide) (by decide)]
  refine of_branch found (fun isGroup found => ?_) fun _ found => ?_
  · obtain ⟨⟨columns, afterColumns⟩, columnsFound, found⟩ := bind_eq_ok.mp found
    obtain ⟨⟨options, after⟩, optionsFound, equal⟩ := bind_eq_ok.mp found
    cases equal
    have shorter : after.length ≤ afterColumns.length := length_of_indexOptions optionsFound
    have parallelTail := parallelKind.tail_of_nextIs isGroup (by decide) (by decide)
    obtain ⟨_, columnsFound', parallelColumns⟩ :=
      parallelTail.of_indexedColumns columnsFound (Nat.lt_of_lt_of_le within shorter)
    obtain ⟨rest', optionsFound', parallelRest⟩ :=
      parallelColumns.of_indexOptions optionsFound within
    exact ⟨rest', bind_eq_ok.mpr ⟨_, columnsFound', bind_eq_ok.mpr ⟨_, optionsFound', rfl⟩⟩,
      parallelRest⟩
  · obtain ⟨⟨columns, afterColumns⟩, columnsFound, found⟩ := bind_eq_ok.mp found
    obtain ⟨⟨options, after⟩, optionsFound, equal⟩ := bind_eq_ok.mp found
    cases columnsFound
    cases equal
    obtain ⟨rest', optionsFound', parallelRest⟩ :=
      parallelKind.of_indexOptions optionsFound within
    exact ⟨rest', bind_eq_ok.mpr ⟨_, rfl, bind_eq_ok.mpr ⟨_, optionsFound', rfl⟩⟩, parallelRest⟩

/-! ## References -/

theorem of_referenceAction (parallel : Parallel exchange tokens tokens')
    (found : referenceAction tokens = .ok rest) :
    ∃ rest', referenceAction tokens' = .ok rest' ∧ Parallel exchange rest rest' := by
  unfold referenceAction at found ⊢
  rw [parallel.nextIsWord_eq, parallel.nextIsWord_eq]
  refine of_branch found
    (fun isNo found => (parallel.tail_of_nextIsWord isNo).of_expectWord found) fun _ found =>
    of_branch found (fun isSet found => ?_) fun _ found => parallel.of_expectWord found
  have parallelTail := parallel.tail_of_nextIsWord isSet
  rw [parallelTail.nextIsWord_eq]
  refine of_branch found (fun isNull found => ?_) fun _ found => parallelTail.of_expectWord found
  cases found
  have parallelRest := parallelTail.tail_of_nextIsWord isNull
  simp only [← List.drop_one, List.drop_drop] at parallelRest
  exact ⟨_, rfl, parallelRest⟩

theorem of_referenceOption? (parallel : Parallel exchange tokens tokens') {value : Unit}
    (found : referenceOption? tokens = .ok (some (value, rest))) :
    ∃ rest', referenceOption? tokens' = .ok (some (value, rest')) ∧
      Parallel exchange rest rest' := by
  unfold referenceOption? at found ⊢
  rw [parallel.nextAreWords_eq, parallel.nextAreWords_eq, parallel.nextAreWords_eq]
  refine of_branch found (fun isAction found => ?_) fun _ found =>
    of_branch found (fun notReplicated found => ?_) fun _ found => ?_
  · have parallelTail : Parallel exchange (tokens.drop 2) (tokens'.drop 2) := by
      rcases Bool.or_eq_true_iff.mp isAction with isDelete | isUpdate
      · exact parallel.drop_of_nextAreWords isDelete
      · exact parallel.drop_of_nextAreWords isUpdate
    obtain ⟨after, read, equal⟩ := bind_eq_ok.mp found
    cases equal
    obtain ⟨rest', read', parallelRest⟩ := parallelTail.of_referenceAction read
    exact ⟨rest', bind_eq_ok.mpr ⟨_, read', rfl⟩, parallelRest⟩
  · cases found
    exact ⟨_, rfl, parallel.drop_of_nextAreWords notReplicated⟩
  · cases found

theorem referenceOption?_of_none (parallel : Parallel exchange tokens tokens')
    (none : referenceOption? tokens = .ok none) :
    referenceOption? tokens' = .ok Option.none := by
  unfold referenceOption? at none ⊢
  rw [parallel.nextAreWords_eq, parallel.nextAreWords_eq, parallel.nextAreWords_eq]
  split at none
  · obtain ⟨_, _, equal⟩ := bind_eq_ok.mp none
    cases equal
  rename_i noAction
  rw [if_neg noAction]
  split at none
  · cases none
  · rename_i replicated
    exact if_neg replicated

theorem of_referencesTail (parallel : Parallel exchange tokens tokens')
    (found : referencesTail tokens = .ok rest) (within : exchange.after.length < rest.length) :
    ∃ rest', referencesTail tokens' = .ok rest' ∧ Parallel exchange rest rest' := by
  unfold referencesTail at found ⊢
  obtain ⟨⟨table, afterName⟩, named, found⟩ := bind_eq_ok.mp found
  obtain ⟨⟨parts, afterParts⟩, partsFound, found⟩ := bind_eq_ok.mp found
  obtain ⟨afterGroup, skipped, found⟩ := bind_eq_ok.mp found
  obtain ⟨⟨options, after⟩, optionsFound, equal⟩ := bind_eq_ok.mp found
  cases equal
  have shorter := length_of_many optionsFound
  obtain ⟨_, named', parallelName⟩ := parallel.of_name named
  obtain ⟨_, partsFound', parallelParts⟩ := parallelName.of_dottedParts partsFound
  obtain ⟨_, skipped', parallelGroup⟩ := parallelParts.of_skipOptionalGroup skipped (by omega)
  obtain ⟨rest', optionsFound', parallelRest⟩ :=
    parallelGroup.of_many (fun parallel found _ => parallel.of_referenceOption? found)
      referenceOption?_of_none optionsFound within
  exact ⟨rest', bind_eq_ok.mpr ⟨_, named', bind_eq_ok.mpr ⟨_, partsFound',
    bind_eq_ok.mpr ⟨_, skipped', bind_eq_ok.mpr ⟨_, optionsFound', rfl⟩⟩⟩⟩, parallelRest⟩

/-! ## Constraints -/

theorem of_identifier (parallel : Parallel exchange tokens tokens') {node : Node}
    (found : identifier tokens = .ok (node, rest)) :
    ∃ rest', identifier tokens' = .ok (node, rest') ∧ Parallel exchange rest rest' := by
  obtain ⟨⟨value, after⟩, named, equal⟩ := bind_eq_ok.mp found
  cases equal
  obtain ⟨rest', named', parallelRest⟩ := parallel.of_name named
  refine ⟨rest', ?_, parallelRest⟩
  rw [← parallel.textTo_eq parallelRest]
  exact bind_eq_ok.mpr ⟨_, named', rfl⟩

theorem of_dropWithValues (parallel : Parallel exchange tokens tokens') :
    Parallel exchange (if nextAreWords ["WITH", "VALUES"] tokens then tokens.drop 2 else tokens)
      (if nextAreWords ["WITH", "VALUES"] tokens' then tokens'.drop 2 else tokens') := by
  rw [parallel.nextAreWords_eq]
  split
  · exact parallel.drop_of_nextAreWords ‹_›
  · exact parallel

theorem of_constraintBody {start start' : List Token} (whole : Parallel exchange start start')
    (parallel : Parallel exchange tokens tokens') {label : Option Node} {node : Node}
    (found : constraintBody start label tokens = .ok (node, rest))
    (within : exchange.after.length < rest.length) :
    ∃ rest', constraintBody start' label tokens' = .ok (node, rest') ∧
      Parallel exchange rest rest' := by
  unfold constraintBody at found ⊢
  dsimp only at found ⊢
  simp only [parallel.nextIsWord_eq]
  refine of_branch found (fun isPrimary found => ?_) fun _ found =>
    of_branch found (fun isDefault found => ?_) fun _ found =>
    of_branch found (fun isUnique found => ?_) fun _ found =>
    of_branch found (fun isForeign found => ?_) fun _ found =>
    of_branch found (fun isReference found => ?_) fun _ found =>
    of_branch found (fun isCheck found => ?_) fun _ found => ?_
  · obtain ⟨afterKey, keyFound, found⟩ := bind_eq_ok.mp found
    obtain ⟨⟨children, after⟩, childrenFound, equal⟩ := bind_eq_ok.mp found
    cases equal
    obtain ⟨_, keyFound', parallelKey⟩ :=
      (parallel.tail_of_nextIsWord isPrimary).of_expectWord keyFound
    obtain ⟨rest', childrenFound', parallelRest⟩ := parallelKey.of_keyTail childrenFound within
    rw [← whole.textTo_eq parallelRest]
    exact ⟨rest', bind_eq_ok.mpr ⟨_, keyFound', bind_eq_ok.mpr ⟨_, childrenFound', rfl⟩⟩,
      parallelRest⟩
  · obtain ⟨⟨value, afterValue⟩, valueFound, equal⟩ := bind_eq_ok.mp found
    cases equal
    have notLonger : (if nextAreWords ["WITH", "VALUES"] afterValue = true
        then afterValue.drop 2 else afterValue).length ≤ afterValue.length := by
      split <;> simp
    obtain ⟨_, valueFound', parallelValue⟩ :=
      of_expression (parallel.tail_of_nextIsWord isDefault) valueFound
        (Nat.lt_of_lt_of_le within notLonger)
    have parallelRest := parallelValue.of_dropWithValues
    rw [← whole.textTo_eq parallelRest]
    exact ⟨_, bind_eq_ok.mpr ⟨_, valueFound', rfl⟩, parallelRest⟩
  · exact of_quoting_value (fun _ => Node.constraint .unique) whole found fun _ keyFound =>
      (parallel.tail_of_nextIsWord isUnique).of_keyTail keyFound within
  · obtain ⟨afterKey, keyFound, found⟩ := bind_eq_ok.mp found
    obtain ⟨afterGroup, skipped, found⟩ := bind_eq_ok.mp found
    obtain ⟨afterWord, wordFound, found⟩ := bind_eq_ok.mp found
    obtain ⟨after, tailFound, equal⟩ := bind_eq_ok.mp found
    cases equal
    have tailShorter := length_of_referencesTail tailFound
    have wordShorter := length_of_expectWord wordFound
    obtain ⟨_, keyFound', parallelKey⟩ :=
      (parallel.tail_of_nextIsWord isForeign).of_expectWord keyFound
    obtain ⟨_, skipped', parallelGroup⟩ := parallelKey.of_skipOptionalGroup skipped (by omega)
    obtain ⟨_, wordFound', parallelWord⟩ := parallelGroup.of_expectWord wordFound
    obtain ⟨rest', tailFound', parallelRest⟩ := parallelWord.of_referencesTail tailFound within
    rw [← whole.textTo_eq parallelRest]
    exact ⟨rest', bind_eq_ok.mpr ⟨_, keyFound', bind_eq_ok.mpr ⟨_, skipped',
      bind_eq_ok.mpr ⟨_, wordFound', bind_eq_ok.mpr ⟨_, tailFound', rfl⟩⟩⟩⟩, parallelRest⟩
  · exact of_quoting (Node.constraint .foreignKey) whole found fun tailFound =>
      (parallel.tail_of_nextIsWord isReference).of_referencesTail tailFound within
  · exact of_quoting (Node.constraint .check) whole found fun skipped =>
      (parallel.tail_of_nextIsWord isCheck).of_dropNotForReplication.of_skipGroup skipped within
  · cases found

theorem of_constraint (parallel : Parallel exchange tokens tokens') {node : Node}
    (found : constraint tokens = .ok (node, rest))
    (within : exchange.after.length < rest.length) :
    ∃ rest', constraint tokens' = .ok (node, rest') ∧ Parallel exchange rest rest' := by
  unfold constraint at found ⊢
  rw [parallel.nextIsWord_eq]
  refine of_branch found (fun isNamed found => ?_) fun _ found =>
    parallel.of_constraintBody parallel found within
  obtain ⟨⟨label, afterLabel⟩, labelFound, found⟩ := bind_eq_ok.mp found
  obtain ⟨_, labelFound', parallelLabel⟩ :=
    (parallel.tail_of_nextIsWord isNamed).of_identifier labelFound
  obtain ⟨rest', bodyFound', parallelRest⟩ :=
    parallel.of_constraintBody parallelLabel found within
  exact ⟨rest', bind_eq_ok.mpr ⟨_, labelFound', bodyFound'⟩, parallelRest⟩

end Parallel

end SqlSchema.Grammar
