import SqlSchema.Proofs.Batches.Reading

/-!
Token lists that end early. A reader that stops before a cut reads the same where the tokens end at
the cut: it has not seen what came after it, except to find that it does not go on there.
-/

namespace SqlSchema.Grammar

variable {tokens kept cut : List Token}

theorem not_length_append_lt (kept cut : List Token) : ¬(kept ++ cut).length < cut.length := by
  rw [List.length_append]
  omega

/-! ## Groups -/

theorem name_of_append {text : String} (found : name (tokens ++ cut) = .ok (text, kept ++ cut)) :
    name tokens = .ok (text, kept) := by
  cases tokens with
  | nil => exact absurd (length_of_name found) (not_length_append_lt kept cut)
  | cons token tokens =>
    simp only [name, List.cons_append] at found ⊢
    split at found
    · rename_i isName
      rcases Prod.mk.inj (Except.ok.inj found) with ⟨rfl, same⟩
      rw [if_pos isName, List.append_cancel_right same]
    · cases found

theorem closeGroup_of_append {depth : Nat}
    (found : closeGroup depth (tokens ++ cut) = .ok (kept ++ cut)) :
    closeGroup depth tokens = .ok kept := by
  fun_induction closeGroup depth tokens with
  | case1 => exact absurd (length_of_closeGroup found) (not_length_append_lt kept cut)
  | case2 depth token tokens kind induction =>
    apply induction
    simpa [closeGroup, kind] using found
  | case3 token tokens kind =>
    simp [closeGroup, kind] at found
    rw [found]
  | case4 token tokens depth kind induction =>
    apply induction
    simpa [closeGroup, kind] using found
  | case5 token tokens depth notLeft notRight notDeeper induction =>
    apply induction
    rw [List.cons_append, closeGroup.eq_def] at found
    dsimp only at found
    split at found
    · contradiction
    · exact absurd rfl (notRight ‹_›)
    · exact absurd rfl (notDeeper _ ‹_›)
    · exact found

theorem skipGroup_of_append (found : skipGroup (tokens ++ cut) = .ok (kept ++ cut)) :
    skipGroup tokens = .ok kept := by
  cases tokens with
  | nil => exact absurd (length_of_skipGroup found) (not_length_append_lt kept cut)
  | cons token tokens =>
    unfold skipGroup at found ⊢
    split at found
    · rename_i isGroup
      rw [if_pos (show nextIs .leftParen (token :: tokens) = true from isGroup)]
      exact closeGroup_of_append found
    · cases found

theorem skipOptionalGroup_of_append
    (found : skipOptionalGroup (tokens ++ cut) = .ok (kept ++ cut)) :
    skipOptionalGroup tokens = .ok kept := by
  unfold skipOptionalGroup at found ⊢
  split at found
  · rename_i isGroup
    have group := skipGroup_of_append found
    have shorter := length_of_skipGroup group
    cases tokens with
    | nil => cases shorter
    | cons token tokens =>
      rw [if_pos (show nextIs .leftParen (token :: tokens) = true from isGroup), group]
  · rename_i noGroup
    have same : tokens = kept := List.append_cancel_right (Except.ok.inj found)
    rw [if_neg (by cases tokens with | nil => simp [nextIs] | cons => exact noGroup), same]

/-! ## Tables -/

theorem tableDefinition_of_append {definition : TableDefinition}
    (found : tableDefinition (tokens ++ cut) = .ok (definition, kept ++ cut)) :
    tableDefinition tokens = .ok (definition, kept) := by
  cases tokens with
  | nil => exact absurd (length_of_tableDefinition found) (not_length_append_lt kept cut)
  | cons token tokens =>
    unfold tableDefinition at found ⊢
    split at found
    · rename_i isGroup
      rcases bind_eq_ok.mp found with ⟨⟨nodes, after⟩, nodesFound, found⟩
      rcases bind_eq_ok.mp found with ⟨afterParen, closed, equal⟩
      rcases exists_of_expectRightParen closed with ⟨close, rfl, closes⟩
      rcases Prod.mk.inj (Except.ok.inj equal) with ⟨rfl, rfl⟩
      rw [List.cons_append, List.tail_cons] at nodesFound
      rcases isSuffix_of_tableElements nodesFound with ⟨front, whole⟩
      rw [← List.cons_append, ← List.append_assoc] at whole
      obtain rfl := List.append_cancel_right whole
      rw [List.append_assoc, List.cons_append] at nodesFound
      have nodesFound' := tableElements_exchange closes nodesFound kept
      rw [if_pos (show nextIs .leftParen (token :: (front ++ close :: kept)) = true from isGroup)]
      refine bind_eq_ok.mpr ⟨_, nodesFound', ?_⟩
      refine bind_eq_ok.mpr ⟨_, expectRightParen_of_kind closes, ?_⟩
      rw [Token.textTo_append]
    · cases found

/-- A token that is followed by all that was cut off stands before the cut. -/
theorem exists_cons_of_append {token : Token} {rest : List Token}
    (whole : tokens ++ cut = token :: rest) (within : cut.length ≤ rest.length) :
    ∃ front, tokens = token :: front ∧ front ++ cut = rest := by
  rcases List.append_eq_cons_iff.mp whole with ⟨-, rfl⟩ | ⟨front, rfl, rfl⟩
  · exact absurd within (Nat.not_succ_le_self _)
  · exact ⟨front, rfl, rfl⟩

theorem tableNameParts_of_append {parts : List String} (goesOn : kept ≠ [])
    (found : tableNameParts (tokens ++ cut) = .ok (parts, kept ++ cut)) :
    tableNameParts tokens = .ok (parts, kept) := by
  -- The body of the table follows the name before the cut, so the parts end there as well.
  have longer : cut.length < (kept ++ cut).length := by
    rw [List.length_append]
    have positive := List.length_pos_iff.mpr goesOn
    omega
  generalize whole : tokens ++ cut = all at found
  fun_induction tableNameParts all generalizing tokens parts with
  | case1 =>
    rcases Prod.mk.inj (Except.ok.inj found) with ⟨rfl, same⟩
    exact absurd (List.append_eq_nil_iff.mp same.symm).1 goesOn
  | case4 dot isDot part tail isEmpty parts rest read induction =>
    rcases Prod.mk.inj (Except.ok.inj found) with ⟨rfl, rfl⟩
    have length := Nat.lt_of_lt_of_le longer (length_of_tableNameParts read)
    rcases exists_cons_of_append whole (Nat.le_of_lt length) with ⟨afterDot, rfl, wholeRest⟩
    rcases exists_cons_of_append wholeRest (Nat.le_of_lt_succ length) with ⟨afterPart, rfl, -⟩
    simp only [tableNameParts, if_pos isDot, if_pos isEmpty]
    rw [induction wholeRest read]
  | case6 dot isDot part tail notEmpty isName parts rest read induction =>
    rcases Prod.mk.inj (Except.ok.inj found) with ⟨rfl, rfl⟩
    have length := Nat.lt_of_lt_of_le longer (length_of_tableNameParts read)
    obtain ⟨afterDot, rfl, wholeRest⟩ :=
      exists_cons_of_append whole (Nat.le_succ_of_le (Nat.le_of_lt length))
    rcases exists_cons_of_append wholeRest (Nat.le_of_lt length) with ⟨afterPart, rfl, wholeTail⟩
    simp only [tableNameParts, if_pos isDot, if_neg notEmpty, if_pos isName]
    rw [induction wholeTail read]
  | case8 token rest noDot =>
    rcases Prod.mk.inj (Except.ok.inj found) with ⟨rfl, same⟩
    obtain rfl : tokens = kept := List.append_cancel_right (whole.trans same)
    rw [same] at whole
    cases tokens with
    | nil => exact absurd rfl goesOn
    | cons first others =>
      rcases List.cons.inj same with ⟨rfl, -⟩
      rw [tableNameParts.eq_def]
      dsimp only
      rw [if_neg noDot]
  | case2 | case3 | case5 | case7 => cases found

theorem tableName_of_append {defaultSchema : String} {names : String × String} (goesOn : kept ≠ [])
    (found : tableName defaultSchema (tokens ++ cut) = .ok (names, kept ++ cut)) :
    tableName defaultSchema tokens = .ok (names, kept) := by
  rcases bind_eq_ok.mp found with ⟨⟨first, afterFirst⟩, firstFound, found⟩
  rcases bind_eq_ok.mp found with ⟨⟨parts, afterParts⟩, partsFound, found⟩
  dsimp only at found
  split at found
  · rename_i isShort
    rcases Prod.mk.inj (Except.ok.inj found) with ⟨rfl, rfl⟩
    rcases isSuffix_of_tableNameParts partsFound with ⟨front, rfl⟩
    rw [← List.append_assoc] at firstFound partsFound
    refine bind_eq_ok.mpr ⟨_, name_of_append firstFound, ?_⟩
    refine bind_eq_ok.mpr ⟨_, tableNameParts_of_append goesOn partsFound, ?_⟩
    dsimp only
    rw [if_pos isShort]
  · cases found

/-- The name of a filegroup, if there is one, stands before the cut. -/
theorem skipFilegroup_of_append
    (found : skipOptionalGroup
        (if nextIsName (tokens ++ cut) || nextIs .string (tokens ++ cut) then (tokens ++ cut).tail
          else tokens ++ cut) = .ok (kept ++ cut)) :
    skipOptionalGroup
        (if nextIsName tokens || nextIs .string tokens then tokens.tail else tokens) =
      .ok kept := by
  cases tokens with
  | nil =>
    split at found
    · rename_i isNamed
      have length := length_of_skipOptionalGroup found
      cases cut with
      | nil => cases isNamed
      | cons label cut => exact absurd (Nat.lt_succ_of_le length) (not_length_append_lt kept _)
    · exact skipOptionalGroup_of_append found
  | cons label tail =>
    have named : (nextIsName (label :: tail ++ cut) || nextIs .string (label :: tail ++ cut)) =
        (nextIsName (label :: tail) || nextIs .string (label :: tail)) := rfl
    rw [named] at found
    split at found
    · rename_i isNamed
      rw [if_pos isNamed]
      exact skipOptionalGroup_of_append found
    · rename_i notNamed
      rw [if_neg notNamed]
      exact skipOptionalGroup_of_append found

theorem tableOption?_of_append {value : Unit}
    (found : tableOption? (tokens ++ cut) = .ok (some (value, kept ++ cut))) :
    tableOption? tokens = .ok (some (value, kept)) := by
  cases tokens with
  | nil => exact absurd (progresses_tableOption? found) (not_length_append_lt kept cut)
  | cons token tail =>
    rw [List.cons_append] at found
    unfold tableOption? at found ⊢
    split at found
    · rename_i isFilegroup
      rcases bind_eq_ok.mp found with ⟨after, skipped, equal⟩
      cases equal
      refine (if_pos isFilegroup).trans ?_
      exact bind_eq_ok.mpr ⟨_, skipFilegroup_of_append skipped, rfl⟩
    rename_i notFilegroup
    refine (if_neg notFilegroup).trans ?_
    split at found
    · rename_i isWith
      rcases bind_eq_ok.mp found with ⟨after, skipped, equal⟩
      cases equal
      have group : skipGroup tail = .ok kept := skipGroup_of_append skipped
      cases tail with
      | nil => exact absurd (length_of_skipGroup group) (Nat.not_lt_zero _)
      | cons paren tail =>
        refine (if_pos isWith).trans ?_
        exact bind_eq_ok.mpr ⟨_, group, rfl⟩
    rename_i notWith
    split at found
    · rename_i isAs
      have same : (tail ++ cut).drop 1 = kept ++ cut :=
        (Prod.mk.inj (Option.some.inj (Except.ok.inj found))).2
      cases tail with
      | nil =>
        cases cut with
        | nil => simp [nextIsWordIn] at isAs
        | cons kind cut =>
          have length : cut.length = (kept ++ kind :: cut).length := congrArg List.length same
          rw [List.length_append, List.length_cons] at length
          omega
      | cons kind tail =>
        refine (if_neg notWith).trans ((if_pos isAs).trans ?_)
        rw [← List.append_cancel_right (show tail ++ cut = kept ++ cut from same)]
        rfl
    · cases found

/-- Where the options end before the cut, none begins there without it. -/
theorem tableOption?_eq_none_of_append (none : tableOption? (tokens ++ cut) = .ok none) :
    tableOption? tokens = .ok Option.none := by
  cases tokens with
  | nil => rfl
  | cons token tail =>
    rw [List.cons_append] at none
    unfold tableOption? at none ⊢
    split at none
    · obtain ⟨after, -, equal⟩ := bind_eq_ok.mp none
      cases equal
    rename_i notFilegroup
    refine (if_neg notFilegroup).trans ?_
    split at none
    · obtain ⟨after, -, equal⟩ := bind_eq_ok.mp none
      cases equal
    rename_i notWith
    split at none
    · cases none
    rename_i notAs
    cases tail with
    | nil => simp [nextIs, nextIsWordIn]
    | cons next tail => exact (if_neg notWith).trans (if_neg notAs)

theorem tableOptions_of_append (found : tableOptions (tokens ++ cut) = .ok (kept ++ cut)) :
    tableOptions tokens = .ok kept := by
  rcases bind_eq_ok.mp found with ⟨⟨values, after⟩, read, equal⟩
  cases equal
  refine bind_eq_ok.mpr ⟨(values, kept), ?_, rfl⟩
  clear found
  generalize whole : tokens ++ cut = all at read
  fun_induction many tableOption? progresses_tableOption? all generalizing tokens values with
  | case1 => cases read
  | case2 all none =>
    rcases Prod.mk.inj (Except.ok.inj read) with ⟨rfl, rfl⟩
    obtain rfl : tokens = kept := List.append_cancel_right whole
    exact many_of_none (tableOption?_eq_none_of_append none)
  | case3 => cases read
  | case4 all value next item others after othersRead induction =>
    rcases Prod.mk.inj (Except.ok.inj read) with ⟨rfl, rfl⟩
    rcases isSuffix_of_many isSuffix_of_tableOption? othersRead with ⟨front, rfl⟩
    subst whole
    rw [← List.append_assoc] at item othersRead induction
    rw [many_of_some (tableOption?_of_append item), induction others rfl othersRead]
    rfl

/-- A table is the same where the tokens end after it, at once or later. -/
theorem createTable_of_append {defaultSchema : String} {statement : CreateTable}
    (found : createTable defaultSchema (tokens ++ cut) = .ok (statement, kept ++ cut)) :
    createTable defaultSchema tokens = .ok (statement, kept) := by
  rcases bind_eq_ok.mp found with ⟨⟨names, afterName⟩, nameFound, found⟩
  rcases bind_eq_ok.mp found with ⟨⟨definition, afterDefinition⟩, definitionFound, found⟩
  rcases bind_eq_ok.mp found with ⟨afterOptions, optionsFound, equal⟩
  cases equal
  rcases isSuffix_of_tableOptions optionsFound with ⟨options, rfl⟩
  rw [← List.append_assoc] at optionsFound definitionFound
  rcases isSuffix_of_tableDefinition definitionFound with ⟨body, rfl⟩
  rw [← List.append_assoc] at definitionFound nameFound
  have nameLength := length_of_tableName nameFound
  have bodyLength := length_of_tableDefinition definitionFound
  simp only [List.length_drop, List.length_append] at nameLength bodyLength
  have goesOn : body ++ (options ++ kept) ≠ [] := by
    intro isEmpty
    rw [(List.append_eq_nil_iff.mp isEmpty).1, List.length_nil] at bodyLength
    omega
  rw [List.drop_append_of_le_length (by omega)] at nameFound
  refine bind_eq_ok.mpr ⟨_, tableName_of_append goesOn nameFound, ?_⟩
  refine bind_eq_ok.mpr ⟨_, tableDefinition_of_append definitionFound, ?_⟩
  refine bind_eq_ok.mpr ⟨_, tableOptions_of_append optionsFound, ?_⟩
  rw [Token.textTo_append]

end SqlSchema.Grammar
