import SqlSchema.Grammar.Column
import SqlSchema.Proofs.Guise.Expression
import SqlSchema.Proofs.Parallel.Constraint

/-!
Constraints and columns in another guise.
-/

namespace SqlSchema.Grammar

open Guise

variable (guise : Guise) (tokens : List Token)

/-! ## Keys -/

@[simp] theorem dropNotForReplication_see :
    dropNotForReplication (see guise tokens) = see guise (dropNotForReplication tokens) := by
  unfold dropNotForReplication
  rw [nextAreWords_see, drop_see]
  split <;> rfl

@[simp] theorem dropDirection_see :
    dropDirection (see guise tokens) = see guise (dropDirection tokens) := by
  unfold dropDirection
  rw [nextIsWordIn_see, tail_see]
  split <;> rfl

theorem indexedColumns_reads (tokens : List Token) :
    guise.Reads (List.Forall₂ (Node.Resembles guise)) (indexedColumns tokens)
      (indexedColumns (see guise tokens)) := by
  rw [indexedColumns_eq, indexedColumns_eq, name_see]
  refine reads_bind_see ?_
  rintro ⟨column, rest⟩ found
  have nameShorter : rest.length < tokens.length := length_of_name found
  have notLonger := length_dropDirection_le rest
  have node := Node.Resembles.indexedColumn column
    (Token.shows_textTo guise tokens (dropDirection rest))
  simp only [see_mk, dropDirection_see, nextIs_see, tail_see, expectRightParen_see]
  split
  · rename_i goesOn
    have tailShorter := length_tail_of_nextIs goesOn
    refine reads_bind (indexedColumns_reads (dropDirection rest).tail) ?_
    rintro nodes nodes' after - same
    exact .ok ⟨.cons node same, rfl⟩
  · refine reads_bind_see fun after _ => ?_
    exact .ok ⟨.cons node .nil, rfl⟩
termination_by tokens.length
decreasing_by omega

@[simp] theorem bareIndexOption_see :
    bareIndexOption (see guise tokens) = see guise (bareIndexOption tokens) := by
  unfold bareIndexOption
  rw [name_see]
  refine see_bind ?_
  rintro ⟨label, rest⟩
  have isAssigned : ((see guise rest).head?.any fun token =>
      token.kind == .operator && token.text == "=") =
        rest.head?.any fun token => token.kind == .operator && token.text == "=" := by
    cases rest with
    | nil => rfl
    | cons token rest =>
      have same : (see guise token.text == "=") = (token.text == "=") := by
        rw [Bool.eq_iff_iff, beq_iff_eq, beq_iff_eq]
        exact see_eq_iff guise (by decide)
      simp [same]
  simp only [see_mk, isAssigned, drop_see]
  split <;> rfl

theorem indexOption?_reads :
    StepsRead guise (Node.Resembles guise) (indexOption? tokens)
      (indexOption? (see guise tokens)) := by
  have option (rest : List Token) :=
    Node.Resembles.indexOption (Token.shows_textTo guise tokens rest)
  unfold indexOption?
  simp only [nextIsWord_see, nextIs_see, tail_see, skipGroup_see, bareIndexOption_see, name_see]
  split
  · split
    · refine reads_bind_see fun rest _ => ?_
      exact .ok (.some ⟨option rest, rfl⟩)
    · refine reads_bind_see fun rest _ => ?_
      exact .ok (.some ⟨option rest, rfl⟩)
  split
  · refine reads_bind_see ?_
    rintro ⟨label, rest⟩ -
    simp only [see_mk, skipOptionalGroup_see]
    refine reads_bind_see fun rest _ => ?_
    exact .ok (.some ⟨option rest, rfl⟩)
  · exact .ok .none

@[simp] theorem dropIndexKind_see :
    dropIndexKind (see guise tokens) = see guise (dropIndexKind tokens) := by
  unfold dropIndexKind
  simp only [nextIsWord_see, tail_see, dropWord_see]
  split
  · rfl
  split <;> rfl

theorem indexOptions_reads :
    guise.Reads (List.Forall₂ (Node.Resembles guise)) (indexOptions tokens)
      (indexOptions (see guise tokens)) :=
  many_reads (indexOption?_reads guise) tokens

theorem keyTail_reads :
    guise.Reads (List.Forall₂ (Node.Resembles guise)) (keyTail tokens)
      (keyTail (see guise tokens)) := by
  unfold keyTail
  simp only [dropIndexKind_see, nextIs_see, tail_see]
  split
  · refine reads_bind (indexedColumns_reads guise _) ?_
    rintro columns columns' rest - sameColumns
    refine reads_bind (indexOptions_reads guise rest) ?_
    rintro options options' after - sameOptions
    exact .ok ⟨List.rel_append sameColumns sameOptions, rfl⟩
  · have noColumns : guise.Reads (List.Forall₂ (Node.Resembles guise))
        (.ok ([], dropIndexKind tokens)) (.ok ([], see guise (dropIndexKind tokens))) :=
      .ok ⟨.nil, rfl⟩
    refine reads_bind noColumns ?_
    rintro columns columns' rest - sameColumns
    refine reads_bind (indexOptions_reads guise rest) ?_
    rintro options options' after - sameOptions
    exact .ok ⟨List.rel_append sameColumns sameOptions, rfl⟩

/-! ## References -/

@[simp] theorem referenceAction_see :
    referenceAction (see guise tokens) = see guise (referenceAction tokens) := by
  unfold referenceAction
  simp only [nextIsWord_see, tail_see, drop_see, expectWord_see]
  split
  · rfl
  split
  · split <;> rfl
  · rfl

theorem referenceOption?_reads :
    StepsRead guise (fun _ _ => True) (referenceOption? tokens)
      (referenceOption? (see guise tokens)) := by
  unfold referenceOption?
  simp only [nextAreWords_see, drop_see, referenceAction_see]
  split
  · refine reads_bind_see fun rest _ => ?_
    exact .ok (.some ⟨trivial, rfl⟩)
  split
  · exact .ok (.some ⟨trivial, rfl⟩)
  · exact .ok .none

/-- What follows a repetition whose items are dropped. -/
theorem tokensAfter_many {α : Type} {step : Step α} {progresses : step.Progresses}
    (same : ∀ tokens, StepsRead guise (fun _ _ => True) (step tokens) (step (see guise tokens))) :
    (many step progresses (see guise tokens) >>= fun item => .ok item.2) =
      see guise (many step progresses tokens >>= fun item => .ok item.2) := by
  have read : guise.Reads (List.Forall₂ fun _ _ => True) (many step progresses tokens)
      (many step progresses (see guise tokens)) := many_reads same tokens
  generalize many step progresses tokens = result at read
  generalize many step progresses (see guise tokens) = result' at read
  cases read with
  | ok related => exact congrArg Except.ok related.2
  | error related => exact congrArg Except.error related

theorem referenceOptions_see :
    referenceOptions (see guise tokens) = see guise (referenceOptions tokens) :=
  tokensAfter_many guise tokens (referenceOption?_reads guise)

@[simp] theorem referencesTail_see :
    referencesTail (see guise tokens) = see guise (referencesTail tokens) := by
  unfold referencesTail
  rw [name_see]
  refine see_bind ?_
  rintro ⟨label, rest⟩
  simp only [see_mk, dottedParts_see]
  refine see_bind ?_
  rintro ⟨parts, rest⟩
  simp only [see_mk, skipOptionalGroup_see]
  refine see_bind fun rest => ?_
  exact referenceOptions_see guise rest

/-! ## Constraints -/

theorem constraintBody_reads (start : List Token) {label label' : Option Node}
    (sameLabel : Option.Rel (Node.Resembles guise) label label') :
    guise.Reads (Node.Resembles guise) (constraintBody start label tokens)
      (constraintBody (see guise start) label' (see guise tokens)) := by
  have shows (after : List Token) := Token.shows_textTo guise start after
  have labels : List.Forall₂ (Node.Resembles guise) label.toList label'.toList := by
    cases sameLabel with
    | none => exact .nil
    | some same => exact .cons same .nil
  unfold constraintBody
  simp only [nextIsWord_see, tail_see, expectWord_see, referencesTail_see,
    dropNotForReplication_see, skipGroup_see]
  split
  · refine reads_bind_see fun rest _ => ?_
    refine reads_bind (keyTail_reads guise rest) ?_
    rintro children children' rest - same
    exact .ok ⟨.primaryKey (List.rel_append labels same) (shows rest), rfl⟩
  split
  · refine reads_bind (expression_reads guise tokens.tail) ?_
    rintro value value' rest - -
    simp only [nextAreWords_see, drop_see]
    split
    · exact .ok ⟨.constraint _ (shows (rest.drop 2)), rfl⟩
    · exact .ok ⟨.constraint _ (shows rest), rfl⟩
  split
  · refine reads_bind (keyTail_reads guise tokens.tail) ?_
    rintro children children' rest - -
    exact .ok ⟨.constraint _ (shows rest), rfl⟩
  split
  · refine reads_bind_see fun rest _ => ?_
    rw [skipOptionalGroup_see]
    refine reads_bind_see fun rest _ => ?_
    rw [expectWord_see]
    refine reads_bind_see fun rest _ => ?_
    rw [referencesTail_see]
    refine reads_bind_see fun rest _ => ?_
    exact .ok ⟨.constraint _ (shows rest), rfl⟩
  split
  · refine reads_bind_see fun rest _ => ?_
    exact .ok ⟨.constraint _ (shows rest), rfl⟩
  split
  · refine reads_bind_see fun rest _ => ?_
    exact .ok ⟨.constraint _ (shows rest), rfl⟩
  · exact reads_refuse guise tokens _

theorem identifier_reads :
    guise.Reads (Node.Resembles guise) (identifier tokens) (identifier (see guise tokens)) := by
  unfold identifier
  rw [name_see]
  refine reads_bind_see ?_
  rintro ⟨value, rest⟩ -
  exact .ok ⟨.identifier value (Token.shows_textTo guise tokens rest), rfl⟩

theorem constraint_reads :
    guise.Reads (Node.Resembles guise) (constraint tokens) (constraint (see guise tokens)) := by
  unfold constraint
  rw [nextIsWord_see, tail_see]
  split
  · refine reads_bind (identifier_reads guise tokens.tail) ?_
    rintro label label' rest - same
    exact constraintBody_reads guise rest tokens (.some same)
  · exact constraintBody_reads guise tokens tokens .none

/-! ## Columns -/

theorem columnOption_reads :
    guise.Reads (Node.Resembles guise) (columnOption tokens)
      (columnOption (see guise tokens)) := by
  have shows (after : List Token) := Token.shows_textTo guise tokens after
  unfold columnOption
  simp only [nextIsWord_see, nextAreWords_see, nextIsWordIn_see, tail_see, drop_see,
    skipOptionalGroup_see, name_see, unknownOption_see]
  split
  · refine reads_bind_see fun rest _ => ?_
    rw [dropNotForReplication_see]
    exact .ok ⟨.identity (shows _), rfl⟩
  split
  · exact .ok ⟨.constraint _ (shows _), rfl⟩
  split
  · exact .ok ⟨.constraint _ (shows _), rfl⟩
  split
  · exact .ok ⟨.constraint _ (shows _), rfl⟩
  split
  · refine reads_bind_see ?_
    rintro ⟨label, rest⟩ -
    exact .ok ⟨.collation (shows rest), rfl⟩
  split
  · exact constraint_reads guise tokens
  · refine reads_bind_see fun rest _ => ?_
    exact .ok ⟨.unknown _ (shows rest), rfl⟩

theorem columnOption?_reads :
    StepsRead guise (Node.Resembles guise) (columnOption? tokens)
      (columnOption? (see guise tokens)) := by
  unfold columnOption?
  rw [atElementEnd_see]
  split
  · exact .ok .none
  · exact (columnOption_reads guise tokens).map fun _ _ same => .some same

theorem columnOptions_reads :
    guise.Reads (List.Forall₂ (Node.Resembles guise)) (columnOptions tokens)
      (columnOptions (see guise tokens)) :=
  many_reads (columnOption?_reads guise) tokens

theorem columnType_reads :
    guise.Reads (List.Forall₂ (Node.Resembles guise)) (columnType tokens)
      (columnType (see guise tokens)) := by
  unfold columnType
  rw [atElementEnd_see, atColumnOption_see]
  split
  · exact .ok ⟨.nil, rfl⟩
  · refine reads_bind (dataType_reads guise tokens) ?_
    rintro type type' rest - same
    exact .ok ⟨.cons (.dataType same) .nil, rfl⟩

theorem column_reads :
    guise.Reads (Node.Resembles guise) (column tokens) (column (see guise tokens)) := by
  have shows (after : List Token) := Token.shows_textTo guise tokens after
  unfold column
  refine reads_bind (identifier_reads guise tokens) ?_
  rintro label label' rest - sameLabel
  simp only [nextIsWord_see, tail_see]
  split
  · refine reads_bind (expression_reads guise rest.tail) ?_
    rintro value value' rest - sameValue
    simp only [dropWord_see]
    refine reads_bind (columnOptions_reads guise (dropWord "PERSISTED" rest)) ?_
    rintro options options' rest - sameOptions
    exact .ok ⟨.computedColumn (.cons sameLabel (.cons sameValue sameOptions)) (shows rest), rfl⟩
  · refine reads_bind (columnType_reads guise rest) ?_
    rintro type type' rest - sameType
    refine reads_bind (columnOptions_reads guise rest) ?_
    rintro options options' rest - sameOptions
    exact .ok ⟨.column (List.rel_append (.cons sameLabel sameType) sameOptions) (shows rest), rfl⟩

end SqlSchema.Grammar
