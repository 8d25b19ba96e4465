import SqlSchema.Grammar.DataType
import SqlSchema.Proofs.Parallel.Skip

/-!
Names and data types in parallel lists. The group of a type ends at its `)` whether its arguments
are read or passed over, so a type has the same arguments in both lists.
-/

namespace SqlSchema.Grammar

/-! ## Groups of types -/

theorem kind_of_typeArgument? {token : Token} {argument : Option UInt32}
    (found : typeArgument? token = some argument) :
    token.kind = .word ∨ token.kind = .integer := by
  unfold typeArgument? at found
  split at found
  · rename_i isMaximum
    exact .inl (by simpa using (Bool.and_eq_true_iff.mp isMaximum).1)
  · split at found
    · exact .inr ‹_›
    · cases found

theorem closeGroup_of_typeArgument? {token : Token} {argument : Option UInt32}
    (found : typeArgument? token = some argument) (depth : Nat) (tokens : List Token) :
    closeGroup depth (token :: tokens) = closeGroup depth tokens := by
  rcases kind_of_typeArgument? found with kind | kind <;> simp only [closeGroup, kind]

theorem closeGroup_of_comma {separator : Token} (kind : separator.kind = .comma) (depth : Nat)
    (tokens : List Token) : closeGroup depth (separator :: tokens) = closeGroup depth tokens := by
  simp only [closeGroup, kind]

/-- Arguments end where their group does. -/
theorem closeGroup_of_typeArgumentList? {tokens rest : List Token}
    {arguments : List (Option UInt32)}
    (found : typeArgumentList? tokens = some (arguments, rest)) :
    closeGroup 0 tokens = .ok rest := by
  fun_induction typeArgumentList? tokens generalizing arguments rest with
  | case1 => cases found
  | case2 token separator tail argument read comma induction =>
    obtain ⟨⟨others, after⟩, othersFound, equal⟩ := Option.map_eq_some_iff.mp found
    cases equal
    rw [closeGroup_of_typeArgument? read, closeGroup_of_comma comma]
    exact induction othersFound
  | case3 token separator tail argument read notComma paren =>
    cases found
    rw [closeGroup_of_typeArgument? read]
    simp only [closeGroup, paren]
  | case4 => cases found
  | case5 => cases found

theorem closeGroup_of_typeGroup {tokens rest : List Token} {numbers : List UInt32}
    {isMaximum : Bool} (isGroup : nextIs .leftParen tokens = true)
    (found : typeGroup tokens = .ok (numbers, isMaximum, rest)) :
    closeGroup 0 tokens.tail = .ok rest := by
  unfold typeGroup at found
  rw [if_pos isGroup] at found
  split at found
  · rename_i result arguments
    cases found
    unfold typeArguments? at arguments
    split at arguments
    · cases arguments
    · rename_i list after listFound
      dsimp only at arguments
      split at arguments
      · cases arguments
        exact closeGroup_of_typeArgumentList? listFound
      · cases arguments
  · unfold skipGroup at found
    rw [if_pos isGroup] at found
    split at found
    · rename_i closed
      cases found
      exact closed
    · cases found

/-! ## Names in parts -/

theorem dottedParts_of_no_dot {tokens : List Token} (noDot : nextIs .dot tokens = false) :
    dottedParts tokens = .ok ([], tokens) := by
  cases tokens with
  | nil => rfl
  | cons token tokens =>
    have kind : token.kind ≠ .dot := by simpa [nextIs] using noDot
    rw [dottedParts.eq_def]
    exact if_neg kind

theorem optionalParts_of_no_part {tokens : List Token}
    (noPart : (nextIs .dot tokens && nextIsName tokens.tail) = false) :
    optionalParts tokens = ([], tokens) := by
  unfold optionalParts
  split
  · rename_i dot part rest
    have noDot : ¬(dot.kind = .dot ∧ part.isName = true) := by
      simpa [nextIs, nextIsName] using noPart
    exact if_neg noDot
  · rfl

@[simp] theorem typeArgument?_relocated (start line : Nat) (token : Token) :
    typeArgument? (token.relocated start line) = typeArgument? token :=
  rfl

namespace Parallel

variable {exchange : Exchange} {tokens tokens' rest : List Token}

/-! ## Single tokens -/

theorem tail_of_nextIsWord (parallel : Parallel exchange tokens tokens') {keyword : String}
    (next : nextIsWord keyword tokens = true) : Parallel exchange tokens.tail tokens'.tail := by
  cases parallel with
  | stop => simp [nextIsWord, exchange.ends.isWord_eq_false] at next
  | cons _ _ _ parallel => exact parallel

theorem tail_of_nextIsWordIn (parallel : Parallel exchange tokens tokens') {keywords : List String}
    (next : nextIsWordIn keywords tokens = true) :
    Parallel exchange tokens.tail tokens'.tail := by
  cases parallel with
  | stop => simp [nextIsWordIn, exchange.ends.isWordIn_eq_false] at next
  | cons _ _ _ parallel => exact parallel

theorem drop_of_nextAreWords (parallel : Parallel exchange tokens tokens') {keywords : List String}
    (next : nextAreWords keywords tokens = true) :
    Parallel exchange (tokens.drop keywords.length) (tokens'.drop keywords.length) := by
  induction keywords generalizing tokens tokens' with
  | nil => exact parallel
  | cons keyword keywords induction =>
    cases parallel with
    | stop => simp [nextAreWords, exchange.ends.isWord_eq_false] at next
    | cons _ _ _ parallel =>
      exact induction parallel (Bool.and_eq_true_iff.mp next).2

theorem of_dropWord (parallel : Parallel exchange tokens tokens') (keyword : String) :
    Parallel exchange (dropWord keyword tokens) (dropWord keyword tokens') := by
  unfold dropWord
  rw [parallel.nextIsWord_eq]
  split
  · exact parallel.tail_of_nextIsWord ‹_›
  · exact parallel

theorem of_expectWord (parallel : Parallel exchange tokens tokens') {keyword : String}
    (found : expectWord keyword tokens = .ok rest) :
    ∃ rest', expectWord keyword tokens' = .ok rest' ∧ Parallel exchange rest rest' := by
  unfold expectWord at found ⊢
  rw [parallel.nextIsWord_eq]
  split at found
  · rename_i next
    cases found
    rw [if_pos next]
    exact ⟨_, rfl, parallel.tail_of_nextIsWord next⟩
  · cases found

theorem of_expectRightParen (parallel : Parallel exchange tokens tokens')
    (found : expectRightParen tokens = .ok rest) (within : exchange.after.length < rest.length) :
    ∃ rest', expectRightParen tokens' = .ok rest' ∧ Parallel exchange rest rest' := by
  unfold expectRightParen at found ⊢
  split at found
  · rename_i next
    cases found
    rw [parallel.nextIs_eq_of_within within, if_pos next]
    exact ⟨_, rfl, parallel.tail within⟩
  · cases found

theorem of_name (parallel : Parallel exchange tokens tokens') {text : String}
    (found : name tokens = .ok (text, rest)) :
    ∃ rest', name tokens' = .ok (text, rest') ∧ Parallel exchange rest rest' := by
  cases parallel with
  | stop =>
    simp only [name, exchange.ends.isName_eq_false] at found
    cases found
  | cons _ _ _ parallel =>
    unfold name at found ⊢
    dsimp only at found ⊢
    split at found
    · rename_i isName
      cases found
      exact ⟨_, if_pos isName, parallel⟩
    · cases found

/-! ## Names in parts -/

theorem of_dottedParts (parallel : Parallel exchange tokens tokens') {parts : List String}
    (found : dottedParts tokens = .ok (parts, rest)) :
    ∃ rest', dottedParts tokens' = .ok (parts, rest') ∧ Parallel exchange rest rest' := by
  fun_induction dottedParts tokens generalizing tokens' parts rest with
  | case1 => cases parallel
  | case2 => cases found
  | case3 dot isDot part tail isName others after othersFound induction =>
    cases found
    obtain ⟨_, _, _, rfl, parallelPart⟩ :=
      parallel.uncons (Token.not_endsElement_of_kind isDot (by decide) (by decide))
    obtain ⟨_, _, _, rfl, parallelTail⟩ :=
      parallelPart.uncons (Token.not_endsElement_of_isName isName)
    obtain ⟨rest', found', parallelRest⟩ := induction parallelTail othersFound
    refine ⟨rest', ?_, parallelRest⟩
    simp [dottedParts, isDot, isName, found']
  | case4 => cases found
  | case5 => cases found
  | case6 first tail noDot =>
    cases found
    have next := parallel.nextIs_eq (show TokenKind.dot ≠ .comma by decide) (by decide)
    exact ⟨tokens', dottedParts_of_no_dot (by rw [next]; simpa [nextIs] using noDot), parallel⟩

theorem nextPart_eq (parallel : Parallel exchange tokens tokens') :
    (nextIs .dot tokens' && nextIsName tokens'.tail) =
      (nextIs .dot tokens && nextIsName tokens.tail) := by
  cases parallel with
  | stop =>
    simp [nextIs, exchange.ends.kind_beq_eq_false, exchange.newEnds.kind_beq_eq_false]
  | cons _ _ _ parallel =>
    rw [List.tail_cons, List.tail_cons, parallel.nextIsName_eq]
    rfl

theorem of_optionalParts (parallel : Parallel exchange tokens tokens') :
    (optionalParts tokens').1 = (optionalParts tokens).1 ∧
      Parallel exchange (optionalParts tokens).2 (optionalParts tokens').2 := by
  fun_induction optionalParts tokens generalizing tokens' with
  | case1 dot part tail next others after equal induction =>
    obtain ⟨isDot, isName⟩ := next
    obtain ⟨_, _, _, rfl, parallelPart⟩ :=
      parallel.uncons (Token.not_endsElement_of_kind isDot (by decide) (by decide))
    obtain ⟨_, _, _, rfl, parallelTail⟩ :=
      parallelPart.uncons (Token.not_endsElement_of_isName isName)
    obtain ⟨same, parallelRest⟩ := induction parallelTail
    rw [equal] at same parallelRest
    simp [optionalParts, isDot, isName, same, parallelRest]
  | case2 dot part tail noPart =>
    rw [optionalParts_of_no_part
      (by rw [parallel.nextPart_eq]; simpa [nextIs, nextIsName] using noPart)]
    exact ⟨rfl, parallel⟩
  | case3 tokens short =>
    have noPart : (nextIs .dot tokens && nextIsName tokens.tail) = false := by
      rcases tokens with _ | ⟨dot, _ | ⟨part, rest⟩⟩
      · rfl
      · simp [nextIsName]
      · exact absurd rfl (short dot part rest)
    rw [optionalParts_of_no_part (by rw [parallel.nextPart_eq, noPart])]
    exact ⟨rfl, parallel⟩

/-! ## Types -/

theorem uncons_of_typeArgument? {token : Token} {argument : Option UInt32}
    (parallel : Parallel exchange (token :: tokens) tokens')
    (found : typeArgument? token = some argument) :
    ∃ start line rest, tokens' = token.relocated start line :: rest ∧
      Parallel exchange tokens rest := by
  apply parallel.uncons
  rcases kind_of_typeArgument? found with kind | kind <;>
    exact Token.not_endsElement_of_kind kind (by decide) (by decide)

/-- A group that ends within both lists has the same arguments in both, if it has any. -/
theorem typeArgumentList?_eq (parallel : Parallel exchange tokens tokens') {rest' : List Token}
    (closed : closeGroup 0 tokens = .ok rest) (closed' : closeGroup 0 tokens' = .ok rest')
    (within : exchange.after.length < rest.length) :
    typeArgumentList? tokens' =
      (typeArgumentList? tokens).map fun (arguments, _) => (arguments, rest') := by
  fun_induction typeArgumentList? tokens generalizing tokens' with
  | case1 token separator tail noArgument =>
    have shorter := length_of_closeGroup closed
    obtain ⟨_, _, _, rfl, parallelTail⟩ := parallel.uncons_of_within (by simp at shorter ⊢; omega)
    cases parallelTail with
    | stop | cons => simp [typeArgumentList?, noArgument]
  | case2 token separator tail argument read comma induction =>
    obtain ⟨_, _, _, rfl, parallelSeparator⟩ := parallel.uncons_of_typeArgument? read
    rw [closeGroup_of_typeArgument? read, closeGroup_of_comma comma] at closed
    have shorter := length_of_closeGroup closed
    obtain ⟨_, _, _, rfl, parallelTail⟩ := parallelSeparator.uncons_of_within (by omega)
    rw [closeGroup_of_typeArgument? (by simpa using read),
      closeGroup_of_comma (by simpa using comma)] at closed'
    have same := induction parallelTail closed closed'
    simp only [typeArgumentList?, typeArgument?_relocated, read, Token.kind_relocated, comma, same,
      if_true, Option.map_map]
    rfl
  | case3 token separator tail argument read notComma paren =>
    obtain ⟨_, _, _, rfl, parallelSeparator⟩ := parallel.uncons_of_typeArgument? read
    rw [closeGroup_of_typeArgument? read] at closed
    have shorter := length_of_closeGroup closed
    simp only [closeGroup, paren] at closed
    cases closed
    obtain ⟨_, _, _, rfl, parallelTail⟩ := parallelSeparator.uncons_of_within within
    rw [closeGroup_of_typeArgument? (by simpa using read)] at closed'
    simp only [closeGroup, Token.kind_relocated, paren] at closed'
    cases closed'
    simp [typeArgumentList?, read, paren]
  | case4 token separator tail argument read notComma notParen =>
    obtain ⟨_, _, _, rfl, parallelSeparator⟩ := parallel.uncons_of_typeArgument? read
    have goesOn : ¬separator.EndsElement := fun ends => ends.elim notComma notParen
    obtain ⟨_, _, _, rfl, parallelTail⟩ := parallelSeparator.uncons goesOn
    simp [typeArgumentList?, read, notComma, notParen]
  | case5 tokens short =>
    rcases tokens with _ | ⟨token, _ | ⟨separator, tail⟩⟩
    · cases parallel
    · have shorter := length_of_closeGroup closed
      have longer := parallel.length_lt
      simp only [List.length_cons, List.length_nil] at shorter longer
      omega
    · exact absurd rfl (short token separator tail)

theorem of_typeGroup (parallel : Parallel exchange tokens tokens') {numbers : List UInt32}
    {isMaximum : Bool} (found : typeGroup tokens = .ok (numbers, isMaximum, rest))
    (within : exchange.after.length < rest.length) :
    ∃ rest', typeGroup tokens' = .ok (numbers, isMaximum, rest') ∧
      Parallel exchange rest rest' := by
  have sameNext := parallel.nextIs_eq (show TokenKind.leftParen ≠ .comma by decide) (by decide)
  cases isGroup : nextIs .leftParen tokens with
  | false =>
    rw [isGroup] at sameNext
    unfold typeGroup at found ⊢
    rw [isGroup] at found
    cases found
    rw [sameNext]
    exact ⟨tokens', rfl, parallel⟩
  | true =>
    rw [isGroup] at sameNext
    have closed := closeGroup_of_typeGroup isGroup found
    have shorter := length_of_closeGroup closed
    have parallelTail := parallel.tail (by omega)
    obtain ⟨rest', closed', parallelRest⟩ := parallelTail.of_closeGroup closed within
    refine ⟨rest', ?_, parallelRest⟩
    have arguments := parallelTail.typeArgumentList?_eq closed closed' within
    unfold typeGroup skipGroup typeArguments? at found ⊢
    rw [isGroup, closed] at found
    rw [sameNext, closed', arguments]
    simp only [if_true] at found ⊢
    cases read : typeArgumentList? tokens.tail with
    | none =>
      rw [read] at found
      cases found
      rfl
    | some result =>
      obtain ⟨list, after⟩ := result
      rw [read] at found
      simp only [Option.map_some] at found ⊢
      by_cases few : (list.filterMap id).length ≤ 2
      · rw [if_pos few] at found ⊢
        cases found
        rfl
      · rw [if_neg few] at found ⊢
        cases found
        rfl

theorem of_dataType (parallel : Parallel exchange tokens tokens') {type : DataType}
    (found : dataType tokens = .ok (type, rest)) (within : exchange.after.length < rest.length) :
    ∃ rest', dataType tokens' = .ok (type, rest') ∧ Parallel exchange rest rest' := by
  unfold dataType at found ⊢
  obtain ⟨⟨first, afterName⟩, nameFound, found⟩ := bind_eq_ok.mp found
  obtain ⟨⟨parts, afterParts⟩, partsFound, found⟩ := bind_eq_ok.mp found
  obtain ⟨⟨numbers, isMaximum, afterGroup⟩, groupFound, found⟩ := bind_eq_ok.mp found
  cases found
  obtain ⟨afterName', nameFound', parallelName⟩ := parallel.of_name nameFound
  obtain ⟨afterParts', partsFound', parallelParts⟩ := parallelName.of_dottedParts partsFound
  obtain ⟨rest', groupFound', parallelRest⟩ := parallelParts.of_typeGroup groupFound within
  refine ⟨rest', ?_, parallelRest⟩
  rw [← parallel.textTo_eq parallelRest]
  exact bind_eq_ok.mpr ⟨_, nameFound', bind_eq_ok.mpr ⟨_, partsFound',
    bind_eq_ok.mpr ⟨_, groupFound', rfl⟩⟩⟩

end Parallel

end SqlSchema.Grammar
