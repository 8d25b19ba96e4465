import SqlSchema.Proofs.Heading
import SqlSchema.Proofs.Parallel.Element
import SqlSchema.Proofs.Suffix

/-!
Batches. Scripts with a line `GO` between them are read like each of them alone, unless the first
ends where a statement still goes on: a statement that is passed over does not end in a group, and a
filegroup may have the name `GO`.
-/

namespace SqlSchema

namespace Token

/-! ## Keywords -/

/-- What a keyword is besides itself: the same keyword in another case. -/
theorem isWord_of_isWord {token : Token} {keyword : String} (isWord : token.isWord keyword = true)
    (other : String) : token.isWord other = Text.equalIgnoringCase keyword other := by
  simp only [Token.isWord, Text.equalIgnoringCase, Bool.and_eq_true, beq_iff_eq] at isWord
  rw [Token.isWord, Text.equalIgnoringCase, Text.equalIgnoringCase, isWord.1, isWord.2]
  rfl

/-! ## The end of a batch -/

section

variable {token : Token} (ends : token.endsBatch = true)
include ends

theorem kind_of_endsBatch : token.kind = .word := by
  simp only [endsBatch, isWord, Bool.and_eq_true, beq_iff_eq] at ends
  exact ends.1.1

theorem isWord_of_endsBatch (keyword : String) :
    token.isWord keyword = Text.equalIgnoringCase "GO" keyword :=
  isWord_of_isWord (Bool.and_eq_true_iff.mp ends).1 keyword

end

/-! ## Open ends -/

/-- The number of groups that are open after the tokens, with `depth` open before them. -/
def openGroups (depth : Nat) : List Token → Nat
  | [] => depth
  | token :: rest =>
    match token.kind with
    | .leftParen => openGroups (depth + 1) rest
    | .rightParen => openGroups (depth - 1) rest
    | _ => openGroups depth rest

theorem openGroups_append (depth : Nat) (front rest : List Token) :
    openGroups depth (front ++ rest) = openGroups (openGroups depth front) rest := by
  fun_induction openGroups depth front <;> simp_all [openGroups]

/-- Fewer groups before the tokens are fewer groups after them. -/
theorem openGroups_le_openGroups {depth more : Nat} (fewer : depth ≤ more) (tokens : List Token) :
    openGroups depth tokens ≤ openGroups more tokens := by
  induction tokens generalizing depth more with
  | nil => exact fewer
  | cons token rest induction =>
    unfold openGroups
    split
    · exact induction (Nat.add_le_add_right fewer 1)
    · exact induction (Nat.sub_le_sub_right fewer 1)
    · exact induction fewer

/-- The words after which a table takes any name for its filegroup. -/
def filegroupWords : List String := ["ON", "TEXTIMAGE_ON", "FILESTREAM_ON"]

/-- Whether nothing that begins in the tokens goes on after a `GO`. -/
structure IsClosed (tokens : List Token) : Prop where
  groups : openGroups 0 tokens = 0
  filegroup : ∀ last ∈ tokens.getLast?, last.isWordIn filegroupWords = false

instance (tokens : List Token) : Decidable (IsClosed tokens) :=
  decidable_of_iff
    (openGroups 0 tokens = 0 ∧ ∀ last ∈ tokens.getLast?, last.isWordIn filegroupWords = false)
    ⟨fun both => ⟨both.1, both.2⟩, fun closed => ⟨closed.groups, closed.filegroup⟩⟩

theorem IsClosed.of_suffix {tokens rest : List Token} (closed : IsClosed tokens)
    (isSuffix : rest <:+ tokens) : IsClosed rest := by
  obtain ⟨front, rfl⟩ := isSuffix
  constructor
  · have fewer := openGroups_le_openGroups (Nat.zero_le (openGroups 0 front)) rest
    rw [← openGroups_append, closed.groups] at fewer
    exact Nat.le_zero.mp fewer
  · intro last isLast
    have isLastOfAll : (front ++ rest).getLast? = some last := by
      rw [List.getLast?_append, Option.mem_def.mp isLast]
      rfl
    exact closed.filegroup last isLastOfAll

theorem textTo_append (tokens rest more : List Token) :
    textTo (tokens ++ more) (rest ++ more) = textTo tokens rest := by
  unfold textTo run
  rw [List.length_append, List.length_append, Nat.add_sub_add_right,
    List.take_append_of_le_length (Nat.sub_le _ _)]

end Token

namespace Grammar

variable {tokens rest : List Token} {stop : Token} (ends : stop.endsBatch = true)
  (more : List Token)

/-! ## Looking ahead -/

section

include ends

theorem nextIsWord_append {keyword : String} (other : Text.equalIgnoringCase "GO" keyword = false) :
    nextIsWord keyword (tokens ++ stop :: more) = nextIsWord keyword tokens := by
  cases tokens with
  | nil => exact (Token.isWord_of_endsBatch ends keyword).trans other
  | cons token tokens => rfl

theorem nextIsWordIn_append {keywords : List String}
    (others : keywords.any (Text.equalIgnoringCase "GO") = false) :
    nextIsWordIn keywords (tokens ++ stop :: more) = nextIsWordIn keywords tokens := by
  cases tokens with
  | nil =>
    have isWord : stop.isWord = Text.equalIgnoringCase "GO" :=
      funext (Token.isWord_of_endsBatch ends)
    change keywords.any stop.isWord = false
    rw [isWord, others]
  | cons token tokens => rfl

theorem nextAreWords_append {keywords : List String}
    (others : keywords.any (Text.equalIgnoringCase "GO") = false) :
    nextAreWords keywords (tokens ++ stop :: more) = nextAreWords keywords tokens := by
  induction keywords generalizing tokens with
  | nil => simp only [nextAreWords]
  | cons keyword keywords induction =>
    simp only [List.any_cons, Bool.or_eq_false_iff] at others
    cases tokens with
    | nil =>
      change (stop.isWord keyword && _) = false
      rw [Token.isWord_of_endsBatch ends, others.1, Bool.false_and]
    | cons token tokens =>
      rw [List.cons_append, nextAreWords, nextAreWords, induction others.2]

theorem nextIs_append {kind : TokenKind} (notWord : kind ≠ .word) :
    nextIs kind (tokens ++ stop :: more) = nextIs kind tokens := by
  cases tokens with
  | nil =>
    change (stop.kind == kind) = false
    rw [Token.kind_of_endsBatch ends]
    exact beq_eq_false_iff_ne.mpr notWord.symm
  | cons token tokens => rfl

end

/-! ## Statements that are passed over -/

section

include ends

theorem skipStatement_append {depth : Nat} (closed : Token.openGroups depth tokens = 0) :
    skipStatement depth (tokens ++ stop :: more) = skipStatement depth tokens ++ stop :: more := by
  induction tokens generalizing depth with
  | nil =>
    obtain rfl : depth = 0 := closed
    simp [skipStatement, ends]
  | cons token rest induction =>
    unfold Token.openGroups at closed
    rw [List.cons_append]
    unfold skipStatement
    split
    · rfl
    · split
      · exact induction (by simpa [*] using closed)
      · exact induction (by simpa [*] using closed)
      · exact induction (by simpa [*] using closed)

theorem dropWhile_append_stop :
    (tokens ++ stop :: more).dropWhile (!·.endsBatch) =
      tokens.dropWhile (!·.endsBatch) ++ stop :: more := by
  induction tokens with
  | nil => simp [ends]
  | cons token tokens induction =>
    cases isEnd : token.endsBatch with
    | true => simp [isEnd]
    | false => simpa [isEnd] using induction

theorem atModule_append (tokens : List Token) :
    atModule (tokens ++ stop :: more) = atModule tokens := by
  cases tokens with
  | nil =>
    change (nextIsWordIn ["CREATE", "ALTER"] ([] ++ stop :: more) && _) = false
    rw [nextIsWordIn_append ends more (by decide +kernel)]
    rfl
  | cons first tokens =>
    have sameKind :
        nextIsWordIn moduleWords
            (if nextAreWords ["OR", "ALTER"] (tokens ++ stop :: more) then
              (first :: (tokens ++ stop :: more)).drop 3
            else tokens ++ stop :: more) =
          nextIsWordIn moduleWords
            (if nextAreWords ["OR", "ALTER"] tokens then (first :: tokens).drop 3 else tokens) := by
      rw [nextAreWords_append ends more (by decide +kernel)]
      split
      · rename_i isAltered
        have length : 2 ≤ tokens.length := length_of_nextAreWords isAltered
        rw [List.drop_succ_cons, List.drop_succ_cons, List.drop_append_of_le_length length]
        exact nextIsWordIn_append ends more (by decide +kernel)
      · exact nextIsWordIn_append ends more (by decide +kernel)
    exact congrArg (nextIsWordIn ["CREATE", "ALTER"] (first :: tokens) && ·) sameKind

theorem afterStatement_append {first : Token} (closed : Token.openGroups 0 tokens = 0) :
    afterStatement first (tokens ++ stop :: more) =
      afterStatement first tokens ++ stop :: more := by
  have sameModule : atModule (first :: (tokens ++ stop :: more)) = atModule (first :: tokens) :=
    atModule_append ends more (first :: tokens)
  unfold afterStatement
  rw [sameModule]
  split
  · exact dropWhile_append_stop ends more
  · exact skipStatement_append ends more closed

theorem dropBatchCount_append :
    dropBatchCount (tokens ++ stop :: more) = dropBatchCount tokens ++ stop :: more := by
  cases tokens with
  | nil => simp [dropBatchCount, Token.kind_of_endsBatch ends]
  | cons token tokens =>
    simp only [List.cons_append, dropBatchCount]
    split <;> rfl

end

/-! ## Tables -/

theorem name_append {text : String} (found : name tokens = .ok (text, rest)) :
    name (tokens ++ more) = .ok (text, rest ++ more) := by
  cases tokens with
  | nil => cases found
  | cons token tokens =>
    simp only [name, List.cons_append] at found ⊢
    split at found
    · rename_i isName
      cases found
      rw [if_pos isName]
    · cases found

theorem closeGroup_append {depth : Nat} (found : closeGroup depth tokens = .ok rest) :
    closeGroup depth (tokens ++ more) = .ok (rest ++ more) := by
  fun_induction closeGroup depth tokens with
  | case1 => cases found
  | case2 depth token tokens kind induction => simpa [closeGroup, kind] using induction found
  | case3 token tokens kind =>
    cases found
    simp [closeGroup, kind]
  | case4 token tokens depth kind induction => simpa [closeGroup, kind] using induction found
  | case5 token tokens depth notLeft notRight notDeeper induction =>
    rw [List.cons_append, closeGroup.eq_def]
    dsimp only
    split
    · contradiction
    · exact absurd rfl (notRight ‹_›)
    · exact absurd rfl (notDeeper _ ‹_›)
    · exact induction found

theorem skipGroup_append (found : skipGroup tokens = .ok rest) :
    skipGroup (tokens ++ more) = .ok (rest ++ more) := by
  cases tokens with
  | nil => cases found
  | cons token tokens =>
    unfold skipGroup at found ⊢
    split at found
    · rename_i isGroup
      rw [if_pos (show nextIs .leftParen (token :: tokens ++ more) = true from isGroup)]
      exact closeGroup_append more found
    · cases found

/-- The elements of a table do not depend on what follows their `)`. -/
theorem tableElements_exchange {front after : List Token} {nodes : List Node} {close : Token}
    (closes : close.kind = .rightParen)
    (found : tableElements (front ++ close :: after) = .ok (nodes, close :: after))
    (after' : List Token) :
    tableElements (front ++ close :: after') = .ok (nodes, close :: after') := by
  let exchange : Exchange :=
    ⟨front ++ close :: after, close, after, .inr closes, close, after', .inr closes⟩
  have parallel : Parallel exchange (front ++ close :: after)
      (front.map id ++ close :: after') :=
    Parallel.of_map (fun token => ⟨token.start, token.line, rfl⟩) (List.suffix_refl _)
  obtain ⟨rest', found', parallelRest⟩ :=
    parallel.of_tableElements rfl found (Nat.lt_succ_self after.length)
  rwa [parallelRest.eq_of_stop, List.map_id] at found'

theorem tableElements_append {nodes : List Node} {close : Token} {after : List Token}
    (closes : close.kind = .rightParen)
    (found : tableElements tokens = .ok (nodes, close :: after)) :
    tableElements (tokens ++ more) = .ok (nodes, close :: (after ++ more)) := by
  obtain ⟨front, rfl⟩ := isSuffix_of_tableElements found
  rw [List.append_assoc, List.cons_append]
  exact tableElements_exchange closes found (after ++ more)

theorem tableDefinition_append {definition : TableDefinition}
    (found : tableDefinition tokens = .ok (definition, rest)) :
    tableDefinition (tokens ++ more) = .ok (definition, rest ++ more) := by
  cases tokens with
  | nil => cases found
  | cons token tokens =>
    unfold tableDefinition at found ⊢
    split at found
    · rename_i isGroup
      obtain ⟨⟨nodes, after⟩, nodesFound, found⟩ := bind_eq_ok.mp found
      obtain ⟨afterParen, closed, equal⟩ := bind_eq_ok.mp found
      obtain ⟨close, rfl, closes⟩ := exists_of_expectRightParen closed
      cases equal
      have nodesFound' := tableElements_append more closes nodesFound
      rw [if_pos (show nextIs .leftParen (token :: tokens ++ more) = true from isGroup)]
      refine bind_eq_ok.mpr ⟨_, nodesFound', ?_⟩
      refine bind_eq_ok.mpr ⟨_, expectRightParen_of_kind closes, ?_⟩
      rw [Token.textTo_append]
    · cases found

section

include ends

theorem tableNameParts_append {parts : List String}
    (found : tableNameParts tokens = .ok (parts, rest)) :
    tableNameParts (tokens ++ stop :: more) = .ok (parts, rest ++ stop :: more) := by
  fun_induction tableNameParts tokens generalizing parts rest with
  | case1 =>
    cases found
    have notDot : stop.kind ≠ .dot := by simp [Token.kind_of_endsBatch ends]
    rw [List.nil_append, tableNameParts.eq_def]
    dsimp only
    rw [if_neg notDot]
  | case2 => cases found
  | case3 => cases found
  | case4 dot isDot part tail isEmpty parts rest read induction =>
    cases found
    have read' := induction read
    simp only [List.cons_append] at read' ⊢
    simp only [tableNameParts, if_pos isDot, if_pos isEmpty, read']
  | case5 => cases found
  | case6 dot isDot part tail notEmpty isName parts rest read induction =>
    cases found
    simp only [List.cons_append, tableNameParts, if_pos isDot, if_neg notEmpty, if_pos isName,
      induction read]
  | case7 => cases found
  | case8 token tokens noDot =>
    cases found
    rw [List.cons_append, tableNameParts.eq_def]
    dsimp only
    rw [if_neg noDot]

theorem tableName_append {defaultSchema : String} {names : String × String}
    (found : tableName defaultSchema tokens = .ok (names, rest)) :
    tableName defaultSchema (tokens ++ stop :: more) = .ok (names, rest ++ stop :: more) := by
  obtain ⟨⟨first, afterFirst⟩, firstFound, found⟩ := bind_eq_ok.mp found
  obtain ⟨⟨parts, afterParts⟩, partsFound, found⟩ := bind_eq_ok.mp found
  refine bind_eq_ok.mpr ⟨_, name_append _ firstFound, ?_⟩
  refine bind_eq_ok.mpr ⟨_, tableNameParts_append ends more partsFound, ?_⟩
  dsimp only at found ⊢
  split at found
  · rename_i isShort
    cases found
    rw [if_pos isShort]
  · cases found

theorem skipOptionalGroup_append (found : skipOptionalGroup tokens = .ok rest) :
    skipOptionalGroup (tokens ++ stop :: more) = .ok (rest ++ stop :: more) := by
  unfold skipOptionalGroup at found ⊢
  rw [nextIs_append ends more (by decide)]
  refine branch_eq found (fun _ found => skipGroup_append _ found) fun _ found => ?_
  cases found
  rfl

/-- No option of a table begins with `GO`. -/
theorem tableOption?_of_endsBatch : tableOption? (stop :: more) = .ok none := by
  have noFilegroup : nextIsWordIn ["ON", "TEXTIMAGE_ON", "FILESTREAM_ON"]
      ([] ++ stop :: more) = false :=
    nextIsWordIn_append ends more (by decide +kernel)
  have noWith : nextIsWord "WITH" ([] ++ stop :: more) = false :=
    nextIsWord_append ends more (by decide +kernel)
  have noAs : nextIsWord "AS" ([] ++ stop :: more) = false :=
    nextIsWord_append ends more (by decide +kernel)
  rw [List.nil_append] at noFilegroup noWith noAs
  unfold tableOption?
  rw [noFilegroup, noWith, noAs]
  rfl

/-- The option of a table, unless it takes the `GO` for its filegroup. -/
theorem tableOption?_append {option : Option (Unit × List Token)}
    (filegroup : ∀ last ∈ tokens.getLast?, last.isWordIn Token.filegroupWords = false)
    (found : tableOption? tokens = .ok option) :
    tableOption? (tokens ++ stop :: more) =
      .ok (option.map fun (value, rest) => (value, rest ++ stop :: more)) := by
  cases tokens with
  | nil =>
    cases found
    exact tableOption?_of_endsBatch ends more
  | cons token tail =>
    have sameWith : nextIs .leftParen (token :: tail ++ stop :: more).tail =
        nextIs .leftParen (token :: tail).tail :=
      nextIs_append ends more (by decide)
    have sameAs : nextIsWordIn ["FILETABLE", "NODE", "EDGE"] (token :: tail ++ stop :: more).tail =
        nextIsWordIn ["FILETABLE", "NODE", "EDGE"] (token :: tail).tail :=
      nextIsWordIn_append ends more (by decide +kernel)
    unfold tableOption? at found ⊢
    rw [nextIsWordIn_append ends more (by decide +kernel),
      nextIsWord_append ends more (by decide +kernel),
      nextIsWord_append ends more (by decide +kernel), sameWith, sameAs]
    refine branch_eq found (fun isFilegroup found => ?_) fun _ found =>
      branch_eq found (fun _ found => ?_) fun _ found =>
      branch_eq found (fun isAs found => ?_) fun _ found => ?_
    · obtain ⟨after, skipped, equal⟩ := bind_eq_ok.mp found
      cases equal
      cases tail with
      | nil =>
        have notFilegroup := filegroup token rfl
        exact absurd isFilegroup (Bool.eq_false_iff.mp notFilegroup)
      | cons label tail =>
        refine bind_eq_ok.mpr ⟨_, ?_, rfl⟩
        have skipped' := skipOptionalGroup_append ends more skipped
        rwa [apply_ite (· ++ stop :: more)] at skipped'
    · obtain ⟨after, skipped, equal⟩ := bind_eq_ok.mp found
      cases equal
      exact bind_eq_ok.mpr ⟨_, skipGroup_append _ skipped, rfl⟩
    · cases found
      cases tail with
      | nil => simp [nextIsWordIn] at isAs
      | cons kind tail => rfl
    · cases found
      rfl

theorem tableOptions_append (closed : Token.IsClosed tokens)
    (found : tableOptions tokens = .ok rest) :
    tableOptions (tokens ++ stop :: more) = .ok (rest ++ stop :: more) := by
  obtain ⟨⟨values, after⟩, read, equal⟩ := bind_eq_ok.mp found
  cases equal
  clear found
  refine bind_eq_ok.mpr ⟨(values, rest ++ stop :: more), ?_, rfl⟩
  fun_induction many tableOption? progresses_tableOption? tokens generalizing values with
  | case1 => cases read
  | case2 tokens none =>
    cases read
    exact many_of_none (tableOption?_append ends more closed.filegroup none)
  | case3 => cases read
  | case4 tokens value next item others after othersRead induction =>
    cases read
    have closedNext := closed.of_suffix (isSuffix_of_tableOption? item)
    rw [many_of_some (tableOption?_append ends more closed.filegroup item),
      induction closedNext others othersRead]
    rfl

theorem createTable_append {defaultSchema : String} {statement : CreateTable}
    (closed : Token.IsClosed tokens) (isTable : nextAreWords ["CREATE", "TABLE"] tokens = true)
    (found : createTable defaultSchema tokens = .ok (statement, rest)) :
    createTable defaultSchema (tokens ++ stop :: more) = .ok (statement, rest ++ stop :: more) := by
  have length : 2 ≤ tokens.length := length_of_nextAreWords isTable
  obtain ⟨⟨names, afterName⟩, nameFound, found⟩ := bind_eq_ok.mp found
  obtain ⟨⟨definition, afterDefinition⟩, definitionFound, found⟩ := bind_eq_ok.mp found
  obtain ⟨afterOptions, optionsFound, equal⟩ := bind_eq_ok.mp found
  cases equal
  have nameSuffix := (isSuffix_of_tableName nameFound).trans (List.drop_suffix 2 tokens)
  have definitionSuffix := (isSuffix_of_tableDefinition definitionFound).trans nameSuffix
  unfold createTable
  rw [List.drop_append_of_le_length length]
  refine bind_eq_ok.mpr ⟨_, tableName_append ends more nameFound, ?_⟩
  refine bind_eq_ok.mpr ⟨_, tableDefinition_append _ definitionFound, ?_⟩
  refine bind_eq_ok.mpr ⟨_, tableOptions_append ends more (closed.of_suffix definitionSuffix)
    optionsFound, ?_⟩
  rw [Token.textTo_append]

end

/-! ## Scripts -/

/-- The statements before a `GO` are those of the tokens before it. -/
theorem statements_append {tokens : List Token} (ends : stop.endsBatch = true)
    {defaultSchema : String} {found : List Statement}
    (closed : Token.IsClosed tokens) (read : statements defaultSchema tokens = .ok found) :
    statements defaultSchema (tokens ++ stop :: more) =
      (statements defaultSchema (stop :: more)).map (found ++ ·) := by
  match tokens, closed, read with
  | [], _, read =>
    rw [statements_nil] at read
    cases read
    rw [List.nil_append]
    cases statements defaultSchema (stop :: more) <;> rfl
  | token :: tokens, closed, read =>
    have countShorter := length_dropBatchCount_le tokens
    have afterShorter := length_afterStatement_le token tokens
    have closedRest := closed.of_suffix (List.suffix_cons token tokens)
    have sameTable : nextAreWords ["CREATE", "TABLE"] (token :: tokens ++ stop :: more) =
        nextAreWords ["CREATE", "TABLE"] (token :: tokens) :=
      nextAreWords_append ends more (by decide +kernel)
    rw [statements_cons] at read
    rw [List.cons_append] at sameTable ⊢
    rw [statements_cons, sameTable]
    refine branch_eq read (fun _ read => statements_append ends closedRest read) fun _ read =>
      branch_eq read (fun _ read => ?_) fun _ read =>
      branch_eq read (fun isTable read => ?_) fun _ read => ?_
    · rw [dropBatchCount_append ends more]
      exact statements_append ends (closedRest.of_suffix (isSuffix_dropBatchCount tokens)) read
    · obtain ⟨⟨statement, after⟩, tableFound, read⟩ := bind_eq_ok.mp read
      obtain ⟨others, othersRead, equal⟩ := map_eq_ok.mp read
      have shorter := length_of_createTable tableFound
      have tableFound' := createTable_append ends more closed isTable tableFound
      have closedAfter := closed.of_suffix (isSuffix_of_createTable tableFound)
      cases equal
      rw [← List.cons_append, tableFound']
      change (statements defaultSchema (after ++ stop :: more)).map _ = _
      rw [statements_append ends closedAfter othersRead]
      cases statements defaultSchema (stop :: more) <;> rfl
    · obtain ⟨others, othersRead, equal⟩ := map_eq_ok.mp read
      have afterSuffix := isSuffix_afterStatement token tokens
      cases equal
      dsimp only
      rw [afterStatement_append ends more closedRest.groups,
        statements_append ends (closedRest.of_suffix afterSuffix) othersRead, ← List.cons_append,
        Token.textTo_append]
      cases statements defaultSchema (stop :: more) <;> rfl
termination_by tokens.length
decreasing_by all_goals simp only [List.length_cons] at *; omega

end Grammar

end SqlSchema
