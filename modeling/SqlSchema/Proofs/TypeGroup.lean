import Mathlib.Data.List.Induction
import Mathlib.Data.List.TakeWhile
import Mathlib.Data.Nat.Digits.Defs
import SqlSchema.Proofs.Group
import SqlSchema.Proofs.Parallel.DataType
import SqlSchema.Proofs.Quotation

/-!
Groups of types. A type that has a group ends where the group does, whether its arguments are read
or passed over, and the arguments that are read are the numbers that stand in the script.
-/

namespace SqlSchema

/-! ## Numbers -/

namespace Text

/-- The number that decimal digits stand for. -/
def decimalValue (text : String) : Nat :=
  Nat.ofDigits 10 (text.toList.reverse.map fun digit => digit.toNat - '0'.toNat)

/-- Whether a text is a number without sign and point. -/
def IsDecimal (text : String) : Prop :=
  text.toList ≠ [] ∧ ∀ digit ∈ text.toList, digit.isDigit = true

theorem foldl_eq_decimalValue (text : String) :
    text.toList.foldl (fun value digit => 10 * value + (digit.toNat - '0'.toNat)) 0 =
      decimalValue text := by
  rw [decimalValue]
  induction text.toList using List.reverseRecOn with
  | nil => rfl
  | append_singleton digits digit induction =>
    rw [List.foldl_concat, induction, List.reverse_append, List.reverse_singleton,
      List.singleton_append, List.map_cons, Nat.ofDigits_cons, Nat.add_comm]

end Text

namespace Lexeme

variable {first : Char} {tail front rest chars : List Char}

theorem eq_takeWhile_of_splitNumber (found : splitNumber chars = (.integer, front, rest)) :
    front = chars.takeWhile Char.isDigit := by
  unfold splitNumber at found
  dsimp only at found
  -- With a point the number is numeric, with an exponent it is real.
  split at found
  · split at found
    · cases found
    · cases found
      rfl
  · cases found

/-- An integer has one or more digits and nothing else. -/
theorem isDecimal_of_split (found : split first tail = .ok (.integer, front, rest)) :
    front ≠ [] ∧ ∀ digit ∈ front, digit.isDigit = true := by
  refine ⟨ne_nil_of_split found, ?_⟩
  have number : ∃ chars, splitNumber chars = (.integer, front, rest) := by
    unfold split at found
    grind
  obtain ⟨chars, number⟩ := number
  rw [eq_takeWhile_of_splitNumber number]
  intro digit member
  exact List.mem_takeWhile_imp member

end Lexeme

namespace Token

/-- The integers of a script are decimal numbers. -/
theorem isDecimal_of_scan {source : String} {tokens : List Token}
    (scanned : scan source = .ok tokens) {token : Token} (member : token ∈ tokens)
    (kind : token.kind = .integer) :
    Text.IsDecimal token.text := by
  have run := Grammar.scan_eq_ok.mp scanned
  have member : token ∈ (scanFrom .origin 0 source.toList).1 := by rwa [run]
  obtain ⟨first, tail, rest, lexeme⟩ := exists_split_of_mem_scanFrom _ _ _ token member
  rw [kind] at lexeme
  exact Lexeme.isDecimal_of_split lexeme

end Token

namespace Grammar

/-! ## Arguments -/

/-- Whether a token is an argument of a type: a number, or none for `MAX`. -/
def IsTypeArgument (token : Token) : Option Nat → Prop
  | none => token.isWord "MAX" = true
  | some number => token.kind = .integer ∧ number = Text.decimalValue token.text

instance (token : Token) : (argument : Option Nat) → Decidable (IsTypeArgument token argument)
  | none => inferInstanceAs (Decidable (_ = _))
  | some _ => inferInstanceAs (Decidable (_ ∧ _))

/-- Whether tokens are one or more arguments with commas between them. -/
inductive IsTypeArgumentList : List Token → List (Option Nat) → Prop
  | last {token : Token} {argument : Option Nat} (first : IsTypeArgument token argument) :
    IsTypeArgumentList [token] [argument]
  | more {token separator : Token} {tokens : List Token} {argument : Option Nat}
    {arguments : List (Option Nat)} (first : IsTypeArgument token argument)
    (comma : separator.kind = .comma) (others : IsTypeArgumentList tokens arguments) :
    IsTypeArgumentList (token :: separator :: tokens) (argument :: arguments)

/-- Whether tokens are arguments that a type can keep: at most two numbers, of 32 bits each. -/
structure HasTypeArguments (tokens : List Token) (arguments : List (Option Nat)) : Prop where
  list : IsTypeArgumentList tokens arguments
  few : (arguments.filterMap id).length ≤ 2
  small : ∀ number ∈ arguments.filterMap id, number ≤ 4294967295

/-- Whether a type has the arguments in its group if it can keep them, and none else. -/
structure KeepsArguments (type : DataType) (inner : List Token) : Prop where
  kept {arguments : List (Option Nat)} (has : HasTypeArguments inner arguments) :
    type.argument1.map UInt32.toNat = (arguments.filterMap id)[0]? ∧
      type.argument2.map UInt32.toNat = (arguments.filterMap id)[1]? ∧
      (type.isMaximum = true ↔ none ∈ arguments)
  empty (hasNone : ¬∃ arguments, HasTypeArguments inner arguments) :
    type.argument1 = none ∧ type.argument2 = none ∧ type.isMaximum = false

/-- Whether the tokens before `rest` are arguments and a `)`. -/
def ArgumentsEndBefore (tokens rest : List Token) (arguments : List (Option Nat)) : Prop :=
  ∃ inner close, tokens = inner ++ close :: rest ∧ close.kind = .rightParen ∧
    IsTypeArgumentList inner arguments

/-- Whether all integers among the tokens are decimal numbers. -/
def AreDecimal (tokens : List Token) : Prop :=
  ∀ token ∈ tokens, token.kind = .integer → Text.IsDecimal token.text

/-- Whether tokens are a name of one or more parts. -/
inductive IsDottedName : List Token → Prop
  | last {part : Token} (isName : part.isName = true) : IsDottedName [part]
  | more {part dot : Token} {names : List Token} (isName : part.isName = true)
    (isDot : dot.kind = .dot) (others : IsDottedName names) : IsDottedName (part :: dot :: names)

variable {token opens : Token} {tokens names inner after rest : List Token}
  {arguments : List (Option Nat)} {list : List (Option UInt32)}

/-- A number is read as it is, or not at all. -/
theorem readUInt32?_eq_some_iff {text : String} {value : UInt32} (isDecimal : Text.IsDecimal text) :
    readUInt32? text = some value ↔ value.toNat = Text.decimalValue text := by
  obtain ⟨nonempty, digits⟩ := isDecimal
  have isNumber : (text.toList.all Char.isDigit && !text.isEmpty) = true := by
    rw [Bool.and_eq_true, List.all_eq_true]
    exact ⟨digits, by simpa using nonempty⟩
  rw [readUInt32?, if_pos isNumber]
  dsimp only
  rw [Text.foldl_eq_decimalValue]
  split
  · rename_i fits
    rw [Option.some_inj, ← UInt32.toNat_inj, UInt32.toNat_ofNat_of_lt' fits, eq_comm]
  · rename_i tooLarge
    constructor
    · rintro ⟨⟩
    · intro same
      rw [← same] at tooLarge
      exact absurd value.toNat_lt_size tooLarge

theorem typeArgument?_eq_some_iff {argument : Option UInt32}
    (isDecimal : token.kind = .integer → Text.IsDecimal token.text) :
    typeArgument? token = some argument ↔
      IsTypeArgument token (argument.map UInt32.toNat) := by
  unfold typeArgument?
  by_cases isMaximum : token.isWord "MAX" = true
  · have notInteger : token.kind ≠ .integer := by
      intro kind
      simp [Token.isWord, kind] at isMaximum
    cases argument <;> simp [isMaximum, notInteger, IsTypeArgument]
  · by_cases kind : token.kind = .integer
    · cases argument with
      | none => simp [isMaximum, kind, IsTypeArgument]
      | some value =>
        simp [isMaximum, kind, IsTypeArgument, readUInt32?_eq_some_iff (isDecimal kind)]
    · cases argument <;> simp [isMaximum, kind, IsTypeArgument]

theorem argumentsEndBefore_cons_iff {separator : Token} :
    ArgumentsEndBefore (token :: separator :: tokens) rest arguments ↔
      ∃ argument others, arguments = argument :: others ∧ IsTypeArgument token argument ∧
        (separator.kind = .rightParen ∧ tokens = rest ∧ others = [] ∨
          separator.kind = .comma ∧ ArgumentsEndBefore tokens rest others) := by
  constructor
  · rintro ⟨inner, close, split, isClose, isList⟩
    cases isList with
    | last first =>
      cases split
      exact ⟨_, [], rfl, first, .inl ⟨isClose, rfl, rfl⟩⟩
    | more first comma others =>
      cases split
      exact ⟨_, _, rfl, first, .inr ⟨comma, _, close, rfl, isClose, others⟩⟩
  · rintro ⟨argument, others, rfl, first,
      ⟨isClose, rfl, rfl⟩ | ⟨comma, inner, close, rfl, isClose, more⟩⟩
    · exact ⟨[token], separator, rfl, isClose, .last first⟩
    · exact ⟨token :: separator :: inner, close, rfl, isClose, .more first comma more⟩

theorem two_le_length_of_argumentsEndBefore (ended : ArgumentsEndBefore tokens rest arguments) :
    2 ≤ tokens.length := by
  obtain ⟨inner, close, rfl, -, isList⟩ := ended
  cases isList <;> simp

/-- An argument that is read is the first of those before the `)`. -/
theorem argumentsEndBefore_iff_of_read {separator : Token} {argument : Option UInt32}
    (isDecimal : token.kind = .integer → Text.IsDecimal token.text)
    (read : typeArgument? token = some argument) :
    ArgumentsEndBefore (token :: separator :: tokens) rest (list.map (Option.map UInt32.toNat)) ↔
      ∃ others, list = argument :: others ∧
        (separator.kind = .rightParen ∧ tokens = rest ∧ others = [] ∨
          separator.kind = .comma ∧
            ArgumentsEndBefore tokens rest (others.map (Option.map UInt32.toNat))) := by
  rw [argumentsEndBefore_cons_iff]
  constructor
  · rintro ⟨number, numbers, same, first, next⟩
    obtain ⟨found, others, rfl, rfl, rfl⟩ := List.map_eq_cons_iff.mp same
    obtain rfl : argument = found :=
      Option.some_inj.mp (read.symm.trans ((typeArgument?_eq_some_iff isDecimal).mpr first))
    exact ⟨others, rfl, by simpa using next⟩
  · rintro ⟨others, rfl, next⟩
    exact ⟨_, _, List.map_cons, (typeArgument?_eq_some_iff isDecimal).mp read, by simpa using next⟩

/-- Arguments are read up to the `)` after them. -/
theorem typeArgumentList?_eq_some_iff (decimal : AreDecimal tokens) :
    typeArgumentList? tokens = some (list, rest) ↔
      ArgumentsEndBefore tokens rest (list.map (Option.map UInt32.toNat)) := by
  fun_induction typeArgumentList? tokens generalizing list rest with
  | case1 token separator tail noArgument =>
    constructor
    · rintro ⟨⟩
    · intro ended
      obtain ⟨number, numbers, same, first, -⟩ := argumentsEndBefore_cons_iff.mp ended
      obtain ⟨found, -, -, rfl, -⟩ := List.map_eq_cons_iff.mp same
      rw [(typeArgument?_eq_some_iff (decimal token List.mem_cons_self)).mpr first] at noArgument
      cases noArgument
  | case2 token separator tail argument read comma induction =>
    have decimalTail : AreDecimal tail := fun token member =>
      decimal token (List.mem_cons_of_mem _ (List.mem_cons_of_mem _ member))
    rw [argumentsEndBefore_iff_of_read (decimal token List.mem_cons_self) read,
      Option.map_eq_some_iff]
    constructor
    · rintro ⟨⟨others, after⟩, found, ⟨⟩⟩
      exact ⟨others, rfl, .inr ⟨comma, (induction decimalTail).mp found⟩⟩
    · rintro ⟨others, rfl, ⟨isClose, -⟩ | ⟨-, ended⟩⟩
      · rw [comma] at isClose
        cases isClose
      · exact ⟨(others, rest), (induction decimalTail).mpr ended, rfl⟩
  | case3 token separator tail argument read notComma paren =>
    rw [argumentsEndBefore_iff_of_read (decimal token List.mem_cons_self) read]
    constructor
    · rintro ⟨⟩
      exact ⟨[], rfl, .inl ⟨paren, rfl, rfl⟩⟩
    · rintro ⟨others, rfl, ⟨-, rfl, rfl⟩ | ⟨comma, -⟩⟩
      · rfl
      · exact absurd comma notComma
  | case4 token separator tail argument read notComma notParen =>
    rw [argumentsEndBefore_iff_of_read (decimal token List.mem_cons_self) read]
    constructor
    · rintro ⟨⟩
    · rintro ⟨others, rfl, ⟨paren, -⟩ | ⟨comma, -⟩⟩
      · exact absurd paren notParen
      · exact absurd comma notComma
  | case5 tokens short =>
    constructor
    · rintro ⟨⟩
    · intro ended
      have long := two_le_length_of_argumentsEndBefore ended
      rcases tokens with _ | ⟨token, _ | ⟨separator, tail⟩⟩
      · simp at long
      · simp at long
      · exact absurd rfl (short token separator tail)

/-- In a group that ends, the arguments that are read are what is in the group. -/
theorem typeArgumentList?_eq_some_iff_of_isGroup (decimal : AreDecimal tokens)
    (isGroup : Token.IsGroup tokens inner after) :
    typeArgumentList? tokens = some (list, rest) ↔
      rest = after ∧ IsTypeArgumentList inner (list.map (Option.map UInt32.toNat)) := by
  constructor
  · intro found
    have closed := closeGroup_of_typeArgumentList? found
    rw [closeGroup_of_isGroup isGroup] at closed
    cases closed
    obtain ⟨inner', close', split', isClose', isList⟩ :=
      (typeArgumentList?_eq_some_iff decimal).mp found
    obtain ⟨close, rfl, -, -⟩ := isGroup
    rw [(List.append_inj' split' rfl).1]
    exact ⟨rfl, isList⟩
  · rintro ⟨rfl, isList⟩
    obtain ⟨close, split, isClose, -⟩ := isGroup
    exact (typeArgumentList?_eq_some_iff decimal).mpr ⟨inner, close, split, isClose, isList⟩

theorem filterMap_map_toNat (list : List (Option UInt32)) :
    (list.map (Option.map UInt32.toNat)).filterMap id = (list.filterMap id).map UInt32.toNat := by
  rw [List.filterMap_map, List.map_filterMap]
  rfl

/-- Numbers of 32 bits are kept as they are. -/
theorem exists_map_toNat (small : ∀ number ∈ arguments.filterMap id, number ≤ 4294967295) :
    ∃ list : List (Option UInt32), list.map (Option.map UInt32.toNat) = arguments := by
  refine ⟨arguments.map (Option.map UInt32.ofNat), ?_⟩
  rw [List.map_map]
  refine (List.map_congr_left fun argument member => ?_).trans (List.map_id arguments)
  cases argument with
  | none => rfl
  | some number =>
    have isNumber := small number (List.mem_filterMap.mpr ⟨some number, member, rfl⟩)
    have fits : number < UInt32.size := Nat.lt_succ_of_le isNumber
    exact congrArg some (UInt32.toNat_ofNat_of_lt' fits)

/-! ## Types with a group -/

theorem typeGroup_of_some {result : List UInt32 × Bool × List Token}
    (isOpening : opens.kind = .leftParen) (read : typeArguments? tokens = some result) :
    typeGroup (opens :: tokens) = .ok result := by
  rw [typeGroup, if_pos (nextIs_of_kind isOpening), List.tail_cons, read]

/-- Without arguments a group is passed over. -/
theorem typeGroup_of_none (isOpening : opens.kind = .leftParen)
    (none : typeArguments? tokens = none) :
    typeGroup (opens :: tokens) = (closeGroup 0 tokens).map fun rest => ([], false, rest) := by
  rw [typeGroup, if_pos (nextIs_of_kind isOpening), List.tail_cons, none, skipGroup,
    if_pos (nextIs_of_kind isOpening), List.tail_cons]
  cases closeGroup 0 tokens <;> rfl

/-- The arguments in a group are kept. -/
theorem typeGroup_of_kept (isOpening : opens.kind = .leftParen) (decimal : AreDecimal tokens)
    (isGroup : Token.IsGroup tokens inner after) (kept : HasTypeArguments inner arguments) :
    ∃ numbers, typeGroup (opens :: tokens) = .ok (numbers, arguments.any Option.isNone, after) ∧
      numbers.map UInt32.toNat = arguments.filterMap id := by
  obtain ⟨isList, few, small⟩ := kept
  obtain ⟨list, rfl⟩ := exists_map_toNat small
  have read : typeArgumentList? tokens = some (list, after) :=
    (typeArgumentList?_eq_some_iff_of_isGroup decimal isGroup).mpr ⟨rfl, isList⟩
  rw [filterMap_map_toNat, List.length_map] at few
  have isMaximum : (list.map (Option.map UInt32.toNat)).any Option.isNone =
      list.any Option.isNone := by
    simp [List.any_map, Function.comp_def]
  refine ⟨list.filterMap id, typeGroup_of_some isOpening ?_, (filterMap_map_toNat list).symm⟩
  rw [typeArguments?, read, isMaximum]
  dsimp only
  rw [if_pos few]

/-- Arguments that are read from a group are kept. -/
theorem exists_hasTypeArguments (decimal : AreDecimal tokens)
    (isGroup : Token.IsGroup tokens inner after) (read : (typeArguments? tokens).isSome) :
    ∃ arguments, HasTypeArguments inner arguments := by
  unfold typeArguments? at read
  split at read
  · cases read
  rename_i list rest found
  dsimp only at read
  split at read
  · rename_i few
    obtain ⟨-, isList⟩ := (typeArgumentList?_eq_some_iff_of_isGroup decimal isGroup).mp found
    refine ⟨list.map (Option.map UInt32.toNat), isList, ?_, ?_⟩
    · rwa [filterMap_map_toNat, List.length_map]
    · rw [filterMap_map_toNat]
      intro number member
      obtain ⟨value, -, rfl⟩ := List.mem_map.mp member
      exact Nat.le_of_lt_succ value.toNat_lt_size
  · cases read

/-- A group without arguments that can be kept is passed over. -/
theorem typeGroup_of_no_arguments (isOpening : opens.kind = .leftParen)
    (decimal : AreDecimal tokens) (isGroup : Token.IsGroup tokens inner after)
    (noArguments : ¬∃ arguments, HasTypeArguments inner arguments) :
    typeGroup (opens :: tokens) = .ok ([], false, after) := by
  have none : typeArguments? tokens = none := by
    rw [← Option.not_isSome_iff_eq_none]
    exact fun read => noArguments (exists_hasTypeArguments decimal isGroup read)
  rw [typeGroup_of_none isOpening none, closeGroup_of_isGroup isGroup]
  rfl

/-- A group that does not end is refused at the end of the script. -/
theorem typeGroup_of_no_group (isOpening : opens.kind = .leftParen)
    (unclosed : ¬∃ inner after, Token.IsGroup tokens inner after) :
    typeGroup (opens :: tokens) = .error ⟨.more, none⟩ := by
  have failed := closeGroup_zero_eq_error unclosed
  have none : typeArguments? tokens = none := by
    cases read : typeArguments? tokens with
    | none => rfl
    | some result =>
      have group := typeGroup_of_some isOpening read
      have closed := closeGroup_of_typeGroup (nextIs_of_kind isOpening) group
      rw [List.tail_cons, failed] at closed
      cases closed
  rw [typeGroup_of_none isOpening none, failed]
  rfl

/-! ## Names before a group -/

theorem dottedParts_of_dot {dot : Token} {text : String} {parts : List String}
    (isDot : dot.kind = .dot) (isPart : name tokens = .ok (text, rest))
    (areParts : dottedParts rest = .ok (parts, after)) :
    dottedParts (dot :: tokens) = .ok (text :: parts, after) := by
  unfold name at isPart
  split at isPart
  · split at isPart
    · rename_i isName
      cases isPart
      simp [dottedParts, isDot, isName, areParts]
    · cases isPart
  · cases isPart

/-- A name in parts is read up to what follows it. -/
theorem exists_dottedParts_of_isDottedName (isName : IsDottedName names)
    (isOpening : opens.kind = .leftParen) (tokens : List Token) :
    ∃ first afterFirst parts, name (names ++ opens :: tokens) = .ok (first, afterFirst) ∧
      dottedParts afterFirst = .ok (parts, opens :: tokens) := by
  induction isName with
  | last isName =>
    have noDot : nextIs .dot (opens :: tokens) = false := by
      rw [nextIs_cons, isOpening]
      rfl
    exact ⟨_, opens :: tokens, [], if_pos isName, dottedParts_of_no_dot noDot⟩
  | @more part dot names isName isDot others induction =>
    obtain ⟨first, afterFirst, parts, isFirst, areParts⟩ := induction
    exact ⟨part.name, dot :: (names ++ opens :: tokens), first :: parts, if_pos isName,
      dottedParts_of_dot isDot isFirst areParts⟩

theorem dataType_of_typeGroup_eq_error {refusal : Refusal} (isName : IsDottedName names)
    (isOpening : opens.kind = .leftParen) (failed : typeGroup (opens :: tokens) = .error refusal) :
    dataType (names ++ opens :: tokens) = .error refusal := by
  obtain ⟨first, afterFirst, parts, isFirst, areParts⟩ :=
    exists_dottedParts_of_isDottedName isName isOpening tokens
  simp [dataType, bind, Except.bind, isFirst, areParts, failed]

theorem exists_dataType_of_typeGroup {numbers : List UInt32} {isMaximum : Bool}
    (isName : IsDottedName names) (isOpening : opens.kind = .leftParen)
    (found : typeGroup (opens :: tokens) = .ok (numbers, isMaximum, after)) :
    ∃ type, dataType (names ++ opens :: tokens) = .ok (type, after) ∧
      type.argument1 = numbers[0]? ∧ type.argument2 = numbers[1]? ∧
      type.isMaximum = isMaximum := by
  obtain ⟨first, afterFirst, parts, isFirst, areParts⟩ :=
    exists_dottedParts_of_isDottedName isName isOpening tokens
  simp [dataType, bind, Except.bind, isFirst, areParts, found]

/-- A type whose group ends is read up to the end of the group. -/
theorem exists_dataType_of_isGroup (isName : IsDottedName names)
    (isOpening : opens.kind = .leftParen) (decimal : AreDecimal tokens)
    (isGroup : Token.IsGroup tokens inner after) :
    ∃ type, dataType (names ++ opens :: tokens) = .ok (type, after) ∧
      KeepsArguments type inner := by
  by_cases keeps : ∃ arguments, HasTypeArguments inner arguments
  · obtain ⟨arguments, kept⟩ := keeps
    obtain ⟨numbers, group, -⟩ := typeGroup_of_kept isOpening decimal isGroup kept
    obtain ⟨type, found, first, second, maximum⟩ :=
      exists_dataType_of_typeGroup isName isOpening group
    refine ⟨type, found, fun {arguments'} kept' => ?_, fun none => absurd ⟨arguments, kept⟩ none⟩
    -- The group is read in one way, so every list of its arguments has the same numbers.
    obtain ⟨numbers', group', areNumbers⟩ := typeGroup_of_kept isOpening decimal isGroup kept'
    rw [group, Except.ok.injEq, Prod.mk.injEq, Prod.mk.injEq] at group'
    obtain ⟨rfl, sameMaximum, -⟩ := group'
    rw [first, second, maximum, sameMaximum, ← areNumbers, List.getElem?_map, List.getElem?_map]
    exact ⟨rfl, rfl, by simp⟩
  · have group := typeGroup_of_no_arguments isOpening decimal isGroup keeps
    obtain ⟨type, found, first, second, maximum⟩ :=
      exists_dataType_of_typeGroup isName isOpening group
    exact ⟨type, found, fun kept => absurd ⟨_, kept⟩ keeps, fun _ => ⟨first, second, maximum⟩⟩

/-- Groups of types. Wherever a name in a script stands before a `(`, it is refused as a type
exactly if the `(` has no partner, and otherwise the type ends after that partner. If the group is
a list of arguments that can be kept, the type has its numbers, which are those in the script, and
`MAX` if it is among them; with any other group it has no arguments. -/
theorem dataType_of_group {source : String} {front : List Token}
    (scanned : Token.scan source = .ok (front ++ (names ++ opens :: tokens)))
    (isName : IsDottedName names) (isOpening : opens.kind = .leftParen) :
    (dataType (names ++ opens :: tokens) = .error ⟨.more, none⟩ ↔
      ¬∃ inner after, Token.IsGroup tokens inner after) ∧
    ∀ inner after, Token.IsGroup tokens inner after →
      ∃ type, dataType (names ++ opens :: tokens) = .ok (type, after) ∧
        KeepsArguments type inner := by
  have decimal : AreDecimal tokens := fun token member =>
    Token.isDecimal_of_scan scanned (by simp [member])
  have hasType (inner after : List Token) (isGroup : Token.IsGroup tokens inner after) :=
    exists_dataType_of_isGroup isName isOpening decimal isGroup
  refine ⟨⟨?_, ?_⟩, hasType⟩
  · rintro failed ⟨inner, after, isGroup⟩
    obtain ⟨type, found, -⟩ := hasType inner after isGroup
    rw [failed] at found
    cases found
  · intro unclosed
    exact dataType_of_typeGroup_eq_error isName isOpening (typeGroup_of_no_group isOpening unclosed)

/-- A number with a zero before it, and `MAX`. -/
theorem dataType_of_group_maximum :
    ∃ names opens tokens type,
      Token.scan "s.T(09,max)" = .ok ([] ++ (names ++ opens :: tokens)) ∧
      IsDottedName names ∧ opens.kind = .leftParen ∧
      dataType (names ++ opens :: tokens) = .ok (type, []) ∧
      type.argument1.map UInt32.toNat = some 9 ∧ type.argument2 = none ∧
      type.isMaximum = true := by
  let names : List Token := [⟨.word, "s", "", 0, 1, true⟩, ⟨.dot, ".", "", 1, 1, false⟩,
    ⟨.word, "T", "", 2, 1, false⟩]
  let inner : List Token := [⟨.integer, "09", "", 4, 1, false⟩, ⟨.comma, ",", "", 6, 1, false⟩,
    ⟨.word, "max", "", 7, 1, false⟩]
  let close : Token := ⟨.rightParen, ")", "", 10, 1, false⟩
  have scanned : Token.scan "s.T(09,max)" =
      .ok ([] ++ (names ++ ⟨.leftParen, "(", "", 3, 1, false⟩ :: (inner ++ [close]))) := by
    decide +kernel
  have isName : IsDottedName names := .more (by decide) rfl (.last (by decide))
  have isGroup : Token.IsGroup (inner ++ [close]) inner [] := ⟨close, rfl, rfl, by decide⟩
  have arguments : HasTypeArguments inner [some 9, none] :=
    ⟨.more (by decide +kernel) rfl (.last (by decide +kernel)), by decide, by decide⟩
  obtain ⟨type, found, keeps⟩ := (dataType_of_group scanned isName rfl).2 inner [] isGroup
  obtain ⟨first, second, maximum⟩ := keeps.kept arguments
  exact ⟨names, _, inner ++ [close], type, scanned, isName, rfl, found, first,
    Option.map_eq_none_iff.mp second, maximum.mpr (by decide)⟩

end Grammar

end SqlSchema
