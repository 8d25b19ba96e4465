import SqlSchema.Grammar.Skip
import SqlSchema.Node

/-!
Data types: a name of one or more parts and an optional group. The group holds lengths if it is a
list of integers and `MAX`; any other group, such as `(CONTENT dbo.Schema)`, is passed over.
-/

namespace SqlSchema.Grammar

/-- Further parts of a name, each after a dot. -/
def dottedParts : List Token → Except Refusal (List String × List Token)
  | [] => .ok ([], [])
  | dot :: rest =>
    if dot.kind = .dot then
      match rest with
      | [] => refuse .name []
      | part :: rest =>
        if part.isName then
          match dottedParts rest with
          | .ok (parts, rest) => .ok (part.name :: parts, rest)
          | .error refusal => .error refusal
        else refuse .name (part :: rest)
    else .ok ([], dot :: rest)

/-- The number that a text of decimal digits denotes, if it has 32 bits. -/
def readUInt32? (text : String) : Option UInt32 :=
  if text.toList.all Char.isDigit && !text.isEmpty then
    let value := text.toList.foldl (fun value digit => 10 * value + (digit.toNat - '0'.toNat)) 0
    if value < UInt32.size then some (UInt32.ofNat value) else none
  else none

example : readUInt32? "007" = some 7 := by decide +kernel

example : readUInt32? "4294967296" = none := by decide +kernel

/-- One argument of a type: none stands for `MAX`. -/
def typeArgument? (token : Token) : Option (Option UInt32) :=
  if token.isWord "MAX" then some none
  else if token.kind = .integer then (readUInt32? token.text).map some
  else none

/-- The arguments of a type whose `(` has been read, and the tokens after the `)`. -/
def typeArgumentList? : List Token → Option (List (Option UInt32) × List Token)
  | token :: separator :: rest =>
    match typeArgument? token with
    | none => none
    | some argument =>
      if separator.kind = .comma then
        (typeArgumentList? rest).map fun (arguments, rest) => (argument :: arguments, rest)
      else if separator.kind = .rightParen then some ([argument], rest)
      else none
  | _ => none

/-- The numbers among the arguments of a type, whether `MAX` is one of the arguments, and the tokens
after the group. A group with more than two numbers has no arguments. -/
def typeArguments? (tokens : List Token) : Option (List UInt32 × Bool × List Token) :=
  match typeArgumentList? tokens with
  | none => none
  | some (arguments, rest) =>
    let numbers := arguments.filterMap id
    if numbers.length ≤ 2 then some (numbers, arguments.any Option.isNone, rest) else none

/-- The optional group of a type: its numbers, whether it has `MAX`, and the tokens after it. -/
def typeGroup (tokens : List Token) : Except Refusal (List UInt32 × Bool × List Token) :=
  if nextIs .leftParen tokens then
    match typeArguments? tokens.tail with
    | some result => .ok result
    | none =>
      match skipGroup tokens with
      | .ok rest => .ok ([], false, rest)
      | .error refusal => .error refusal
  else .ok ([], false, tokens)

/-- A data type. Of a name in parts the last is the type and the one before it the schema. -/
def dataType (tokens : List Token) : Except Refusal (DataType × List Token) := do
  let (first, rest) ← name tokens
  let (parts, rest) ← dottedParts rest
  let (numbers, isMaximum, rest) ← typeGroup rest
  let names := first :: parts
  let type : DataType :=
    { schema? := names.dropLast.getLast?
      name := names.getLast (by simp [names])
      argument1 := numbers[0]?
      argument2 := numbers[1]?
      isMaximum
      sql := Token.textTo tokens rest }
  .ok (type, rest)

/-! ## Progress -/

@[grind →] theorem length_of_dottedParts {tokens rest : List Token} {parts : List String}
    (found : dottedParts tokens = .ok (parts, rest)) : rest.length ≤ tokens.length := by
  fun_induction dottedParts tokens generalizing parts <;> grind [refuse]

@[grind →] theorem length_of_typeArgumentList? {tokens rest : List Token}
    {arguments : List (Option UInt32)}
    (found : typeArgumentList? tokens = some (arguments, rest)) :
    rest.length < tokens.length := by
  fun_induction typeArgumentList? tokens generalizing arguments <;>
    grind [Option.map_eq_some_iff]

@[grind →] theorem length_of_typeGroup {tokens rest : List Token} {numbers : List UInt32}
    {isMaximum : Bool} (found : typeGroup tokens = .ok (numbers, isMaximum, rest)) :
    rest.length ≤ tokens.length := by
  unfold typeGroup typeArguments? nextIs at found
  cases tokens <;> grind

@[grind →] theorem length_of_dataType {tokens rest : List Token} {type : DataType}
    (found : dataType tokens = .ok (type, rest)) : rest.length < tokens.length := by
  simp only [dataType, bind, Except.bind] at found
  grind

end SqlSchema.Grammar
