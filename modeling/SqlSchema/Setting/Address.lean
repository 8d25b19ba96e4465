import SqlSchema.Association
import SqlSchema.Setting.Value
import SqlSchema.Text.Case

/-!
Addresses of settings. An address such as `parser.names[0]` leads from section to section by keys
and into lists by indices. What is set at an address replaces what is in the way of it, and a
section that is set is merged with the one that is there. Keys are kept in small letters, so that
they differ by more than case.
-/

namespace SqlSchema.Setting

/-- A step from a setting to one inside it. -/
inductive Step where
  | key (name : String)
  /-- An item of a list; a negative index counts from the end. -/
  | item (index : Int)
  deriving DecidableEq, Repr

/-- The way from all settings to one of them. -/
abbrev Address := List Step

/-! ## Text -/

/-- Whether a character may stand in a key of an address. -/
def isKeyChar (char : Char) : Bool :=
  char.isAlphanum || char == ' ' || char == '_' || char == '-'

def isBlank (char : Char) : Bool :=
  char == ' ' || char == '\t'

/-- The index in brackets: an integer without a plus, between blanks. -/
def index? (chars : List Char) : Option Int :=
  let chars := chars.dropWhile isBlank
  let number := chars.takeWhile (!isBlank ·)
  if (chars.dropWhile (!isBlank ·)).all isBlank && number.head? != some '+' then
    integerOf? number
  else none

/-- The steps after the first key of an address. -/
def steps? : List Char → Option Address
  | [] => some []
  | '.' :: rest =>
    let name := rest.takeWhile isKeyChar
    if name.isEmpty then none
    else (steps? (rest.dropWhile isKeyChar)).map (.key (String.ofList name) :: ·)
  | '[' :: rest =>
    match index? (rest.takeWhile (· != ']')), steps? ((rest.dropWhile (· != ']')).drop 1) with
    | some index, some steps =>
      if rest.contains ']' then some (.item index :: steps) else none
    | _, _ => none
  | _ :: _ => none
termination_by chars => chars.length
decreasing_by
  · exact Nat.lt_succ_of_le (List.dropWhile_suffix _).length_le
  · have shorter := (List.dropWhile_suffix (l := rest) (· != ']')).length_le
    simp
    omega

/-- The address that a text stands for. A text that is no address is a single key. -/
def address (text : String) : Address :=
  (steps? ('.' :: text.toList)).getD [.key text]

example : address "parser.names[ -1 ]" = [.key "parser", .key "names", .item (-1)] := by
  decide +kernel

/-- An address begins with a key and has no empty ones. -/
example : [".parser", "parser.", "parser[]", "parser!"].map address =
    [[.key ".parser"], [.key "parser."], [.key "parser[]"], [.key "parser!"]] := by
  decide +kernel

/-! ## Setting -/

/-- The entries of a section; what is no section has none. -/
def entries : Setting → List (String × Setting)
  | table entries => entries
  | _ => []

/-- The items of a list; what is no list has none. -/
def items : Setting → List Setting
  | list items => items
  | _ => []

mutual

/-- A setting, made a section if it is none, with a value under a key. A section is merged with what
is under the key, entry by entry; any other value replaces it. -/
def put (key : String) (value holder : Setting) : Setting :=
  let key := Text.lowerCase key
  let known := holder.entries
  match value with
  | table incoming =>
    table (Association.put key (putAll incoming ((known.lookup key).getD (table []))) known)
  | value => table (Association.put key value known)

/-- A setting with all entries of a section. -/
def putAll : List (String × Setting) → Setting → Setting
  | [], holder => holder
  | (key, value) :: rest, holder => putAll rest (put key value holder)

end

/-- The place that an index stands for in a list of `count` items. -/
def placeOf (index : Int) (count : Nat) : Nat :=
  if 0 ≤ index then index.toNat else (count + index).toNat

/-- A list with an item at a place, and gaps before it as far as the list is shorter. -/
def putItem (place : Nat) (item : Setting) (items : List Setting) : List Setting :=
  (items ++ List.replicate (place + 1 - items.length) absent).set place item

/-- A setting with a value at an address below it. What is in the way becomes a section before a
key, a list before an index. -/
def putAt (value : Setting) : Address → Setting → Setting
  | [], _ => value
  | [.key name], holder => put name value holder
  | .key name :: rest, holder =>
    let key := Text.lowerCase name
    let known := holder.entries
    table (Association.put key (putAt value rest ((known.lookup key).getD absent)) known)
  | .item index :: rest, holder =>
    let known := holder.items
    let place := placeOf index known.length
    list (putItem place (putAt value rest (known[place]?.getD absent)) known)

/-- A setting with the values of a source, each at the address that its key stands for. -/
def withSource (source : List (String × Setting)) (holder : Setting) : Setting :=
  source.foldl (fun holder (key, value) => putAt value (address key) holder) holder

end SqlSchema.Setting
