import SqlSchema.Text.Blank
import SqlSchema.Text.Case

/-!
Primary keys. A key is a list of column names that is ordered without regard to case, has no two
names that differ only in case, and has no blank name. Of names that differ only in case the key
keeps the one given first.
-/

namespace SqlSchema

/-- Whether two names denote the same column. -/
abbrev namesMatch (left right : String) : Bool :=
  Text.equalIgnoringCase left right

/-- The names of the columns of a primary key. -/
structure Key where
  names : List String
  increasing : names.Pairwise fun left right => Text.lowerCase left < Text.lowerCase right
  notBlank : ∀ name ∈ names, Text.isBlankText name = false
  deriving DecidableEq, Repr

namespace Key

/-- The key of a table that declares none. -/
def empty : Key :=
  ⟨[], .nil, by simp⟩

/-- Whether the key has a name that matches. -/
def contains (key : Key) (name : String) : Bool :=
  key.names.any fun known => namesMatch known name

/-- Puts `name` before the first name that is greater. -/
def place (name : String) : List String → List String
  | [] => [name]
  | head :: tail =>
    if Text.lowerCase name < Text.lowerCase head then name :: head :: tail
    else head :: place name tail

theorem mem_place {name other : String} {names : List String} :
    other ∈ place name names ↔ other = name ∨ other ∈ names := by
  induction names with
  | nil => simp [place]
  | cons head tail induction =>
    unfold place
    split <;> grind

theorem pairwise_place {name : String} {names : List String}
    (increasing : names.Pairwise fun left right => Text.lowerCase left < Text.lowerCase right)
    (fresh : ∀ other ∈ names, Text.lowerCase other ≠ Text.lowerCase name) :
    (place name names).Pairwise fun left right => Text.lowerCase left < Text.lowerCase right := by
  induction names with
  | nil => simp [place]
  | cons head tail induction =>
    obtain ⟨headLess, tailIncreasing⟩ := List.pairwise_cons.mp increasing
    unfold place
    split
    · rename_i less
      refine List.pairwise_cons.mpr ⟨fun other member => ?_, increasing⟩
      rcases List.mem_cons.mp member with rfl | member
      · exact less
      · exact String.lt_trans less (headLess other member)
    · rename_i notLess
      have different := fresh head (by simp)
      have headBefore : Text.lowerCase head < Text.lowerCase name := by
        rcases Decidable.em (Text.lowerCase head < Text.lowerCase name) with less | notLess'
        · exact less
        · exact absurd (String.le_antisymm (String.not_lt.mp notLess) (String.not_lt.mp notLess'))
            different
      refine List.pairwise_cons.mpr ⟨fun other member => ?_, ?_⟩
      · rcases mem_place.mp member with rfl | member
        · exact headBefore
        · exact headLess other member
      · exact induction tailIncreasing fun other member => fresh other (by simp [member])

theorem ne_of_not_contains {key : Key} {name : String} (absent : key.contains name = false) :
    ∀ other ∈ key.names, Text.lowerCase other ≠ Text.lowerCase name := by
  intro other member same
  have : key.contains name = true := by
    simp only [contains, List.any_eq_true]
    exact ⟨other, member, Text.equalIgnoringCase_iff.mpr same⟩
  simp [absent] at this

/-- Adds a name, unless it is blank or the key has it already. -/
def insert (key : Key) (name : String) : Key :=
  if blank : Text.isBlankText name = true then key
  else if present : key.contains name = true then key
  else
    ⟨place name key.names,
      pairwise_place key.increasing (ne_of_not_contains (by simpa using present)),
      fun other member => by
        rcases mem_place.mp member with rfl | member
        · simpa using blank
        · exact key.notBlank other member⟩

/-- Adds the names one after the other. -/
def merge (key : Key) (names : List String) : Key :=
  names.foldl insert key

/-- The key of the given names. -/
def ofList (names : List String) : Key :=
  empty.merge names

/-- The first name in key order. -/
def first? (key : Key) : Option String :=
  key.names.head?

/-- The number of columns. -/
def size (key : Key) : Nat :=
  key.names.length

/-- The spelling given first stays, wherever its name belongs in the order. -/
example : (ofList ["b", "A", " ", "a", "B"]).names = ["A", "b"] := by decide +kernel

end Key

end SqlSchema
