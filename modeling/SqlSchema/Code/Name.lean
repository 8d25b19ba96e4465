/-!
Names in code from names in a database. A name falls into runs of ASCII letters and digits, and a
run into words at its capitals. `snakeCase` joins the words, `pascalCase` the runs.
-/

namespace SqlSchema.Name

/-! ## Runs and words -/

/-- The runs of ASCII letters and digits of a name. -/
def runs (name : String) : List (List Char) :=
  (name.toList.splitOnP (!Char.isAlphanum ·)).filter (· ≠ [])

/-- Whether a word begins at `char` between `previous` and `next`: at a capital after a small letter
or a digit, and at the last of several capitals if a small letter follows. -/
def beginsWord (previous char : Char) (next : Option Char) : Bool :=
  char.isUpper &&
    (previous.isLower || previous.isDigit || (previous.isUpper && next.any Char.isLower))

/-- `char` in front of the first word. -/
def extendFirst (char : Char) : List (List Char) → List (List Char)
  | [] => [[char]]
  | word :: words => (char :: word) :: words

/-- The words of a run. -/
def words : List Char → List (List Char)
  | [] => []
  | [char] => [[char]]
  | char :: next :: rest =>
    if beginsWord char next rest.head? then [char] :: words (next :: rest)
    else extendFirst char (words (next :: rest))

example : words "RowGUIDof2Tables".toList =
    ["Row".toList, "GUI".toList, "Dof2".toList, "Tables".toList] := by
  decide +kernel

theorem flatten_words (run : List Char) : (words run).flatten = run := by
  induction run with
  | nil => rfl
  | cons char rest induction =>
    cases rest with
    | nil => rfl
    | cons next rest =>
      rw [words]
      split
      · rw [List.flatten_cons, induction]
        rfl
      · cases found : words (next :: rest) with
        | nil => simp [found] at induction
        | cons word others =>
          rw [found] at induction
          rw [extendFirst, List.flatten_cons, List.cons_append, ← List.flatten_cons, induction]

/-! ## Cases -/

/-- The words in small letters with underscores between them. -/
def snakeCase (name : String) : String :=
  String.ofList (['_'].intercalate (((runs name).flatMap words).map (·.map Char.toLower)))

/-- `run` with its first character made a capital. -/
def capitalize : List Char → List Char
  | [] => []
  | char :: rest => char.toUpper :: rest

/-- The runs with a capital at the front of each. -/
def pascalCase (name : String) : String :=
  String.ofList ((runs name).flatMap capitalize)

example : ["OrderId", "RowGUID", "HTTPStatus", "Address Line 2", "_a__B_"].map snakeCase =
    ["order_id", "row_guid", "http_status", "address_line_2", "a_b"] := by
  decide +kernel

example : ["order_line", "Order Line", "orderLine"].map pascalCase =
    ["OrderLine", "OrderLine", "OrderLine"] := by
  decide +kernel

end SqlSchema.Name
