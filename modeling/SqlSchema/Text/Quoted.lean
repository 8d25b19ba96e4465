/-!
Delimited text: between delimiters the closing one is written twice. `double` and `undouble` are the
two directions, and `splitDelimited` finds where a delimited text ends.
-/

namespace SqlSchema.Text

/-- Writes every `close` twice. -/
def double (close : Char) (chars : List Char) : List Char :=
  chars.flatMap fun char => if char = close then [close, close] else [char]

/-- Reads two `close` in a row as one. -/
def undouble (close : Char) : List Char → List Char
  | first :: second :: rest =>
    if first = close ∧ second = close then close :: undouble close rest
    else first :: undouble close (second :: rest)
  | chars => chars

theorem undouble_double (close : Char) (chars : List Char) :
    undouble close (double close chars) = chars := by
  induction chars with
  | nil => rfl
  | cons char rest induction =>
    by_cases same : char = close
    · subst same
      simpa [double, undouble] using induction
    · cases rest with
      | nil => simp [double, undouble, same]
      | cons next rest =>
        by_cases nextSame : next = close
        · subst nextSame
          simpa [double, undouble, same] using induction
        · simpa [double, undouble, same, nextSame] using induction

example : undouble ']' "a]]b".toList = "a]b".toList := by decide +kernel

/-- The characters up to the first `close` that is not written twice, that one included, and the
characters after it. -/
def splitDelimited (close : Char) : List Char → Option (List Char × List Char)
  | [] => none
  | char :: rest =>
    if char = close then
      match rest with
      | [] => some ([close], [])
      | next :: rest =>
        if next = close then
          (splitDelimited close rest).map fun (front, rest) => (close :: close :: front, rest)
        else some ([close], next :: rest)
    else (splitDelimited close rest).map fun (front, rest) => (char :: front, rest)

example :
    splitDelimited '"' "x\"\"y\" z".toList = some ("x\"\"y\"".toList, " z".toList) := by
  decide +kernel

theorem append_of_splitDelimited {close : Char} {chars front rest : List Char}
    (found : splitDelimited close chars = some (front, rest)) : front ++ rest = chars := by
  fun_induction splitDelimited close chars generalizing front rest <;>
    grind [Option.map_eq_some_iff]

end SqlSchema.Text
