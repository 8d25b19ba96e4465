/-!
Properties of characters given by tables. A table lists closed ranges of code points in increasing
order; the first 128 code points are never in a table, because each property states its ASCII part
directly.
-/

namespace SqlSchema.Text

/-- Closed ranges of code points. -/
abbrev Ranges := List (Nat × Nat)

/-- Whether the code point of `char` lies in one of the ranges. -/
def Ranges.contains (ranges : Ranges) (char : Char) : Bool :=
  ranges.any fun range => range.1 ≤ char.toNat && char.toNat ≤ range.2

/-- Whether `char` is one of the first 128 code points. -/
def isAscii (char : Char) : Bool :=
  char.toNat < 128

example : isAscii '~' = true := rfl

end SqlSchema.Text
