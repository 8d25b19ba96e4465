import SqlSchema.Text.Ranges

/-!
White space: the characters with the Unicode property White_Space, and trimming by it.
-/

namespace SqlSchema.Text

/-- White_Space outside ASCII. -/
def blankRanges : Ranges := [
    (0x85, 0x85), (0xA0, 0xA0), (0x1680, 0x1680), (0x2000, 0x200A), (0x2028, 0x2029),
    (0x202F, 0x202F), (0x205F, 0x205F), (0x3000, 0x3000)]

/-- Whether `char` is white space. -/
def isBlank (char : Char) : Bool :=
  if isAscii char then char == ' ' || (9 ≤ char.toNat && char.toNat ≤ 13)
  else blankRanges.contains char

/-- White space is what core calls white space, two ASCII controls and the table. -/
theorem isBlank_of_isWhitespace {char : Char} (blank : char.isWhitespace = true) :
    isBlank char = true := by
  simp only [Char.isWhitespace, Bool.or_eq_true, decide_eq_true_eq] at blank
  rcases blank with ((blank | blank) | blank) | blank <;> subst blank <;> decide

/-- The characters that ASCII prints are not white space. -/
theorem isBlank_of_visible {char : Char} (bounds : 33 ≤ char.toNat ∧ char.toNat ≤ 126) :
    isBlank char = false := by
  have notSpace : (char == ' ') = false := by
    refine beq_eq_false_iff_ne.mpr ?_
    rintro rfl
    revert bounds
    decide
  have ascii : isAscii char = true := by
    simp [isAscii]
    omega
  rw [isBlank, if_pos ascii, notSpace, Bool.false_or]
  simp
  omega

/-- The characters of `chars` without white space at the end. -/
def dropBlankEnd (chars : List Char) : List Char :=
  (chars.reverse.dropWhile isBlank).reverse

/-- `text` without white space at both ends. -/
def trim (text : String) : String :=
  String.ofList (dropBlankEnd (text.toList.dropWhile isBlank))

/-- `text` without white space at the end. -/
def trimEnd (text : String) : String :=
  String.ofList (dropBlankEnd text.toList)

/-- Whether `text` has no character but white space. -/
def isBlankText (text : String) : Bool :=
  text.toList.all isBlank

example : isBlankText " \t\u3000" = true := by decide +kernel

example : isBlankText "" = true := by decide +kernel

end SqlSchema.Text
