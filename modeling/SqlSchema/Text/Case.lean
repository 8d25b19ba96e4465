import SqlSchema.Text.Ranges

/-!
Comparison without regard to case. Names and keywords compare by ASCII letters alone
(`equalIgnoringCase`); function names compare after Unicode upper-casing (`upperCaseIs`).
-/

namespace SqlSchema.Text

/-- `text` with its ASCII capitals made small. -/
def lowerCase (text : String) : String :=
  String.ofList (text.toList.map Char.toLower)

/-- `text` with its ASCII small letters made capital. -/
def upperCase (text : String) : String :=
  String.ofList (text.toList.map Char.toUpper)

/-- Whether the texts differ at most in the case of ASCII letters. -/
def equalIgnoringCase (left right : String) : Bool :=
  left.toList.map Char.toLower == right.toList.map Char.toLower

theorem equalIgnoringCase_iff {left right : String} :
    equalIgnoringCase left right = true ↔ lowerCase left = lowerCase right := by
  simp [equalIgnoringCase, lowerCase, String.ofList_inj]

theorem equalIgnoringCase_refl (text : String) : equalIgnoringCase text text = true := by
  simp [equalIgnoringCase]

theorem equalIgnoringCase_comm (left right : String) :
    equalIgnoringCase left right = equalIgnoringCase right left := by
  simp only [equalIgnoringCase, Bool.beq_comm]

example : equalIgnoringCase "Order" "ORDER" = true := by decide +kernel

/-- Only ASCII letters are folded. -/
example : equalIgnoringCase "é" "É" = false := by decide +kernel

/-! ## Upper case -/

/-- The upper-case form of a character where that form is ASCII. Any other character has an
upper-case form with a character outside ASCII and is left as it is. -/
def upperForm (char : Char) : List Char :=
  match char with
  | 'ı' => ['I']
  | 'ſ' => ['S']
  | 'ß' => ['S', 'S']
  | 'ﬀ' => ['F', 'F']
  | 'ﬁ' => ['F', 'I']
  | 'ﬂ' => ['F', 'L']
  | 'ﬃ' => ['F', 'F', 'I']
  | 'ﬄ' => ['F', 'F', 'L']
  | 'ﬅ' | 'ﬆ' => ['S', 'T']
  | other => [other.toUpper]

/-- Whether `name` in upper case is `word`, a word of ASCII capitals. -/
def upperCaseIs (name word : String) : Bool :=
  name.toList.flatMap upperForm == word.toList

example : upperCaseIs "caſt" "CAST" = true := by decide +kernel

example : upperCaseIs "ıſnull" "ISNULL" = true := by decide +kernel

end SqlSchema.Text
