import Mathlib.Data.List.TakeWhile
import SqlSchema.Code.Scan
import SqlSchema.Text.Digit

/-!
Code as it is read back from its text. A quoted text has the value that it was made from, whatever
characters it contains: no escape runs into the character after it and no quote closes it early. The
text of tokens determines the tokens, as long as no mark stands before something that is written
next to it without being part of an operator.
-/

namespace SqlSchema

namespace Text

/-! ## Hexadecimal digits -/

theorem exists_digitChar_of_mem_toDigits {number : Nat} {digit : Char}
    (member : digit ∈ Nat.toDigits 16 number) : ∃ value < 16, digit = Nat.digitChar value := by
  induction number using Nat.strongRecOn with
  | ind number induction =>
    rw [Nat.toDigits_eq_if (by decide)] at member
    split at member
    · rename_i small
      exact ⟨number, small, List.mem_singleton.mp member⟩
    · rename_i large
      rcases List.mem_append.mp member with member | member
      · exact induction (number / 16) (Nat.div_lt_self (by omega) (by decide)) member
      · exact ⟨number % 16, Nat.mod_lt number (by decide), List.mem_singleton.mp member⟩

theorem hexDigitValue_digitChar : ∀ value < 16, hexDigitValue (Nat.digitChar value) = value := by
  decide

theorem digitChar_ne_brace : ∀ value < 16, (Nat.digitChar value != '\x7d') = true := by
  decide

theorem hexValue_append (front : List Char) (digit : Char) :
    hexValue (front ++ [digit]) = 16 * hexValue front + hexDigitValue digit := by
  simp [hexValue]

theorem hexValue_toDigits (number : Nat) : hexValue (Nat.toDigits 16 number) = number := by
  induction number using Nat.strongRecOn with
  | ind number induction =>
    rw [Nat.toDigits_eq_if (by decide)]
    split
    · rename_i small
      simp [hexValue, hexDigitValue_digitChar number small]
    · rename_i large
      rw [hexValue_append, induction (number / 16) (Nat.div_lt_self (by omega) (by decide)),
        hexDigitValue_digitChar _ (Nat.mod_lt number (by decide))]
      omega

end Text

namespace CodeToken

/-! ## Quoted texts -/

/-- The character that an escape stands for, and what follows the escape. Its backslash has been
read. -/
def splitEscape : List Char → Option (Char × List Char)
  | [] => none
  | 'u' :: rest =>
    some (Char.ofNat (Text.hexValue (rest.tail.takeWhile (· != '\x7d'))),
      (rest.tail.dropWhile (· != '\x7d')).tail)
  | 'x' :: rest => some ('\x00', rest.drop 2)
  | '0' :: rest => some ('\x00', rest)
  | 't' :: rest => some ('\t', rest)
  | 'n' :: rest => some ('\n', rest)
  | 'r' :: rest => some ('\r', rest)
  | char :: rest => some (char, rest)

/-- The first character of the value of a quoted text, and what follows it, unless the text is
closed here. -/
def splitValue : List Char → Option (Char × List Char)
  | [] => none
  | char :: rest =>
    if char = '"' then none
    else if char = '\\' then splitEscape rest
    else some (char, rest)

/-- The value of a quoted text up to its closing quote; `count` bounds its characters. -/
def value : (count : Nat) → List Char → List Char
  | 0, _ => []
  | count + 1, chars =>
    match splitValue chars with
    | none => []
    | some (char, rest) => char :: value count rest

example : value 9 "a\\\"\\0\\u\x7b200b\x7d\" b".toList = "a\"\x00\u200b".toList := by decide +kernel

theorem splitEscape_number (number : Nat) (rest : List Char) :
    splitEscape ('u' :: '\x7b' :: (Nat.toDigits 16 number ++ '\x7d' :: rest)) =
      some (Char.ofNat number, rest) := by
  have noBrace : ∀ digit ∈ Nat.toDigits 16 number, (digit != '\x7d') = true := by
    intro digit member
    obtain ⟨value, bound, rfl⟩ := Text.exists_digitChar_of_mem_toDigits member
    exact Text.digitChar_ne_brace value bound
  rw [splitEscape, List.tail_cons, List.takeWhile_append_of_pos noBrace,
    List.dropWhile_append_of_pos noBrace, List.takeWhile_cons_of_neg (by decide),
    List.dropWhile_cons_of_neg (by decide), List.append_nil, Text.hexValue_toDigits,
    List.tail_cons]

/-- A character of a quoted text is read back, whatever follows it. -/
theorem splitValue_quotedChar (char : Char) (next : Option Char) (rest : List Char) :
    splitValue ((quotedChar char next).toList ++ rest) = some (char, rest) := by
  unfold quotedChar
  split
  · rfl
  · rfl
  · rfl
  · rfl
  · rfl
  · split <;> rfl
  · rename_i noQuote noBackslash _ _ _ _
    split
    · rw [String.toList_singleton, List.singleton_append, splitValue, if_neg noQuote,
        if_neg noBackslash]
    · have spelled : ("\\u\x7b" ++ String.ofList (Nat.toDigits 16 char.toNat) ++ "\x7d").toList
          ++ rest = '\\' :: 'u' :: '\x7b' :: (Nat.toDigits 16 char.toNat ++ '\x7d' :: rest) := by
        simp
      rw [spelled, splitValue, if_neg (by decide), if_pos rfl, splitEscape_number,
        Char.ofNat_toNat]

theorem value_quotedChars {count : Nat} {chars : List Char} (bound : chars.length ≤ count)
    (rest : List Char) : value count ((quotedChars chars).toList ++ '"' :: rest) = chars := by
  induction chars generalizing count with
  | nil => cases count <;> rfl
  | cons char chars induction =>
    obtain ⟨count, rfl⟩ := Nat.exists_eq_add_one.mpr (Nat.zero_lt_of_lt bound)
    rw [quotedChars, String.toList_append, List.append_assoc, value, splitValue_quotedChar]
    dsimp only
    rw [induction (Nat.le_of_succ_le_succ bound)]

theorem length_le_length_quotedChars (chars : List Char) :
    chars.length ≤ (quotedChars chars).toList.length := by
  induction chars with
  | nil => exact Nat.zero_le _
  | cons char chars induction =>
    have positive : 0 < (quotedChar char chars.head?).toList.length := by
      apply List.length_pos_iff.mpr
      intro empty
      have split := splitValue_quotedChar char chars.head? []
      rw [empty] at split
      cases split
    rw [quotedChars, String.toList_append, List.length_append, List.length_cons]
    omega

/-- The quoted text whose characters, after its opening quote, are at the front of a text. -/
def quotedAt (chars : List Char) : CodeToken :=
  quoted (String.ofList (value chars.length chars))

theorem quotedAt_quotedChars (text : String) (rest : List Char) :
    quotedAt ((quotedChars text.toList).toList ++ '"' :: rest) = quoted text := by
  have bound := length_le_length_quotedChars text.toList
  rw [quotedAt, value_quotedChars (by rw [List.length_append]; omega), String.ofList_toList]

theorem toList_text_quoted (text : String) :
    (quoted text).text.toList = '"' :: ((quotedChars text.toList).toList ++ ['"']) := by
  simp [quoted, CodeToken.text]

theorem quoted_injective : Function.Injective quoted := by
  intro left right same
  have chars := congrArg (fun token : CodeToken => token.text.toList) same
  simp only [toList_text_quoted, List.cons.injEq, true_and] at chars
  have leftBound := length_le_length_quotedChars left.toList
  have rightBound := length_le_length_quotedChars right.toList
  let count := (quotedChars left.toList).toList.length + (quotedChars right.toList).toList.length
  apply String.toList_inj.mp
  calc left.toList
    _ = value count ((quotedChars left.toList).toList ++ ['"']) :=
      (value_quotedChars (by omega) []).symm
    _ = value count ((quotedChars right.toList).toList ++ ['"']) := by rw [chars]
    _ = right.toList := value_quotedChars (by omega) []

/-! ## Tokens -/

/-- Whether a character can begin a word. -/
def startsWord (char : Char) : Bool :=
  char.isAlphanum || char == '_'

/-- Whether a character can stand in a word, which may be a raw identifier. -/
def isWordChar (char : Char) : Bool :=
  startsWord char || char == '#'

/-- Whether the text of a token says what the token is. -/
def isPlain : CodeToken → Bool
  | word text => text.toList.head?.any startsWord && text.toList.all isWordChar
  | mark char _ =>
    !startsWord char && char != ' ' && char != '"' && (CodeScan.delimiter? char).isNone
  | literal text => literal text == quotedAt text.toList.tail
  | opening _ | closing _ => true

def isMark : CodeToken → Bool
  | mark .. => true
  | _ => false

/-- Whether all tokens are plain and every mark has a token after it that is written next to it only
if the mark says so. -/
def areReadable : List CodeToken → Bool
  | [] => true
  | token :: rest =>
    token.isPlain && (!token.isMark || rest.head?.any (!·.isTightBefore)) && areReadable rest

/-- The token at the front of a text. -/
def first? : List Char → Option CodeToken
  | [] => none
  | char :: rest =>
    if char = '"' then some (quotedAt rest)
    else
      match CodeScan.delimiter? char with
      | some token => some token
      | none =>
        if startsWord char then some (word (String.ofList (char :: rest.takeWhile isWordChar)))
        else some (mark char (rest.head? != some ' '))

/-- What is written after a token. -/
def following (token : CodeToken) : List CodeToken → List Char
  | [] => []
  | next :: rest => (separator token next).toList ++ (layout (next :: rest)).toList

theorem toList_layout_cons (token : CodeToken) (rest : List CodeToken) :
    (layout (token :: rest)).toList = token.text.toList ++ following token rest := by
  cases rest with
  | nil => simp [layout, following]
  | cons next rest => simp [layout, following]

/-! ### Characters at the front of a token -/

theorem exists_of_isPlain_word {text : String} (plain : (word text).isPlain = true) :
    ∃ char rest, text.toList = char :: rest ∧ startsWord char = true ∧
      ∀ other ∈ rest, isWordChar other = true := by
  unfold isPlain at plain
  cases spelled : text.toList with
  | nil => simp [spelled] at plain
  | cons char rest =>
    simp only [spelled, List.head?_cons, Option.any_some, List.all_cons, Bool.and_eq_true,
      List.all_eq_true] at plain
    exact ⟨char, rest, rfl, plain.1, plain.2.2⟩

/-- A mark is none of the characters that begin other tokens, and no space. -/
theorem of_isPlain_mark {char : Char} {joined : Bool} (plain : (mark char joined).isPlain = true) :
    startsWord char = false ∧ char ≠ ' ' ∧ char ≠ '"' ∧ CodeScan.delimiter? char = none := by
  simpa [isPlain, and_assoc] using plain

/-- A literal is the quoted text that it is read as. -/
theorem of_isPlain_literal {text : String} (plain : (literal text).isPlain = true) :
    ∃ value, literal text = quoted value :=
  ⟨_, beq_iff_eq.mp plain⟩

theorem ne_of_startsWord {char : Char} (starts : startsWord char = true) :
    char ≠ ' ' ∧ char ≠ '"' ∧ CodeScan.delimiter? char = none := by
  refine ⟨?_, ?_, ?_⟩
  · rintro rfl
    cases starts
  · rintro rfl
    cases starts
  · unfold CodeScan.delimiter?
    split <;> first | rfl | cases starts

/-- The text of a token is not empty and does not begin with a space. -/
theorem exists_head_text {token : CodeToken} (plain : token.isPlain = true) :
    ∃ char rest, token.text.toList = char :: rest ∧ char ≠ ' ' := by
  cases token with
  | word text =>
    obtain ⟨char, rest, spelled, starts, _⟩ := exists_of_isPlain_word plain
    exact ⟨char, rest, spelled, (ne_of_startsWord starts).1⟩
  | mark char joined =>
    exact ⟨char, [], String.toList_singleton char, (of_isPlain_mark plain).2.1⟩
  | literal text =>
    obtain ⟨value, same⟩ := of_isPlain_literal plain
    exact ⟨'"', _, (congrArg (·.text.toList) same).trans (toList_text_quoted value), by decide⟩
  | opening delimiter => cases delimiter <;> exact ⟨_, _, rfl, by decide⟩
  | closing delimiter => cases delimiter <;> exact ⟨_, _, rfl, by decide⟩

/-! ### Reading the first token -/

theorem areReadable_cons_iff {token : CodeToken} {rest : List CodeToken} :
    areReadable (token :: rest) = true ↔ token.isPlain = true ∧
      (token.isMark = true → rest.head?.any (!·.isTightBefore) = true) ∧
        areReadable rest = true := by
  cases isMark : token.isMark <;> simp [areReadable, isMark, and_assoc]

theorem isPlain_of_areReadable {token : CodeToken} {rest : List CodeToken}
    (readable : areReadable (token :: rest) = true) : token.isPlain = true :=
  (areReadable_cons_iff.mp readable).1

theorem areReadable_tail {token : CodeToken} {rest : List CodeToken}
    (readable : areReadable (token :: rest) = true) : areReadable rest = true :=
  (areReadable_cons_iff.mp readable).2.2

/-- What follows a word does not go on with it. -/
theorem takeWhile_following_word {text : String} {rest : List CodeToken} :
    (following (word text) rest).takeWhile isWordChar = [] := by
  cases rest with
  | nil => rfl
  | cons next rest =>
    rw [following, separator]
    split
    · rename_i tight
      rw [toList_layout_cons]
      cases next with
      | closing delimiter => cases delimiter <;> rfl
      | _ => cases tight
    · rfl

/-- A space follows a mark exactly if nothing is joined to it. -/
theorem head?_following_mark {char : Char} {joined : Bool} {rest : List CodeToken}
    (readable : areReadable (mark char joined :: rest) = true) :
    ((following (mark char joined) rest).head? != some ' ') = joined := by
  have goesOn := (areReadable_cons_iff.mp readable).2.1 rfl
  cases rest with
  | nil => cases goesOn
  | cons next rest =>
    have notTight : next.isTightBefore = false := by simpa using goesOn
    have nextPlain := isPlain_of_areReadable (areReadable_tail readable)
    obtain ⟨first, others, spelled, noSpace⟩ := exists_head_text nextPlain
    rw [following, separator, isTight, notTight, Bool.or_false, toList_layout_cons, spelled]
    cases joined with
    | false => rfl
    | true => simpa using noSpace

theorem first?_layout {token : CodeToken} {rest : List CodeToken}
    (readable : areReadable (token :: rest) = true) :
    first? (layout (token :: rest)).toList = some token := by
  have plain := isPlain_of_areReadable readable
  rw [toList_layout_cons]
  cases token with
  | word text =>
    obtain ⟨char, others, spelled, starts, inWord⟩ := exists_of_isPlain_word plain
    obtain ⟨_, noQuote, noDelimiter⟩ := ne_of_startsWord starts
    have whole : (others ++ following (word text) rest).takeWhile isWordChar = others := by
      rw [List.takeWhile_append_of_pos inWord, takeWhile_following_word, List.append_nil]
    rw [CodeToken.text, spelled, List.cons_append, first?, if_neg noQuote, noDelimiter]
    simp only [starts, if_true, whole]
    rw [← spelled, String.ofList_toList]
  | mark char joined =>
    obtain ⟨noWord, _, noQuote, noDelimiter⟩ := of_isPlain_mark plain
    rw [CodeToken.text, String.toList_singleton, List.singleton_append, first?, if_neg noQuote,
      noDelimiter]
    simp only [noWord, Bool.false_eq_true, if_false, head?_following_mark readable]
  | literal text =>
    obtain ⟨value, same⟩ := of_isPlain_literal plain
    rw [same, toList_text_quoted, List.cons_append, List.append_assoc, List.singleton_append,
      first?, if_pos rfl, quotedAt_quotedChars]
  | opening delimiter => cases delimiter <;> rfl
  | closing delimiter => cases delimiter <;> rfl

/-! ### Building readable tokens -/

/-- Whether tokens are readable where they stand after a mark. -/
def areReadableAfterMark (tokens : List CodeToken) : Bool :=
  tokens.head?.any (!·.isTightBefore) && areReadable tokens

/-- Readable tokens stay so in front of others that are readable after a mark. -/
theorem areReadable_append {front rest : List CodeToken}
    (frontReadable : areReadable (front ++ [.closing .brace]) = true)
    (restReadable : areReadableAfterMark rest = true) : areReadable (front ++ rest) = true := by
  obtain ⟨apart, readable⟩ := Bool.and_eq_true_iff.mp restReadable
  induction front with
  | nil => exact readable
  | cons token front induction =>
    obtain ⟨plain, goesOn, tailReadable⟩ := areReadable_cons_iff.mp frontReadable
    refine areReadable_cons_iff.mpr ⟨plain, fun isMark => ?_, induction tailReadable⟩
    cases front with
    | nil => exact apart
    | cons other front => exact goesOn isMark

theorem areReadableAfterMark_append {front rest : List CodeToken}
    (frontReadable : areReadableAfterMark (front ++ [.closing .brace]) = true)
    (restReadable : areReadableAfterMark rest = true) :
    areReadableAfterMark (front ++ rest) = true := by
  obtain ⟨apart, readable⟩ := Bool.and_eq_true_iff.mp frontReadable
  cases front with
  | nil => exact restReadable
  | cons token front =>
    exact Bool.and_eq_true_iff.mpr ⟨apart, areReadable_append readable restReadable⟩

theorem isPlain_quoted (text : String) : (quoted text).isPlain = true := by
  have chars := quotedAt_quotedChars text []
  rw [quoted, isPlain]
  refine beq_iff_eq.mpr (Eq.symm ?_)
  simp only [String.toList_append]
  exact chars

theorem areReadableAfterMark_quoted_cons {text : String} {rest : List CodeToken}
    (readable : areReadable rest = true) : areReadableAfterMark (quoted text :: rest) = true :=
  Bool.and_eq_true_iff.mpr ⟨rfl, areReadable_cons_iff.mpr ⟨isPlain_quoted text, nofun, readable⟩⟩

theorem areReadableAfterMark_word_cons {text : String} {rest : List CodeToken}
    (plain : (word text).isPlain = true) (readable : areReadable rest = true) :
    areReadableAfterMark (word text :: rest) = true :=
  Bool.and_eq_true_iff.mpr ⟨rfl, areReadable_cons_iff.mpr ⟨plain, nofun, readable⟩⟩

theorem areReadable_of_afterMark {tokens : List CodeToken}
    (readable : areReadableAfterMark tokens = true) : areReadable tokens = true :=
  (Bool.and_eq_true_iff.mp readable).2

/-! ### Reading the rest -/

/-- A text without one space at its front. -/
def afterSpace : List Char → List Char
  | ' ' :: rest => rest
  | chars => chars

theorem afterSpace_of_ne {char : Char} (noSpace : char ≠ ' ') (rest : List Char) :
    afterSpace (char :: rest) = char :: rest := by
  unfold afterSpace
  split
  · rename_i same
    exact absurd (List.cons.inj same).1 noSpace
  · rfl

theorem afterSpace_following {rest : List CodeToken} (readable : areReadable rest = true)
    (token : CodeToken) : afterSpace (following token rest) = (layout rest).toList := by
  cases rest with
  | nil => rfl
  | cons next rest =>
    obtain ⟨char, others, spelled, noSpace⟩ := exists_head_text (isPlain_of_areReadable readable)
    rw [following, separator]
    split
    · rw [toList_layout_cons, spelled]
      exact afterSpace_of_ne noSpace _
    · rfl

/-- Different readable tokens have different texts. -/
theorem eq_of_layout_eq {left right : List CodeToken} (leftReadable : areReadable left = true)
    (rightReadable : areReadable right = true) (same : layout left = layout right) :
    left = right := by
  induction left generalizing right with
  | nil =>
    cases right with
    | nil => rfl
    | cons token rest =>
      have first := first?_layout rightReadable
      rw [← same] at first
      cases first
  | cons token rest induction =>
    cases right with
    | nil =>
      have first := first?_layout leftReadable
      rw [same] at first
      cases first
    | cons other others =>
      obtain rfl : token = other := by
        apply Option.some.inj
        rw [← first?_layout leftReadable, ← first?_layout rightReadable, same]
      have chars := congrArg String.toList same
      rw [toList_layout_cons, toList_layout_cons] at chars
      have leftRest := afterSpace_following (areReadable_tail leftReadable) token
      have rightRest := afterSpace_following (areReadable_tail rightReadable) token
      rw [List.append_cancel_left chars, rightRest] at leftRest
      rw [induction (areReadable_tail leftReadable) (areReadable_tail rightReadable)
        (String.toList_inj.mp leftRest.symm)]

end CodeToken

end SqlSchema
