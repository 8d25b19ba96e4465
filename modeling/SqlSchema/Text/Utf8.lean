/-!
Reading of bytes as UTF-8 that does not fail: every longest run of bytes that begins a character and
does not complete it, and every byte that begins none, is read as a replacement character.
-/

namespace SqlSchema.Text

/-- What the first byte of a character says: how many bytes follow it, between which bounds the next
one lies, and which bits it adds itself. -/
structure LeadByte where
  following : Nat
  least : Nat
  greatest : Nat
  bits : Nat

/-- What a byte says as the first of a character. The bounds leave out longer forms than necessary,
surrogates and numbers beyond the last character. -/
def leadByte? (byte : Nat) : Option LeadByte :=
  if byte < 0x80 then some ⟨0, 0x80, 0xBF, byte⟩
  else if byte < 0xC2 then none
  else if byte < 0xE0 then some ⟨1, 0x80, 0xBF, byte - 0xC0⟩
  else if byte < 0xF0 then
    let least := if byte = 0xE0 then 0xA0 else 0x80
    let greatest := if byte = 0xED then 0x9F else 0xBF
    some ⟨2, least, greatest, byte - 0xE0⟩
  else if byte < 0xF5 then
    let least := if byte = 0xF0 then 0x90 else 0x80
    let greatest := if byte = 0xF4 then 0x8F else 0xBF
    some ⟨3, least, greatest, byte - 0xF0⟩
  else none

/-- The number of a character whose first bytes have been read, and the bytes after it; without a
number if it is not complete. -/
def completed (following least greatest bits : Nat) (bytes : List Nat) :
    Option Nat × List Nat :=
  match following, bytes with
  | 0, rest => (some bits, rest)
  | _ + 1, [] => (none, [])
  | following + 1, byte :: rest =>
    if least ≤ byte && byte ≤ greatest then
      completed following 0x80 0xBF (64 * bits + (byte - 0x80)) rest
    else (none, byte :: rest)

theorem length_completed_le (following least greatest bits : Nat) (bytes : List Nat) :
    (completed following least greatest bits bytes).2.length ≤ bytes.length := by
  fun_induction completed with
  | case1 => simp
  | case2 => simp
  | case3 _ _ _ _ _ _ _ induction => exact Nat.le_succ_of_le induction
  | case4 => simp

/-- What is read in place of bytes that are no character. -/
def replacementChar : Char := '\uFFFD'

/-- The characters of bytes. -/
def decoded : List Nat → List Char
  | [] => []
  | byte :: rest =>
    match leadByte? byte with
    | none => replacementChar :: decoded rest
    | some lead =>
      let number := completed lead.following lead.least lead.greatest lead.bits rest
      (number.1.map Char.ofNat).getD replacementChar :: decoded number.2
termination_by bytes => bytes.length
decreasing_by
  · simp
  · exact Nat.lt_succ_of_le (length_completed_le ..)

/-- The text of bytes. -/
def decode (bytes : ByteArray) : String :=
  String.ofList (decoded (bytes.toList.map UInt8.toNat))

example : decoded [0x61, 0xC3, 0xA9, 0xE2, 0x82, 0xAC, 0xF0, 0x9F, 0x98, 0x80] =
    "aé€😀".toList := by
  simp [decoded, leadByte?, completed]

/-- A character that breaks off is replaced as a whole, a byte that begins none by itself. -/
example : decoded [0xE2, 0x82, 0x41, 0xED, 0xA0, 0x80] = "\uFFFDA\uFFFD\uFFFD\uFFFD".toList := by
  simp [decoded, leadByte?, completed, replacementChar]

end SqlSchema.Text
