import Mathlib.Data.String.Basic

/-!
The order of texts. Texts are compared character by character; their bytes in UTF-8, compared one by
one, come in the same order.
-/

namespace SqlSchema.Text

/-- The bytes of a text in UTF-8. -/
def bytes (text : String) : List UInt8 :=
  text.toUTF8.data.toList

theorem bytes_eq_flatMap (text : String) :
    bytes text = text.toList.flatMap String.utf8EncodeChar := by
  rw [bytes, String.toUTF8_eq_toByteArray, ← String.utf8Encode_toList, List.utf8Encode,
    List.toList_data_toByteArray]

theorem div_lt_or_mod_lt {low high : Nat} (less : low < high) :
    low / 64 < high / 64 ∨ low / 64 = high / 64 ∧ low % 64 < high % 64 := by
  omega

/-- Of two characters the smaller one has the smaller bytes, whatever follows them. -/
theorem encode_append_lt {left right : Char} (less : left < right) (others others' : List UInt8) :
    String.utf8EncodeChar left ++ others < String.utf8EncodeChar right ++ others' := by
  have numbers : left.val.toNat < right.val.toNat := less
  have valid : right.val.toNat.isValidChar := right.valid
  unfold Nat.isValidChar at valid
  unfold String.utf8EncodeChar
  dsimp only
  generalize left.val.toNat = low at *
  generalize right.val.toNat = high at *
  -- The numbers differ first in one of their digits to the base 64, which the bytes carry.
  have units := div_lt_or_mod_lt numbers
  have second (less : low / 64 < high / 64) : low / 4096 < high / 4096 ∨
      low / 4096 = high / 4096 ∧ low / 64 % 64 < high / 64 % 64 := by
    omega
  have third (less : low / 4096 < high / 4096) : low / 262144 < high / 262144 ∨
      low / 262144 = high / 262144 ∧ low / 4096 % 64 < high / 4096 % 64 := by
    omega
  -- No character has fewer bytes than a smaller one.
  split_ifs <;> try omega
  all_goals
    simp (disch := omega) only [List.cons_append, List.nil_append, List.cons_lt_cons_iff,
      UInt8.lt_iff_toNat_lt, ← UInt8.toNat_inj, UInt8.toNat_ofNat', Nat.reducePow,
      Nat.mod_eq_of_lt]
    omega

theorem bytes_lt_of_lt {left right : String} (less : left < right) : bytes left < bytes right := by
  have encoded (left right : List Char) (less : left < right) :
      left.flatMap String.utf8EncodeChar < right.flatMap String.utf8EncodeChar := by
    induction left generalizing right with
    | nil =>
      cases right with
      | nil => cases less
      | cons char right =>
        obtain ⟨byte, others, isEncoded⟩ :=
          List.exists_cons_of_ne_nil (String.utf8EncodeChar_ne_nil (c := char))
        rw [List.flatMap_nil, List.flatMap_cons, isEncoded, List.cons_append]
        exact List.nil_lt_cons _ _
    | cons char left induction =>
      cases right with
      | nil => cases less
      | cons char' right =>
        rw [List.flatMap_cons, List.flatMap_cons]
        rcases List.cons_lt_cons_iff.mp less with charLess | ⟨rfl, restLess⟩
        · exact encode_append_lt charLess _ _
        · exact List.append_left_lt (induction right restLess)
  rw [bytes_eq_flatMap, bytes_eq_flatMap]
  exact encoded left.toList right.toList less

/-- Texts and their bytes come in the same order. -/
theorem lt_iff_bytes_lt {left right : String} : left < right ↔ bytes left < bytes right := by
  refine ⟨bytes_lt_of_lt, fun less => ?_⟩
  rcases lt_trichotomy left right with isLess | rfl | greater
  · exact isLess
  · exact absurd less (List.lt_irrefl _)
  · exact absurd less (List.lt_asymm (bytes_lt_of_lt greater))

end SqlSchema.Text
