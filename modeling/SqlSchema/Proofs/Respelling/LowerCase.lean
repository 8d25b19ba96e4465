import SqlSchema.Proofs.Respelling.Lexeme
import SqlSchema.Proofs.Respelling.Reading

/-!
Scripts in small letters. Scanning a script in small letters gives what scanning the script gives,
in small letters and in the same places.
-/

namespace SqlSchema

/-- All letters small, everything in its place. -/
def Respelling.lowerCase : Respelling where
  char := Char.toLower
  start := id
  line := id
  toLower_char := Text.toLower_toLower

open Respelling

namespace Respelling

instance : Respellable SyntaxError where
  respell spelling
    | .unclosed construct line => .unclosed construct (spelling.line line)
    | .refused wanted found line => .refused wanted (respell spelling found) (spelling.line line)

instance {α : Type} [Respellable α] : Respellable (Except SyntaxError α) where
  respell spelling
    | .ok value => .ok (respell spelling value)
    | .error error => .error (respell spelling error)

theorem respell_ofList (spelling : Respelling) (chars : List Char) :
    respell spelling (String.ofList chars) = String.ofList (respell spelling chars) := by
  apply String.toList_injective
  rw [chars_respell, String.toList_ofList, String.toList_ofList]
  rfl

end Respelling

/-! ## Places -/

theorem Place.after_respell (spelling : Respelling) (place : Place) (chars : List Char) :
    place.after (respell spelling chars) = place.after chars := by
  have size (char : Char) : (spelling.char char).utf8Size = char.utf8Size :=
    spelling.congr_char Char.utf8Size (by decide +kernel) char
  have newline (char : Char) : (spelling.char char == '\n') = (char == '\n') :=
    spelling.beq_char rfl char
  unfold after
  congr 1
  · refine List.foldl_map.trans ?_
    simp only [respell_char, size]
  · congr 1
    refine List.countP_map.trans ?_
    simp only [Function.comp_def, respell_char, newline]
    rfl

/-! ## Scanning -/

namespace Token

theorem placed_lowerCase (place : Place) (taken : Nat) (kind : TokenKind) (text lead : List Char) :
    placed place taken kind (respell lowerCase text) (respell lowerCase lead) =
      respell lowerCase (placed place taken kind text lead) := by
  unfold placed
  rw [← respell_ofList, ← respell_ofList]
  rfl

theorem scanFrom_lowerCase (place : Place) (taken : Nat) (chars : List Char) :
    scanFrom place taken (respell lowerCase chars) =
      respell lowerCase (scanFrom place taken chars) := by
  fun_induction scanFrom place taken chars with
  | case1 place taken chars lead ended =>
    have ended' := Trivia.split_respell lowerCase chars
    rw [ended] at ended'
    rw [scanFrom_of_end ended']
    rfl
  | case2 place taken chars lead first tail trivia here construct unclosed =>
    have trivia' := Trivia.split_respell lowerCase chars
    have unclosed' := Lexeme.split_respell lowerCase first tail
    rw [trivia] at trivia'
    rw [unclosed] at unclosed'
    rw [scanFrom_of_unclosed trivia' unclosed', Place.after_respell]
    rfl
  | case3 place taken chars lead first tail trivia here kind text rest lexeme token tokens error
      equation induction =>
    have trivia' := Trivia.split_respell lowerCase chars
    have lexeme' := Lexeme.split_respell lowerCase first tail
    rw [trivia] at trivia'
    rw [lexeme] at lexeme'
    rw [scanFrom_of_token trivia' lexeme']
    simp only [Place.after_respell]
    rw [equation] at induction
    rw [induction, placed_lowerCase]
    rfl

/-- The tokens and the error of a script in small letters are those of the script. -/
theorem scanUpToError_lowerCase (source : String) :
    scanUpToError (Text.lowerCase source) = respell lowerCase (scanUpToError source) := by
  have scanned := scanFrom_lowerCase .origin 0 source.toList
  rwa [scanUpToError, Text.lowerCase, String.toList_ofList]

theorem scan_lowerCase (source : String) :
    scan (Text.lowerCase source) = respell lowerCase (scan source) := by
  unfold scan
  rw [scanUpToError_lowerCase]
  rcases scanUpToError source with ⟨tokens, _ | error⟩ <;> rfl

end Token

end SqlSchema
