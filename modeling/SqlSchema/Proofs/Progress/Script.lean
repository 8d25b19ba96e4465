import SqlSchema.Proofs.Excerpt
import SqlSchema.Proofs.Progress.Turn
import SqlSchema.Proofs.Quotation

/-!
Reading within bounds. What readers cut out of a script, whole runs of tokens and the contents of
delimited tokens, begins and ends between characters of the script.
-/

namespace SqlSchema

/-! ## Delimited tokens -/

namespace Lexeme

/-- Whether a text of a class of tokens ends with the delimiter `close` and has `content` between
this and the delimiter at the front. -/
inductive IsDelimited : TokenKind → (text : List Char) → (close : Char) → (content : List Char) →
    Prop
  | bracketedName (content : List Char) :
    IsDelimited .quotedName ('[' :: (content ++ [']'])) ']' content
  | quotedName (content : List Char) :
    IsDelimited .quotedName ('"' :: (content ++ ['"'])) '"' content
  | string (content : List Char) : IsDelimited .string ('\'' :: (content ++ ['\''])) '\'' content
  | unicodeString {letter : Char} (isLetter : letter = 'N' ∨ letter = 'n') (content : List Char) :
    IsDelimited .unicodeString (letter :: '\'' :: (content ++ ['\''])) '\'' content

variable {first : Char} {tail text rest : List Char} {kind : TokenKind}

/-- Names with delimiters and strings are closed. -/
theorem exists_isDelimited_of_split (found : split first tail = .ok (kind, text, rest))
    (delimited : kind = .quotedName ∨ kind = .string ∨ kind = .unicodeString) :
    ∃ close content, IsDelimited kind text close content := by
  rcases exists_quote_of_split found delimited with ⟨form, content, rfl, rfl⟩
  rw [Quotation.toList_quote]
  cases form with
  | brackets => exact ⟨']', _, .bracketedName _⟩
  | doubleQuotes => exact ⟨'"', _, .quotedName _⟩
  | string => exact ⟨'\'', _, .string _⟩
  | unicodeString isCapital =>
    exact ⟨'\'', _, .unicodeString (by cases isCapital <;> simp) _⟩

end Lexeme

namespace Token

variable {source : String} {tokens : List Token}

/-- A token of a script is what is read at some place in it. -/
theorem exists_split_of_scan (scanned : scan source = .ok tokens) {token : Token}
    (member : token ∈ tokens) :
    ∃ first tail rest, Lexeme.split first tail = .ok (token.kind, token.text.toList, rest) := by
  have all := Grammar.scan_eq_ok.mp scanned
  apply exists_split_of_mem_scanFrom .origin 0 source.toList token
  rw [all]
  exact member

/-- What a delimited token says is its content, with doubled delimiters written once. -/
theorem value_of_isDelimited {token : Token} {close : Char} {content : List Char}
    (isDelimited : Lexeme.IsDelimited token.kind token.text.toList close content) :
    token.value = String.ofList (Text.undouble close content) := by
  generalize isKind : token.kind = kind at isDelimited
  generalize isText : token.text.toList = text at isDelimited
  cases isDelimited with
  | bracketedName => simp [value, isName, name, isKind, isText, Token.content]
  | quotedName => simp [value, isName, name, isKind, isText, Token.content]
  | string => simp [value, isName, literalValue, isKind, isText, Token.content]
  | unicodeString => simp [value, isName, literalValue, isKind, isText, Token.content]

/-- What is cut out of a script between two places of its tokens. -/
theorem exists_standsIn_textTo (scanned : scan source = .ok tokens) {start stop : List Token}
    (isPlace : start <:+ tokens) (isSuffix : stop <:+ start)
    (shorter : stop.length < start.length) :
    ∃ first last, start.head? = some first ∧ (run start stop).getLast? = some last ∧
      StandsIn source (textTo start stop) first.start last.stop := by
  obtain ⟨front, rfl⟩ := isPlace
  obtain ⟨taken, some, rfl, text⟩ := exists_run isSuffix shorter
  rw [← List.append_assoc] at scanned
  refine ⟨taken.head some, taken.getLast some, ?_, ?_, text ▸ standsIn_textOf scanned some⟩
  · rw [List.head?_append_of_ne_nil taken some, List.head?_eq_some_head some]
  · rw [run_append, List.getLast?_eq_some_getLast some]

end Token

namespace Grammar

open Loop

/-- Reading ends and stays within the tokens, whatever they are. A turn of a loop needs the turns
after it at later tokens only, so as many turns as there are tokens, and one more, are enough; what
a loop leaves is the end of its tokens, and words that are passed over together are there. Where the
arguments of a type are given up, its group is passed over all the same. What is cut out of a script
stands between two places of it, and names and strings have both their delimiters. -/
theorem reading_stays_within :
    (∀ (further : Readers) (loop : Loop) (tokens : List Token), AgreesAfter tokens further →
      turn further loop tokens = read loop tokens) ∧
    (∀ (cutOff : Readers) (turns : Nat) (loop : Loop) (tokens : List Token),
      tokens.length < turns → unroll cutOff turns loop tokens = read loop tokens) ∧
    (∀ (loop : Loop) (tokens rest : List Token), loop.rest? (read loop tokens) = some rest →
      rest <:+ tokens) ∧
    (∀ (keywords : List String) (tokens : List Token), nextAreWords keywords tokens = true →
      keywords.length ≤ tokens.length) ∧
    (∀ (tokens rest : List Token) (numbers : List UInt32) (isMaximum : Bool),
      nextIs .leftParen tokens = true → typeGroup tokens = .ok (numbers, isMaximum, rest) →
        skipGroup tokens = .ok rest ∧ IsLater rest tokens) ∧
    (∀ (source : String) (tokens : List Token), Token.scan source = .ok tokens →
      (∀ start stop, start <:+ tokens → stop <:+ start → stop.length < start.length →
        ∃ first last, start.head? = some first ∧ (Token.run start stop).getLast? = some last ∧
          StandsIn source (Token.textTo start stop) first.start last.stop) ∧
      ∀ token ∈ tokens,
        token.kind = .quotedName ∨ token.kind = .string ∨ token.kind = .unicodeString →
          ∃ close content, Lexeme.IsDelimited token.kind token.text.toList close content ∧
            token.value = String.ofList (Text.undouble close content)) := by
  refine ⟨fun further loop tokens agrees => turn_eq_read loop agrees,
    fun cutOff turns loop tokens enough => unroll_eq_read cutOff loop enough,
    fun loop tokens rest left => isSuffix_of_rest? loop left,
    fun keywords tokens next => length_of_nextAreWords next, ?_, ?_⟩
  · intro tokens rest numbers isMaximum isGroup found
    have closed := closeGroup_of_typeGroup isGroup found
    have skipped : skipGroup tokens = .ok rest := by rw [skipGroup, if_pos isGroup, closed]
    exact ⟨skipped, isSuffix_of_skipGroup skipped, length_of_skipGroup skipped⟩
  · intro source tokens scanned
    refine ⟨fun start stop isPlace isSuffix shorter =>
      Token.exists_standsIn_textTo scanned isPlace isSuffix shorter, ?_⟩
    intro token member delimited
    obtain ⟨first, tail, rest, lexeme⟩ := Token.exists_split_of_scan scanned member
    obtain ⟨close, content, isDelimited⟩ := Lexeme.exists_isDelimited_of_split lexeme delimited
    exact ⟨close, content, isDelimited, Token.value_of_isDelimited isDelimited⟩

/-- A table that is not finished, with a group that is no list of arguments. -/
theorem reading_stays_within_open_table :
    ∃ tokens, Token.scan "CREATE TABLE [a]]b] (X XML(CONTENT S" = .ok tokens ∧
      tokens.length = 9 ∧
      unroll (fun loop _ => read loop []) 10 (.statements "dbo") tokens =
        Grammar.statements "dbo" tokens ∧
      ∃ first last, tokens.head? = some first ∧ (Token.run tokens []).getLast? = some last ∧
        StandsIn "CREATE TABLE [a]]b] (X XML(CONTENT S" (Token.textTo tokens [])
          first.start last.stop := by
  obtain ⟨tokens, scanned, length⟩ :
      ∃ tokens, Token.scan "CREATE TABLE [a]]b] (X XML(CONTENT S" = .ok tokens ∧
        tokens.length = 9 := by
    have holds : (Token.scan "CREATE TABLE [a]]b] (X XML(CONTENT S").toOption.any
        (fun tokens => tokens.length = 9) = true := by
      decide +kernel
    obtain ⟨tokens, scanned, length⟩ := (Option.any_eq_true _ _).mp holds
    exact ⟨tokens, toOption_eq_some.mp scanned, of_decide_eq_true length⟩
  obtain ⟨-, unrolled, -, -, -, cut⟩ := reading_stays_within
  refine ⟨tokens, scanned, length, unrolled _ 10 (.statements "dbo") tokens (by omega), ?_⟩
  exact (cut _ tokens scanned).1 tokens [] List.suffix_rfl List.nil_suffix (by simp [length])

end Grammar

end SqlSchema
