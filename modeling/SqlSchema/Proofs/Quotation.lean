import SqlSchema.Proofs.Spelling

/-!
Quoted names and strings. In every form of quoting the closing delimiter is written twice inside.
Scanning a quoted text gives a token that says what was quoted, and every quoted token of a script
is what its value is written as, so in one form no two texts say the same.
-/

namespace SqlSchema

/-- The forms in which a name or a string is quoted. -/
inductive Quotation where
  | brackets
  | doubleQuotes
  | string
  /-- A string with the letter `N` before it, a capital or a small one. -/
  | unicodeString (isCapital : Bool)
  deriving DecidableEq, Repr

namespace Quotation

/-- The class of the tokens in this form. -/
def kind : Quotation → TokenKind
  | brackets => .quotedName
  | doubleQuotes => .quotedName
  | string => .string
  | unicodeString _ => .unicodeString

/-- The characters before the content. -/
def opening : Quotation → List Char
  | brackets => ['[']
  | doubleQuotes => ['"']
  | string => ['\'']
  | unicodeString isCapital => [if isCapital then 'N' else 'n', '\'']

/-- The delimiter after the content. -/
def closing : Quotation → Char
  | brackets => ']'
  | doubleQuotes => '"'
  | string => '\''
  | unicodeString _ => '\''

/-- `content` in this form. -/
def quote (form : Quotation) (content : String) : String :=
  String.ofList (form.opening ++ (Text.double form.closing content.toList ++ [form.closing]))

example : (unicodeString true).quote "it's" = "N'it''s'" := by decide +kernel

theorem toList_quote (form : Quotation) (content : String) :
    (form.quote content).toList =
      form.opening ++ (Text.double form.closing content.toList ++ [form.closing]) :=
  String.toList_ofList

/-- Class and opening of a quoted text tell its form. -/
theorem eq_of_opening {form other : Quotation} (sameKind : form.kind = other.kind)
    {content : String} (opens : form.opening <+: (other.quote content).toList) : form = other := by
  rw [toList_quote] at opens
  cases form with
  | brackets => cases other <;> simp_all [kind, opening]
  | doubleQuotes => cases other <;> simp_all [kind, opening]
  | string => cases other <;> simp_all [kind, opening]
  | unicodeString isCapital =>
    cases other with
    | unicodeString otherCapital => cases isCapital <;> cases otherCapital <;> simp_all [opening]
    | _ => simp_all [kind]

end Quotation

/-! ## Delimited texts -/

/-- A delimited text is a content with its closing delimiters doubled, and ends before something
else than that delimiter. -/
theorem Text.exists_double_of_splitDelimited {close : Char} {chars front rest : List Char}
    (found : splitDelimited close chars = some (front, rest)) :
    ∃ content, front = double close content ++ [close] ∧ rest.head? ≠ some close := by
  fun_induction splitDelimited close chars generalizing front rest with
  | case1 => cases found
  | case2 =>
    cases found
    exact ⟨[], rfl, by simp⟩
  | case3 tail induction =>
    rcases Option.map_eq_some_iff.mp found with ⟨⟨others, after⟩, closed, equal⟩
    rcases induction closed with ⟨content, rfl, fresh⟩
    cases equal
    exact ⟨close :: content, by simp [double], fresh⟩
  | case4 next tail different =>
    cases found
    exact ⟨[], rfl, by simpa using different⟩
  | case5 char tail different induction =>
    rcases Option.map_eq_some_iff.mp found with ⟨⟨others, after⟩, closed, equal⟩
    rcases induction closed with ⟨content, rfl, fresh⟩
    cases equal
    exact ⟨char :: content, by simp [double, different], fresh⟩

namespace Lexeme

variable {first : Char} {tail text rest : List Char} {kind : TokenKind}

/-- A text that begins in a form of quoting ends where its closing delimiter is not doubled. -/
theorem exists_split_of_closed (form : Quotation) {chars front : List Char}
    (closed : Text.splitDelimited form.closing chars = some (front, rest)) :
    ∃ first tail, form.opening ++ chars = first :: tail ∧ Trivia.canBegin first = false ∧
      split first tail = .ok (form.kind, form.opening ++ front, rest) := by
  cases form with
  | brackets => exact ⟨'[', chars, rfl, by decide, split_of_bracket closed⟩
  | doubleQuotes =>
    have closed : Text.splitDelimited '"' chars = some (front, rest) := closed
    refine ⟨'"', chars, rfl, by decide, ?_⟩
    unfold split
    dsimp only
    rw [closed]
    rfl
  | string =>
    have closed : Text.splitDelimited '\'' chars = some (front, rest) := closed
    refine ⟨'\'', chars, rfl, by decide, ?_⟩
    unfold split
    dsimp only
    rw [closed]
    rfl
  | unicodeString isCapital =>
    have quoteClosed : Text.splitDelimited '\'' chars = some (front, rest) := closed
    refine ⟨if isCapital then 'N' else 'n', '\'' :: chars, rfl, by cases isCapital <;> decide, ?_⟩
    cases isCapital
    all_goals
      unfold split
      dsimp only
      rw [List.drop_one, List.tail_cons, quoteClosed]
      rfl

/-- What is read of a quoted text in a form of quoting. -/
theorem exists_split_of_quote (form : Quotation) (content : String) {more : List Char}
    (fresh : more.head? ≠ some form.closing) :
    ∃ first tail, (form.quote content).toList ++ more = first :: tail ∧
      Trivia.canBegin first = false ∧
      split first tail = .ok (form.kind, (form.quote content).toList, more) := by
  have closed := Text.splitDelimited_double content.toList fresh
  rw [List.append_cons] at closed
  rw [Quotation.toList_quote, List.append_assoc]
  exact exists_split_of_closed form closed

/-- A delimited text is its opening, a content with its closing delimiters doubled, and the
delimiter that closes it. -/
theorem exists_double_of_delimited {kind' : TokenKind} {close : Char} {opening : List Char}
    {cause : Unclosed}
    (found : (match Text.splitDelimited close tail with
      | some (front, rest) => .ok (kind, opening ++ front, rest)
      | none => .error cause) = (Except.ok (kind', text, rest) : Except Unclosed _)) :
    kind' = kind ∧ ∃ content, text = opening ++ (Text.double close content ++ [close]) := by
  split at found
  · rename_i closed
    rcases Text.exists_double_of_splitDelimited closed with ⟨content, rfl, -⟩
    cases found
    exact ⟨rfl, content, rfl⟩
  · cases found

theorem kind_of_splitNumber (chars : List Char) :
    (splitNumber chars).1 = .integer ∨ (splitNumber chars).1 = .numeric ∨
      (splitNumber chars).1 = .real := by
  unfold splitNumber
  grind

/-- Where a name with delimiters or a string is read, there is a text in a form of quoting. -/
theorem exists_quote_of_split (found : split first tail = .ok (kind, text, rest))
    (quoted : kind = .quotedName ∨ kind = .string ∨ kind = .unicodeString) :
    ∃ (form : Quotation) (content : String),
      kind = form.kind ∧ text = (form.quote content).toList := by
  have written (form : Quotation) (content : List Char)
      (isKind : kind = form.kind)
      (isText : text = form.opening ++ (Text.double form.closing content ++ [form.closing])) :
      ∃ (form : Quotation) (content : String),
        kind = form.kind ∧ text = (form.quote content).toList := by
    refine ⟨form, String.ofList content, isKind, ?_⟩
    rw [Quotation.toList_quote, String.toList_ofList, isText]
  unfold split at found
  dsimp only at found
  split at found
  case h_1 =>
    rcases exists_double_of_delimited found with ⟨isKind, content, isText⟩
    exact written .brackets content isKind isText
  case h_2 =>
    rcases exists_double_of_delimited found with ⟨isKind, content, isText⟩
    exact written .doubleQuotes content isKind isText
  case h_3 =>
    rcases exists_double_of_delimited found with ⟨isKind, content, isText⟩
    exact written .string content isKind isText
  case h_13 =>
    split at found
    · rename_i isString
      rcases exists_double_of_delimited found with ⟨isKind, content, isText⟩
      have isLetter : first = 'N' ∨ first = 'n' := by
        simpa using (Bool.and_eq_true_iff.mp isString).1
      rcases isLetter with rfl | rfl
      · exact written (.unicodeString true) content isKind isText
      · exact written (.unicodeString false) content isKind isText
    · grind [kind_of_splitNumber]
  all_goals grind [kind_of_splitNumber]

end Lexeme

namespace Token

/-- Whether the token is written in the form: it is of its class and begins with its opening. -/
def IsQuotedIn (token : Token) (form : Quotation) : Prop :=
  token.kind = form.kind ∧ form.opening <+: token.text.toList

/-- A quoted token says what is quoted. -/
theorem value_of_quote {token : Token} {form : Quotation} {content : String}
    (isKind : token.kind = form.kind) (isText : token.text = form.quote content) :
    token.value = content := by
  have chars : token.text.toList = (form.quote content).toList := congrArg String.toList isText
  rw [Quotation.toList_quote] at chars
  cases form <;>
    simp_all [value, isName, name, literalValue, Quotation.kind, Quotation.opening,
      Quotation.closing, Token.content, Text.undouble_double]

/-- A quoted text is scanned as one token, wherever it stands, and what follows it from there. -/
theorem scanFrom_quote (form : Quotation) (content : String) {more : List Char}
    (fresh : more.head? ≠ some form.closing) (place : Place) (taken : Nat) :
    scanFrom place taken ((form.quote content).toList ++ more) =
      (placed place taken form.kind (form.quote content).toList [] ::
          (scanFrom (place.after (form.quote content).toList) place.line more).1,
        (scanFrom (place.after (form.quote content).toList) place.line more).2) := by
  rcases Lexeme.exists_split_of_quote form content fresh with
    ⟨first, tail, chars, noTrivia, lexeme⟩
  have trivia : Trivia.split ((form.quote content).toList ++ more) = ([], first :: tail) := by
    rw [chars]
    exact Trivia.split_of_no_splitPiece (Trivia.splitPiece_eq_none noTrivia tail)
  have scanned := scanFrom_of_token trivia lexeme place taken
  rwa [Place.after_nil] at scanned

/-- Every token is what is read at some place in the script, whether or not scanning fails later. -/
theorem exists_split_of_mem_scanFrom (place : Place) (taken : Nat) (chars : List Char) :
    ∀ token ∈ (scanFrom place taken chars).1, ∃ first tail rest,
      Lexeme.split first tail = .ok (token.kind, token.text.toList, rest) := by
  fun_induction scanFrom place taken chars with
  | case1 => simp
  | case2 => simp
  | case3 place taken chars lead first tail trivia here kind text rest lexeme token tokens error
      equation induction =>
    rw [equation] at induction
    intro other member
    rcases List.mem_cons.mp member with rfl | member
    · exact ⟨first, tail, rest, by simpa [token] using lexeme⟩
    · exact induction other member

theorem text_eq_quote_of_isQuotedIn {source : String} {token : Token} {form : Quotation}
    (member : token ∈ (scanUpToError source).1) (isQuoted : token.IsQuotedIn form) :
    token.text = form.quote token.value := by
  rcases isQuoted with ⟨isKind, opens⟩
  rcases exists_split_of_mem_scanFrom _ _ _ token member with ⟨first, tail, rest, lexeme⟩
  have quoted : token.kind = .quotedName ∨ token.kind = .string ∨ token.kind = .unicodeString := by
    rw [isKind]
    cases form <;> simp [Quotation.kind]
  rcases Lexeme.exists_quote_of_split lexeme quoted with ⟨other, content, otherKind, chars⟩
  rw [chars] at opens
  have same := Quotation.eq_of_opening (isKind.symm.trans otherKind) opens
  subst same
  have isText := String.toList_injective chars
  rw [value_of_quote isKind isText, isText]

/-- Quoting and scanning are inverse. A text in a form of quoting, before anything but its closing
delimiter, is scanned as one token that says what was quoted. Every name with delimiters and every
string in a script is in one of the forms, and what it says, quoted in that form, is its text; so
two tokens in one form that say the same are written the same. -/
theorem scan_quote_inverse :
    (∀ (form : Quotation) (content rest : String), rest.toList.head? ≠ some form.closing →
      ∃ token others, (scanUpToError (form.quote content ++ rest)).1 = token :: others ∧
        token.kind = form.kind ∧ token.text = form.quote content ∧ token.start = 0 ∧
        token.line = 1 ∧ token.value = content) ∧
    (∀ source, ∀ token ∈ (scanUpToError source).1,
      token.kind = .quotedName ∨ token.kind = .string ∨ token.kind = .unicodeString →
        ∃ form, token.IsQuotedIn form) ∧
    (∀ source, ∀ token ∈ (scanUpToError source).1, ∀ form, token.IsQuotedIn form →
      token.text = form.quote token.value) ∧
    (∀ source source' form, ∀ left ∈ (scanUpToError source).1,
      ∀ right ∈ (scanUpToError source').1, left.IsQuotedIn form → right.IsQuotedIn form →
        left.value = right.value → left.text = right.text) := by
  refine ⟨?_, ?_, fun source token member form => text_eq_quote_of_isQuotedIn member, ?_⟩
  · intro form content rest fresh
    have scanned := congrArg Prod.fst (scanFrom_quote form content fresh .origin 0)
    rw [← String.toList_append] at scanned
    refine ⟨_, _, scanned, rfl, String.ofList_toList, rfl, rfl, ?_⟩
    exact value_of_quote rfl String.ofList_toList
  · intro source token member quoted
    rcases exists_split_of_mem_scanFrom _ _ _ token member with ⟨first, tail, rest, lexeme⟩
    rcases Lexeme.exists_quote_of_split lexeme quoted with ⟨form, content, isKind, chars⟩
    refine ⟨form, isKind, ?_⟩
    rw [chars, Quotation.toList_quote]
    exact List.prefix_append _ _
  · intro source source' form left leftMember right rightMember leftQuoted rightQuoted same
    rw [text_eq_quote_of_isQuotedIn leftMember leftQuoted,
      text_eq_quote_of_isQuotedIn rightMember rightQuoted, same]

/-- A name with its closing delimiter at both ends and beside a line feed, before a string. -/
theorem scan_quote_inverse_doubled :
    let source := Quotation.brackets.quote "]\né]" ++ "N'it''s'"
    source = "[]]\né]]]N'it''s'" ∧
      (∃ token others, (scanUpToError source).1 = token :: others ∧ token.kind = .quotedName ∧
        token.text = "[]]\né]]]" ∧ token.start = 0 ∧ token.line = 1 ∧ token.value = "]\né]") ∧
      ∀ token ∈ (scanUpToError source).1, token.IsQuotedIn (.unicodeString true) →
        token.text = (Quotation.unicodeString true).quote token.value := by
  intro source
  have text : Quotation.brackets.quote "]\né]" = "[]]\né]]]" := by decide +kernel
  rcases scan_quote_inverse with ⟨scanned, -, quoted, -⟩
  refine ⟨by decide +kernel, ?_, fun token member => quoted source token member _⟩
  rcases scanned .brackets "]\né]" "N'it''s'" (by decide +kernel) with
    ⟨token, others, found, isKind, isText, start, line, value⟩
  exact ⟨token, others, found, isKind, isText.trans text, start, line, value⟩

end Token

end SqlSchema
