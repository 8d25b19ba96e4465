import SqlSchema.Proofs.TokenEnd

/-!
Scanning from other places and across line feeds. Where a text stands changes the places of its
tokens and of its error; what stands before it on the same line changes, besides, only whether its
first token opens a line.
-/

namespace SqlSchema

/-! ## Places -/

namespace Place

/-- The place with `offset` more bytes and `lines` more lines before it. -/
def moved (offset lines : Nat) (place : Place) : Place :=
  ⟨place.offset + offset, place.line + lines⟩

@[simp] theorem line_moved (offset lines : Nat) (place : Place) :
    (place.moved offset lines).line = place.line + lines :=
  rfl

theorem foldl_utf8Size (chars : List Char) (start offset : Nat) :
    chars.foldl (fun offset char => offset + char.utf8Size) (start + offset) =
      chars.foldl (fun offset char => offset + char.utf8Size) start + offset := by
  induction chars generalizing start with
  | nil => rfl
  | cons char chars induction =>
    rw [List.foldl_cons, List.foldl_cons, ← induction]
    congr 1
    omega

theorem after_moved (offset lines : Nat) (place : Place) (chars : List Char) :
    (place.moved offset lines).after chars = (place.after chars).moved offset lines := by
  simp only [after, moved, foldl_utf8Size]
  congr 1
  omega

theorem line_le_after (place : Place) (chars : List Char) : place.line ≤ (place.after chars).line :=
  Nat.le_add_right _ _

/-- Any place is the origin moved, as lines are counted from 1. -/
theorem eq_moved_origin {place : Place} (positive : 0 < place.line) :
    place = origin.moved place.offset (place.line - 1) := by
  have line : 1 + (place.line - 1) = place.line := Nat.add_sub_cancel' positive
  simp only [moved, origin, Nat.zero_add, line]

end Place

/-- The error with `lines` more lines before it. -/
def SyntaxError.moved (lines : Nat) : SyntaxError → SyntaxError
  | unclosed construct line => unclosed construct (line + lines)
  | refused wanted found line => refused wanted found (line + lines)

namespace Token

/-- The token with `offset` more bytes and `lines` more lines before it. -/
def moved (offset lines : Nat) (token : Token) : Token :=
  { token with start := token.start + offset, line := token.line + lines }

/-- The tokens with another lead before the first, which opens a line if `opens`. -/
def headed (lead : String) (opens : Bool) (tokens : List Token) : List Token :=
  tokens.modifyHead fun token => { token with lead, opensLine := opens }

theorem map_kind_moved (offset lines : Nat) (tokens : List Token) :
    (tokens.map (moved offset lines)).map Token.kind = tokens.map Token.kind := by
  rw [List.map_map]
  rfl

theorem map_kind_headed (lead : String) (opens : Bool) (tokens : List Token) :
    (headed lead opens tokens).map Token.kind = tokens.map Token.kind := by
  cases tokens <;> rfl

/-! ## One step of scanning -/

theorem scanFrom_of_end {chars lead : List Char} (ended : Trivia.split chars = (lead, []))
    (place : Place) (taken : Nat) : scanFrom place taken chars = ([], none) := by
  rw [scanFrom.eq_def]
  split
  · rfl
  · rename_i equal
    rw [ended] at equal
    cases equal

theorem scanFrom_of_unclosed {chars lead tail : List Char} {first : Char} {construct : Unclosed}
    (trivia : Trivia.split chars = (lead, first :: tail))
    (unclosed : Lexeme.split first tail = .error construct) (place : Place) (taken : Nat) :
    scanFrom place taken chars =
      ([], some (.unclosed construct (place.after lead).line)) := by
  rw [scanFrom.eq_def]
  split
  · rename_i equal
    rw [trivia] at equal
    cases equal
  · rename_i equal
    rw [trivia] at equal
    cases equal
    dsimp only
    split
    · rename_i equal
      rw [unclosed] at equal
      cases equal
      rfl
    · rename_i equal
      rw [unclosed] at equal
      cases equal

/-- The token whose text begins at `place`. -/
def placed (place : Place) (taken : Nat) (kind : TokenKind) (text lead : List Char) : Token where
  kind
  text := String.ofList text
  lead := String.ofList lead
  start := place.offset
  line := place.line
  opensLine := taken < place.line

theorem scanFrom_of_token {chars lead tail text rest : List Char} {first : Char}
    {kind : TokenKind} (trivia : Trivia.split chars = (lead, first :: tail))
    (lexeme : Lexeme.split first tail = .ok (kind, text, rest)) (place : Place) (taken : Nat) :
    scanFrom place taken chars =
      (placed (place.after lead) taken kind text lead ::
          (scanFrom ((place.after lead).after text) (place.after lead).line rest).1,
        (scanFrom ((place.after lead).after text) (place.after lead).line rest).2) := by
  rw [scanFrom.eq_def]
  split
  · rename_i equal
    rw [trivia] at equal
    cases equal
  · rename_i equal
    rw [trivia] at equal
    cases equal
    dsimp only
    split
    · rename_i equal
      rw [lexeme] at equal
      cases equal
    · rename_i equal
      rw [lexeme] at equal
      cases equal
      rfl

/-! ## Other places -/

/-- Where a text stands changes only the places of its tokens and of its error. -/
theorem scanFrom_moved (offset lines taken : Nat) (place : Place) (chars : List Char) :
    scanFrom (place.moved offset lines) (taken + lines) chars =
      ((scanFrom place taken chars).1.map (moved offset lines),
        (scanFrom place taken chars).2.map (SyntaxError.moved lines)) := by
  fun_induction scanFrom place taken chars with
  | case1 place taken chars lead ended =>
    rw [scanFrom_of_end ended]
    rfl
  | case2 place taken chars lead first tail trivia here construct unclosed =>
    rw [scanFrom_of_unclosed trivia unclosed, Place.after_moved]
    rfl
  | case3 place taken chars lead first tail trivia here kind text rest lexeme token tokens error
      equation induction =>
    rw [equation] at induction
    rw [scanFrom_of_token trivia lexeme]
    simp only [Place.after_moved, Place.line_moved]
    rw [induction]
    simp [placed, moved, Place.moved, token, here]

/-- What stands before a text on the same line changes its first token only. With trivia before it
that token gets another lead; it opens a line if the trivia leads to another line. -/
theorem scanFrom_of_trivia {chars front more : List Char}
    (trivia : Trivia.split chars = (front ++ (Trivia.split more).1, (Trivia.split more).2))
    (place : Place) (taken taken' : Nat) :
    ∃ lead opens, (taken < (place.after front).line → opens = true) ∧
      scanFrom place taken chars =
        (headed lead opens (scanFrom (place.after front) taken' more).1,
          (scanFrom (place.after front) taken' more).2) := by
  obtain ⟨lead, rest, split⟩ : ∃ lead rest, Trivia.split more = (lead, rest) := ⟨_, _, rfl⟩
  rw [split] at trivia
  cases rest with
  | nil =>
    refine ⟨"", true, fun _ => rfl, ?_⟩
    rw [scanFrom_of_end trivia, scanFrom_of_end split]
    rfl
  | cons first tail =>
    cases lexeme : Lexeme.split first tail with
    | error construct =>
      refine ⟨"", true, fun _ => rfl, ?_⟩
      rw [scanFrom_of_unclosed trivia lexeme, scanFrom_of_unclosed split lexeme,
        Place.after_append]
      rfl
    | ok parts =>
      obtain ⟨kind, text, rest⟩ := parts
      refine ⟨String.ofList (front ++ lead), taken < ((place.after front).after lead).line, ?_, ?_⟩
      · intro less
        have notEarlier := (place.after front).line_le_after lead
        exact decide_eq_true (by omega)
      · rw [scanFrom_of_token trivia lexeme, scanFrom_of_token split lexeme, Place.after_append]
        rfl

/-- The tokens of a text that stands somewhere else, after trivia: they are those of the text, moved,
and with another lead before the first. -/
theorem scanFrom_eq_headed {chars front more : List Char}
    (trivia : Trivia.split chars = (front ++ (Trivia.split more).1, (Trivia.split more).2))
    {place : Place} (positive : 0 < place.line) (taken : Nat) :
    ∃ lead opens, (taken < (place.after front).line → opens = true) ∧
      scanFrom place taken chars =
        (headed lead opens ((scanFrom .origin 0 more).1.map
            (moved (place.after front).offset ((place.after front).line - 1))),
          (scanFrom .origin 0 more).2.map
            (SyntaxError.moved ((place.after front).line - 1))) := by
  have notEarlier := place.line_le_after front
  have fromOrigin :=
    scanFrom_moved (place.after front).offset ((place.after front).line - 1) 0 .origin more
  rw [← Place.eq_moved_origin (by omega)] at fromOrigin
  obtain ⟨lead, opens, opensIf, scanned⟩ := scanFrom_of_trivia trivia place taken _
  exact ⟨lead, opens, opensIf, by rw [scanned, fromOrigin]⟩

/-- A text that scans to its end, a line feed and any other text: the tokens of the one text and then
those of the other, of which the first opens a line. -/
theorem scanFrom_append_newline {place : Place} {taken : Nat} {chars : List Char}
    {tokens : List Token} (scanned : scanFrom place taken chars = (tokens, none))
    (positive : 0 < place.line) (ordered : taken ≤ place.line) (more : List Char) :
    ∃ lead, scanFrom place taken (chars ++ '\n' :: more) =
      (tokens ++ headed lead true ((scanFrom .origin 0 more).1.map
          (moved (place.after (chars ++ ['\n'])).offset
            ((place.after (chars ++ ['\n'])).line - 1))),
        (scanFrom .origin 0 more).2.map
          (SyntaxError.moved ((place.after (chars ++ ['\n'])).line - 1))) := by
  fun_induction scanFrom place taken chars generalizing tokens with
  | case1 place taken chars lead ended =>
    cases scanned
    have trivia := Trivia.split_append_newline_of_end (congrArg Prod.snd ended) more
    rw [List.append_cons chars '\n' more, List.append_cons chars '\n' (Trivia.split more).1]
      at trivia
    obtain ⟨lead, opens, opensIf, scanned⟩ := scanFrom_eq_headed trivia positive taken
    have newline : place.line < (place.after (chars ++ ['\n'])).line := by
      simp [Place.after]
    rw [opensIf (by omega)] at scanned
    rw [List.append_cons chars '\n' more, scanned]
    exact ⟨lead, rfl⟩
  | case2 =>
    cases scanned
  | case3 =>
    rename_i place taken chars lead first tail trivia here kind text rest lexeme token others error
      equation induction
    cases scanned
    have notEarlier : place.line ≤ here.line := place.line_le_after lead
    have notLater : here.line ≤ (here.after text).line := here.line_le_after text
    obtain ⟨newLead, scanned⟩ := induction equation (by omega) notLater
    have notOpen : first = '/' → tail.head? ≠ some '*' := by
      rintro rfl opening
      simp [Lexeme.split, opening] at lexeme
    have whole : chars = lead ++ (text ++ rest) := by
      rw [Lexeme.append_of_split lexeme]
      simpa [trivia] using (Trivia.split_append chars).symm
    refine ⟨newLead, ?_⟩
    rw [scanFrom_of_token (Trivia.split_append_newline trivia notOpen more)
      (Lexeme.split_append_newline lexeme more)]
    simp only [here] at scanned
    rw [scanned, whole]
    simp only [List.append_assoc, Place.after_append]
    rfl

end Token

end SqlSchema
