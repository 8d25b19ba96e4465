import Mathlib.Data.String.Basic
import SqlSchema.Proofs.Scan
import SqlSchema.Proofs.Trivia

/-!
Tokens tile the script. Each of them is a part of the script that is not empty, at the byte offset
and on the line that it gives, and between them there is nothing but trivia. Scanning ends with the
script or before a construct that the script leaves open.
-/

namespace SqlSchema

/-! ## Tilings -/

/-- Whether the token is `text` with `before` in front of it. -/
structure Token.StandsAfter (token : Token) (before text : List Char) : Prop where
  notEmpty : text ≠ []
  text_eq : token.text = String.ofList text
  start_eq : token.start = (String.ofList before).utf8ByteSize
  line_eq : token.line = 1 + before.count '\n'

/-- Whether the tokens and the trivia before each of them make up `covered`, which stands between
`before` and `following`. -/
inductive Tiles : (before covered following : List Char) → List Token → Prop
  | nil (before following : List Char) : Tiles before [] following []
  | cons {before gap text covered following : List Char} {token : Token} {tokens : List Token}
    (trivia : Trivia.IsTrivia gap (text ++ covered ++ following))
    (stands : token.StandsAfter (before ++ gap) text)
    (rest : Tiles (before ++ gap ++ text) covered following tokens) :
    Tiles before (gap ++ text ++ covered) following (token :: tokens)

/-- Whether a script that goes on with `rest` after `before` has no token left: it ends after
trivia, or the error is a construct after trivia that it leaves open. -/
inductive StopsAt (before : List Char) : (rest : List Char) → Option SyntaxError → Prop
  | ended {rest : List Char} (trivia : Trivia.IsTrivia rest []) : StopsAt before rest none
  | unclosed {gap opened : List Char} {construct : Unclosed}
    (trivia : Trivia.IsTrivia gap opened) (isOpen : construct.IsLeftOpen opened) :
    StopsAt before (gap ++ opened)
      (some (.unclosed construct (1 + (before ++ gap).count '\n')))

theorem Place.offset_after_origin (chars : List Char) :
    (Place.origin.after chars).offset = (String.ofList chars).utf8ByteSize := by
  have sum (start : Nat) : chars.foldl (fun offset char => offset + char.utf8Size) start =
      start + String.utf8Len chars := by
    induction chars generalizing start with
    | nil => rfl
    | cons char chars induction =>
      rw [List.foldl_cons, induction, String.utf8Len_cons]
      omega
  rw [String.utf8ByteSize_ofList]
  exact (sum 0).trans (Nat.zero_add _)

theorem Token.standsAfter_placed {before text : List Char} (notEmpty : text ≠ []) (taken : Nat)
    (kind : TokenKind) (lead : List Char) :
    (Token.placed (Place.origin.after before) taken kind text lead).StandsAfter before text where
  notEmpty
  text_eq := rfl
  start_eq := Place.offset_after_origin before
  line_eq := rfl

/-! ## Scanning -/

/-- One step of scanning adds one tile. -/
theorem tiles_scanFrom (before : List Char) (taken : Nat) (chars : List Char) :
    ∃ covered rest, chars = covered ++ rest ∧
      Tiles before covered rest (Token.scanFrom (.after .origin before) taken chars).1 ∧
      StopsAt (before ++ covered) rest (Token.scanFrom (.after .origin before) taken chars).2 := by
  generalize start : Place.after .origin before = place
  fun_induction Token.scanFrom place taken chars generalizing before with
  | case1 place taken chars lead ended =>
    have trivia := Trivia.isTrivia_split chars
    have whole := Trivia.split_append chars
    rw [ended] at trivia whole
    rw [List.append_nil] at whole
    subst whole
    exact ⟨[], lead, rfl, .nil before lead, .ended trivia⟩
  | case2 place taken chars lead first tail split here construct failed =>
    subst start
    have trivia := Trivia.isTrivia_split chars
    have noTrivia := Trivia.splitPiece_split chars
    have whole := Trivia.split_append chars
    rw [split] at trivia noTrivia whole
    subst whole
    refine ⟨[], _, rfl, .nil before _, ?_⟩
    have line : here.line = 1 + (before ++ [] ++ lead).count '\n' := by
      simp only [here, ← Place.after_append, List.append_nil]
      rfl
    rw [line]
    exact .unclosed trivia (.of_split noTrivia failed)
  | case3 place taken chars lead first tail split here kind text rest lexeme token tokens error
      equation induction =>
    subst start
    have trivia := Trivia.isTrivia_split chars
    have whole := Trivia.split_append chars
    rw [split, ← Lexeme.append_of_split lexeme] at trivia whole
    subst whole
    have next : Place.after .origin (before ++ lead ++ text) = here.after text := by
      simp only [here, Place.after_append]
    obtain ⟨covered, remaining, rfl, tiles, stops⟩ := induction _ next
    rw [equation] at tiles stops
    refine ⟨lead ++ text ++ covered, remaining, by simp, .cons ?_ ?_ tiles, ?_⟩
    · simpa using trivia
    · have stands : Token.StandsAfter _ (before ++ lead) text :=
        Token.standsAfter_placed (Lexeme.ne_nil_of_split lexeme) taken kind lead
      rwa [Place.after_append] at stands
    · simpa using stops

/-! ## Tiles as parts of the script -/

namespace Tiles

variable {before covered following : List Char} {tokens : List Token}

/-- The offsets of a tile cut its text out of the script. -/
theorem extract_eq (tiles : Tiles before covered following tokens) :
    ∀ token ∈ tokens, token.start < token.stop ∧
      String.Pos.Raw.extract (String.ofList (before ++ covered ++ following)) ⟨token.start⟩
        ⟨token.stop⟩ = token.text := by
  induction tiles with
  | nil => simp
  | @cons before gap text covered following first tokens _ stands _ induction =>
    refine List.forall_mem_cons.mpr ⟨?_, ?_⟩
    · have start := stands.start_eq
      rw [String.utf8ByteSize_ofList] at start
      have stop : first.stop = String.utf8Len (before ++ gap) + String.utf8Len text := by
        rw [Token.stop, start, stands.text_eq, String.utf8ByteSize_ofList]
      have some : 0 < String.utf8Len text :=
        Nat.pos_of_ne_zero (mt String.utf8Len_eq_zero.mp stands.notEmpty)
      refine ⟨by omega, ?_⟩
      have whole : before ++ (gap ++ text ++ covered) ++ following =
          before ++ gap ++ text ++ (covered ++ following) := by simp
      rw [whole, start, stop, stands.text_eq]
      exact String.extract_of_valid _ _ _
    · simpa using induction

/-- Tiles do not overlap. -/
theorem pairwise_stop_le_start (tiles : Tiles before covered following tokens) :
    (∀ token ∈ tokens, (String.ofList before).utf8ByteSize ≤ token.start) ∧
      tokens.Pairwise fun left right => left.stop ≤ right.start := by
  induction tiles with
  | nil => simp
  | @cons before gap text covered following first tokens _ stands _ induction =>
    obtain ⟨notBefore, ordered⟩ := induction
    have start := stands.start_eq
    have stop : first.stop = (String.ofList (before ++ gap ++ text)).utf8ByteSize := by
      rw [Token.stop, start, stands.text_eq]
      simp only [String.utf8ByteSize_ofList, String.utf8Len_append]
    rw [← stop] at notBefore
    have less : (String.ofList before).utf8ByteSize ≤ first.start := by
      rw [start]
      simp only [String.utf8ByteSize_ofList, String.utf8Len_append]
      omega
    refine ⟨List.forall_mem_cons.mpr ⟨less, fun token member => ?_⟩,
      List.pairwise_cons.mpr ⟨notBefore, ordered⟩⟩
    have later := notBefore token member
    have forward : first.start ≤ first.stop := Nat.le_add_right _ _
    omega

end Tiles

/-- The tokens of any script tile it up to the place where scanning stops. Each token is the text
between its offsets, which is not empty, and begins where the token before has ended or later. -/
theorem scanUpToError_tiles (source : String) :
    (∃ covered rest, source.toList = covered ++ rest ∧
      Tiles [] covered rest (Token.scanUpToError source).1 ∧
      StopsAt covered rest (Token.scanUpToError source).2) ∧
    (∀ token ∈ (Token.scanUpToError source).1, token.start < token.stop ∧
      String.Pos.Raw.extract source ⟨token.start⟩ ⟨token.stop⟩ = token.text) ∧
    (Token.scanUpToError source).1.Pairwise fun left right => left.stop ≤ right.start := by
  obtain ⟨covered, rest, whole, tiles, stops⟩ := tiles_scanFrom [] 0 source.toList
  rw [Place.after_nil] at tiles stops
  have script : String.ofList ([] ++ covered ++ rest) = source := by
    rw [List.nil_append, ← whole, String.ofList_toList]
  refine ⟨⟨covered, rest, whole, tiles, stops⟩, ?_, tiles.pairwise_stop_le_start.2⟩
  have slices := tiles.extract_eq
  rwa [script] at slices

end SqlSchema
