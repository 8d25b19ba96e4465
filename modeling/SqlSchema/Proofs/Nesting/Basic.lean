import SqlSchema.Proofs.Excerpt
import SqlSchema.Proofs.Suffix

/-!
Nested texts. The parts of a tree quote runs of tokens: the parts of a part quote runs within its
own, one after the other. Where the tokens are those of a script, the runs are parts of the script
that lie within each other in the same way.
-/

namespace SqlSchema

/-- A part of what a script is read as, with a text of its own. -/
inductive Part where
  | statement (statement : Statement)
  | definition (definition : TableDefinition)
  | node (node : Node)
  | clause (clause : WhenClause)

namespace Part

/-- The text of a part. -/
def sql : Part → String
  | .statement read => read.sql
  | .definition body => body.sql
  | .node syntaxNode => syntaxNode.sql
  | .clause branch => branch.sql

/-- The parts that a part consists of, in order. -/
def children : Part → List Part
  | .statement (.createTable table) => [.definition table.definition]
  | .statement (.other _) => []
  | .definition body => body.children.map .node
  | .node (.column children _) => children.map .node
  | .node (.computedColumn children _) => children.map .node
  | .node (.primaryKey children _) => children.map .node
  | .node (.caseExpression operand clauses otherwise _) =>
    operand.toList.map .node ++ clauses.map .clause ++ otherwise.toList.map .node
  | .node (.call _ arguments _) => arguments.map .node
  | .node _ => []
  | .clause branch => [.node branch.condition, .node branch.result]

end Part

/-! ## Runs of tokens -/

/-- Whether the parts quote runs of tokens that follow each other from `tokens` to `rest`, and so do
the parts of each of them within its own run. -/
inductive Nested : List Part → (tokens rest : List Token) → Prop
  | nil {tokens rest : List Token} (isSuffix : rest <:+ tokens) : Nested [] tokens rest
  | cons {part : Part} {parts : List Part} {tokens first last rest : List Token}
    (isSuffix : first <:+ tokens) (shorter : last.length < first.length)
    (text : part.sql = Token.textTo first last) (inside : Nested part.children first last)
    (further : Nested parts last rest) : Nested (part :: parts) tokens rest

namespace Nested

variable {parts others : List Part} {part : Part} {tokens middle rest : List Token}

theorem isSuffix (nested : Nested parts tokens rest) : rest <:+ tokens := by
  induction nested with
  | nil isSuffix => exact isSuffix
  | cons isSuffix _ _ _ _ inside further => exact further.trans (inside.trans isSuffix)

/-- More tokens on either side change nothing. -/
theorem widen {tokens' rest' : List Token} (nested : Nested parts tokens rest)
    (before : tokens <:+ tokens') (after : rest' <:+ rest) : Nested parts tokens' rest' := by
  induction nested generalizing tokens' with
  | nil isSuffix => exact .nil (after.trans (isSuffix.trans before))
  | cons isSuffix shorter text inside _ _ further =>
    exact .cons (isSuffix.trans before) shorter text inside (further List.suffix_rfl after)

theorem append (left : Nested parts tokens middle) (right : Nested others middle rest) :
    Nested (parts ++ others) tokens rest := by
  induction left with
  | nil isSuffix => exact right.widen isSuffix List.suffix_rfl
  | cons isSuffix shorter text inside _ _ further =>
    exact .cons isSuffix shorter text inside (further right)

/-- A part that quotes all the tokens up to `rest`. -/
theorem single (shorter : rest.length < tokens.length)
    (text : part.sql = Token.textTo tokens rest) (inside : Nested part.children tokens rest) :
    Nested [part] tokens rest :=
  .cons List.suffix_rfl shorter text inside (.nil List.suffix_rfl)

/-- A part that has no parts. -/
theorem leaf (noChildren : part.children = []) (isSuffix : rest <:+ tokens)
    (shorter : rest.length < tokens.length) (text : part.sql = Token.textTo tokens rest) :
    Nested [part] tokens rest := by
  apply single shorter text
  rw [noChildren]
  exact .nil isSuffix

end Nested

/-! ## Parts of a script -/

/-- Whether the parts stand in `source` one after the other between two byte offsets, and so do the
parts of each of them within its own text. -/
inductive NestedIn (source : String) : List Part → (start stop : Nat) → Prop
  | nil {start stop : Nat} (forward : start ≤ stop) : NestedIn source [] start stop
  | cons {part : Part} {parts : List Part} {start first last stop : Nat} (forward : start ≤ first)
    (stands : StandsIn source part.sql first last)
    (inside : NestedIn source part.children first last)
    (further : NestedIn source parts last stop) : NestedIn source (part :: parts) start stop

theorem NestedIn.widen {source : String} {parts : List Part} {start stop stop' : Nat}
    (nested : NestedIn source parts start stop) (notEarlier : stop ≤ stop') :
    NestedIn source parts start stop' := by
  induction nested with
  | nil forward => exact .nil (Nat.le_trans forward notEarlier)
  | cons forward stands inside _ _ further => exact .cons forward stands inside (further notEarlier)

namespace Token

variable {source : String} {front tokens : List Token} {first : Token}

theorem utf8ByteSize_written_le (front back : List Token) :
    (written front).utf8ByteSize ≤ (written (front ++ back)).utf8ByteSize := by
  rw [written_append, String.utf8ByteSize_append]
  exact Nat.le_add_right _ _

/-- A token begins where the tokens before it have ended, or later. -/
theorem utf8ByteSize_written_le_start (scanned : scan source = .ok (front ++ tokens)) :
    ∀ token ∈ tokens, (written front).utf8ByteSize ≤ token.start := by
  intro token member
  rcases List.append_of_mem member with ⟨between, after, rfl⟩
  rw [← List.append_assoc] at scanned
  have follows := follows_of_scan scanned
  rw [follows.start_eq, String.utf8ByteSize_append]
  exact Nat.le_add_right_of_le (utf8ByteSize_written_le front between)

theorem start_le_start (scanned : scan source = .ok (front ++ first :: tokens)) :
    ∀ token ∈ first :: tokens, first.start ≤ token.start := by
  have follows := follows_of_scan scanned
  rw [List.append_cons] at scanned
  have later := utf8ByteSize_written_le_start scanned
  rw [← follows.stop_eq] at later
  refine List.forall_mem_cons.mpr ⟨Nat.le_refl _, ?_⟩
  intro token member
  exact Nat.le_trans (Nat.le_add_right _ _) (later token member)

end Token

/-- Parts that quote tokens of a script stand in the script. -/
theorem Nested.nestedIn {source : String} {parts : List Part} {tokens rest front run : List Token}
    (nested : Nested parts tokens rest) (whole : tokens = run ++ rest)
    (scanned : Token.scan source = .ok (front ++ tokens)) {start : Nat}
    (notLater : ∀ token ∈ tokens, start ≤ token.start)
    (forward : start ≤ (Token.written (front ++ run)).utf8ByteSize) :
    NestedIn source parts start (Token.written (front ++ run)).utf8ByteSize := by
  -- `front` are the tokens before the parts, `run` those up to their end; the tokens of a part
  -- go to `front` for the parts after it.
  induction nested generalizing front run start with
  | nil => exact .nil forward
  | @cons part parts tokens first last rest isSuffix shorter text nestedInside nestedFurther inside
      further =>
    rcases isSuffix with ⟨skipped, rfl⟩
    rcases Token.exists_run nestedInside.isSuffix shorter with ⟨own, some, rfl, ownText⟩
    rcases nestedFurther.isSuffix with ⟨later, rfl⟩
    obtain rfl : run = skipped ++ own ++ later := by
      simpa only [← List.append_assoc, List.append_cancel_right_eq] using whole.symm
    have scannedFirst : Token.scan source = .ok (front ++ skipped ++ (own ++ (later ++ rest))) := by
      simpa only [List.append_assoc] using scanned
    have scannedOwn : Token.scan source = .ok (front ++ skipped ++ own ++ (later ++ rest)) := by
      simpa only [List.append_assoc] using scanned
    have stands := Token.standsIn_textOf scannedOwn some
    rw [Token.stop_getLast scannedOwn some, ← ownText, ← text] at stands
    have ownForward := stands.start_lt_stop
    rcases List.exists_cons_of_ne_nil some with ⟨head, others, rfl⟩
    rw [← List.append_assoc front, ← List.append_assoc front]
    refine .cons ?_ stands ?_ ?_
    · exact notLater head (by simp)
    · exact inside rfl scannedFirst (Token.start_le_start scannedFirst) (Nat.le_of_lt ownForward)
    · exact further rfl scannedOwn (Token.utf8ByteSize_written_le_start scannedOwn)
        (Token.utf8ByteSize_written_le _ _)

end SqlSchema
