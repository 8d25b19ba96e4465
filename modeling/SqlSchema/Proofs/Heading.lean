import SqlSchema.Proofs.Parallel.Element
import SqlSchema.Proofs.Scan

/-!
The elements of a table under another heading. What stands before the first token, and whether that
token opens a line, does not change what the elements are: their texts begin with the token itself,
and only an operator chain asks for the first word of a line, which never is the first of an element.
-/

namespace SqlSchema

open Token (headed)

variable (lead : String) (opens : Bool) (tokens : List Token)

namespace Token

@[simp] theorem headed_cons (first : Token) (rest : List Token) :
    headed lead opens (first :: rest) = { first with lead, opensLine := opens } :: rest :=
  rfl

@[simp] theorem length_headed : (headed lead opens tokens).length = tokens.length := by
  cases tokens <;> rfl

@[simp] theorem tail_headed : (headed lead opens tokens).tail = tokens.tail := by
  cases tokens <;> rfl

@[simp] theorem isEmpty_headed : (headed lead opens tokens).isEmpty = tokens.isEmpty := by
  cases tokens <;> rfl

@[simp] theorem textTo_headed (rest : List Token) :
    textTo (headed lead opens tokens) rest = textTo tokens rest := by
  unfold textTo run
  rw [length_headed]
  cases tokens with
  | nil => rfl
  | cons first others => cases (first :: others).length - rest.length <;> rfl

end Token

namespace Grammar

section

variable (keyword : String) (keywords : List String)

@[simp] theorem nextIsWord_headed :
    nextIsWord keyword (headed lead opens tokens) = nextIsWord keyword tokens := by
  cases tokens <;> rfl

@[simp] theorem nextIsWordIn_headed :
    nextIsWordIn keywords (headed lead opens tokens) = nextIsWordIn keywords tokens := by
  cases tokens <;> rfl

@[simp] theorem nextAreWords_headed :
    nextAreWords keywords (headed lead opens tokens) = nextAreWords keywords tokens := by
  cases keywords <;> cases tokens <;> rfl

end

variable {lead opens tokens} {rest : List Token}

theorem name_headed {text : String} (found : name tokens = .ok (text, rest)) :
    name (headed lead opens tokens) = .ok (text, rest) := by
  cases tokens with
  | nil => cases found
  | cons first others =>
    change (if first.isName = true then Except.ok (first.name, others) else _) = _
    change (if first.isName = true then _ else _) = _ at found
    split at found
    · rename_i isName
      rw [if_pos isName]
      exact found
    · cases found

theorem identifier_headed {node : Node} (found : identifier tokens = .ok (node, rest)) :
    identifier (headed lead opens tokens) = .ok (node, rest) := by
  obtain ⟨⟨text, after⟩, named, equal⟩ := bind_eq_ok.mp found
  cases equal
  rw [← Token.textTo_headed lead opens]
  exact bind_eq_ok.mpr ⟨_, name_headed named, rfl⟩

/-! ## Constraints -/

theorem constraintBody_headed_start (label : Option Node) (start : List Token) :
    constraintBody (headed lead opens start) label tokens = constraintBody start label tokens := by
  simp only [constraintBody, Token.textTo_headed]

theorem constraintBody_headed {start : List Token} {label : Option Node} {node : Node}
    (found : constraintBody start label tokens = .ok (node, rest)) :
    constraintBody start label (headed lead opens tokens) = .ok (node, rest) := by
  unfold constraintBody at found ⊢
  simp only [nextIsWord_headed, Token.tail_headed]
  dsimp only at found
  iterate 6
    refine branch_eq found (fun _ found => found) fun _ found => ?_
  cases found

theorem constraint_headed {node : Node} (found : constraint tokens = .ok (node, rest)) :
    constraint (headed lead opens tokens) = .ok (node, rest) := by
  unfold constraint at found ⊢
  rw [nextIsWord_headed, Token.tail_headed]
  refine branch_eq found (fun _ found => ?_) fun _ found => ?_
  · simp only [constraintBody_headed_start]
    exact found
  · rw [constraintBody_headed_start]
    exact constraintBody_headed found

/-! ## Elements -/

/-- An element that begins with a word is passed over from its second token on. -/
theorem skipElement_of_word {keyword : String} (isWord : nextIsWord keyword tokens = true) :
    skipElement 0 tokens = skipElement 0 tokens.tail := by
  cases tokens with
  | nil => cases isWord
  | cons first others =>
    have kind : first.kind = .word := by
      simp only [nextIsWord, List.head?_cons, Option.any_some, Token.isWord, Bool.and_eq_true,
        beq_iff_eq] at isWord
      exact isWord.1
    rw [skipElement.eq_def, List.tail_cons]
    simp only [kind]

theorem unknownElement_headed {typeName keyword : String}
    (isWord : nextIsWord keyword tokens = true) :
    unknownElement typeName (headed lead opens tokens) = unknownElement typeName tokens := by
  have isWord' : nextIsWord keyword (headed lead opens tokens) = true := by
    rw [nextIsWord_headed, isWord]
  simp only [unknownElement, skipElement_of_word isWord, skipElement_of_word isWord',
    Token.tail_headed, Token.textTo_headed]

theorem column_headed {node : Node} (found : column tokens = .ok (node, rest)) :
    column (headed lead opens tokens) = .ok (node, rest) := by
  obtain ⟨⟨label, afterLabel⟩, labelFound, found⟩ := bind_eq_ok.mp found
  refine bind_eq_ok.mpr ⟨_, identifier_headed labelFound, ?_⟩
  simp only [Token.textTo_headed]
  exact found

theorem tableElement_headed {nodes : List Node} (found : tableElement tokens = .ok (nodes, rest)) :
    tableElement (headed lead opens tokens) = .ok (nodes, rest) := by
  unfold tableElement at found ⊢
  rw [Token.isEmpty_headed, nextIsWordIn_headed, nextIsWord_headed, nextAreWords_headed]
  refine branch_eq found (fun _ found => ?_) fun _ found =>
    branch_eq found (fun _ found => ?_) fun _ found =>
    branch_eq found (fun isIndex found => ?_) fun _ found =>
    branch_eq found (fun isPeriod found => ?_) fun _ found => ?_
  · cases found
  · obtain ⟨⟨node, after⟩, nodeFound, found⟩ := bind_eq_ok.mp found
    exact bind_eq_ok.mpr ⟨_, constraint_headed nodeFound, found⟩
  · rw [unknownElement_headed isIndex]
    exact found
  · have isWord : nextIsWord "PERIOD" tokens = true := by
      cases tokens with
      | nil => cases isPeriod
      | cons first others => exact (Bool.and_eq_true_iff.mp isPeriod).1
    rw [unknownElement_headed isWord]
    exact found
  · obtain ⟨_, columnFound, found⟩ := bind_eq_ok.mp found
    exact bind_eq_ok.mpr ⟨_, column_headed columnFound, found⟩

/-- The elements of a table do not depend on what stands before them. -/
theorem tableElements_headed {nodes : List Node}
    (found : tableElements tokens = .ok (nodes, rest)) :
    tableElements (headed lead opens tokens) = .ok (nodes, rest) := by
  rw [tableElements_eq] at found ⊢
  obtain ⟨⟨first, afterFirst⟩, firstFound, found⟩ := bind_eq_ok.mp found
  exact bind_eq_ok.mpr ⟨_, tableElement_headed firstFound, found⟩

end Grammar

end SqlSchema
