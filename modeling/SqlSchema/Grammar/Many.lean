import SqlSchema.Grammar.Basic

/-!
Repetition. A step either reads one more item or says that there is none; every item it reads takes
at least one token, so reading all of them ends.
-/

namespace SqlSchema.Grammar

/-- A reader of one item, if there is one. -/
abbrev Step (α : Type) := List Token → Except Refusal (Option (α × List Token))

/-- Whether every item that `step` reads takes a token. -/
def Step.Progresses {α : Type} (step : Step α) : Prop :=
  ∀ {tokens rest : List Token} {value : α},
    step tokens = .ok (some (value, rest)) → rest.length < tokens.length

/-- All items that `step` reads one after the other, and the tokens after them. -/
def many {α : Type} (step : Step α) (progresses : step.Progresses) (tokens : List Token) :
    Except Refusal (List α × List Token) :=
  match _ : step tokens with
  | .error refusal => .error refusal
  | .ok none => .ok ([], tokens)
  | .ok (some (value, rest)) =>
    match many step progresses rest with
    | .error refusal => .error refusal
    | .ok (values, rest) => .ok (value :: values, rest)
termination_by tokens.length
decreasing_by exact progresses ‹_›

theorem length_of_many {α : Type} {step : Step α} {progresses : step.Progresses}
    {tokens rest : List Token} {values : List α}
    (found : many step progresses tokens = .ok (values, rest)) : rest.length ≤ tokens.length := by
  fun_induction many step progresses tokens generalizing values rest with
  | case1 => simp at found
  | case2 => grind
  | case3 => simp_all
  | case4 tokens value next item values' rest' equation induction =>
    have shorter := progresses item
    have notLonger := induction equation
    grind

end SqlSchema.Grammar
