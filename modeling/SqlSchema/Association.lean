/-!
Lists of keys with values, in the order in which the keys were first put. `List.lookup` finds the
value of a key.
-/

namespace SqlSchema.Association

/-- The list with `value` under `key`, in the place of the entry of that key or at the end. -/
def put {α : Type} (key : String) (value : α) : List (String × α) → List (String × α)
  | [] => [(key, value)]
  | entry :: rest => if entry.1 = key then (key, value) :: rest else entry :: put key value rest

theorem lookup_put_self {α : Type} (key : String) (value : α) (entries : List (String × α)) :
    (put key value entries).lookup key = some value := by
  induction entries with
  | nil => simp [put]
  | cons entry rest induction =>
    obtain ⟨known, old⟩ := entry
    by_cases same : known = key
    · simp [put, same]
    · have apart : (key == known) = false := by simpa using Ne.symm same
      simp [put, same, List.lookup_cons, apart, induction]

theorem lookup_put_of_ne {α : Type} {key other : String} (different : other ≠ key) (value : α)
    (entries : List (String × α)) :
    (put key value entries).lookup other = entries.lookup other := by
  have apart : (other == key) = false := by simpa using different
  induction entries with
  | nil => simp [put, List.lookup_cons, apart]
  | cons entry rest induction =>
    obtain ⟨known, old⟩ := entry
    by_cases same : known = key
    · simp [put, same, List.lookup_cons, apart]
    · simp [put, same, List.lookup_cons, induction]

example : put "a" 3 [("a", 1), ("b", 2)] = [("a", 3), ("b", 2)] := by decide +kernel

end SqlSchema.Association
