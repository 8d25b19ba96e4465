import Mathlib
import SqlSchema.Code.Name

/-!
Characters of converted names. In snake case and in Pascal case a name has only ASCII letters and
digits, in snake case also underscores; these stand between words and never at an end.
-/

namespace SqlSchema.Name

/-- Words of ASCII letters and digits with underscores between them. -/
structure IsJoined (chars : List Char) : Prop where
  plain : ∀ char ∈ chars, char.isAlphanum = true ∨ char = '_'
  head?_ne : chars.head? ≠ some '_'
  getLast?_ne : chars.getLast? ≠ some '_'

/-! ## Letters and digits -/

theorem isAlphanum_toLower (char : Char) : char.toLower.isAlphanum = char.isAlphanum := by
  by_cases capital : char.isUpper = true
  · have isLetter : char.isAlpha = true := by simp [Char.isAlpha, capital]
    simp [Char.isAlphanum, isLetter]
  · rw [Char.toLower_eq_of_not_isUpper capital]

theorem isAlphanum_toUpper (char : Char) : char.toUpper.isAlphanum = char.isAlphanum := by
  by_cases small : char.isLower = true
  · have isLetter : char.isAlpha = true := by simp [Char.isAlpha, small]
    simp [Char.isAlphanum, isLetter]
  · rw [Char.toUpper_eq_of_not_isLower small]

theorem ne_underscore_of_isAlphanum {char : Char} (alphanum : char.isAlphanum = true) :
    char ≠ '_' := by
  rintro rfl
  cases alphanum

/-! ## Runs and words -/

/-- The pieces of a list have no separator. -/
theorem not_of_mem_splitOnP {α : Type} {separates : α → Bool} {items piece : List α}
    (member : piece ∈ items.splitOnP separates) : ∀ item ∈ piece, separates item = false := by
  induction items generalizing piece with
  | nil => simp_all
  | cons first items induction =>
    rw [List.splitOnP_cons_eq_if_modifyHead] at member
    split at member
    · rcases List.mem_cons.mp member with rfl | member
      · exact nofun
      · exact induction member
    · rename_i kept
      obtain ⟨head, tail, split⟩ :=
        List.exists_cons_of_ne_nil (List.splitOnP_ne_nil separates items)
      rw [split] at induction member
      rcases List.mem_cons.mp member with rfl | member
      · exact List.forall_mem_cons.mpr
          ⟨by simpa using kept, induction (List.mem_cons_self (l := tail))⟩
      · exact induction (List.mem_cons_of_mem head member)

theorem isAlphanum_of_mem_runs {name : String} {run : List Char} (member : run ∈ runs name) :
    ∀ char ∈ run, char.isAlphanum = true := by
  intro char charMember
  simpa using not_of_mem_splitOnP (List.mem_filter.mp member).1 char charMember

theorem ne_nil_of_mem_extendFirst {first : Char} {parts : List (List Char)}
    (nonempty : ∀ part ∈ parts, part ≠ []) {word : List Char}
    (member : word ∈ extendFirst first parts) : word ≠ [] := by
  cases parts with
  | nil =>
    rw [List.mem_singleton.mp member]
    exact List.cons_ne_nil first []
  | cons part parts =>
    rcases List.mem_cons.mp member with rfl | member
    · exact List.cons_ne_nil first part
    · exact nonempty word (List.mem_cons_of_mem part member)

theorem ne_nil_of_mem_words {run word : List Char} (member : word ∈ words run) : word ≠ [] := by
  induction run generalizing word with
  | nil => cases member
  | cons char rest induction =>
    cases rest with
    | nil =>
      rw [List.mem_singleton.mp member]
      exact List.cons_ne_nil char []
    | cons next rest =>
      rw [words] at member
      split at member
      · rcases List.mem_cons.mp member with rfl | member
        · exact List.cons_ne_nil char []
        · exact induction member
      · exact ne_nil_of_mem_extendFirst (fun _ => induction) member

theorem mem_of_mem_words {run word : List Char} (member : word ∈ words run) :
    ∀ char ∈ word, char ∈ run := by
  intro char charMember
  rw [← flatten_words run]
  exact List.mem_flatten_of_mem member charMember

/-! ## Joined words -/

theorem isJoined_of_isAlphanum {chars : List Char}
    (alphanum : ∀ char ∈ chars, char.isAlphanum = true) : IsJoined chars where
  plain char member := .inl (alphanum char member)
  head?_ne first :=
    ne_underscore_of_isAlphanum (alphanum '_' (List.mem_of_head? first)) rfl
  getLast?_ne last :=
    ne_underscore_of_isAlphanum (alphanum '_' (List.mem_of_getLast? last)) rfl

theorem isJoined_intercalate {parts : List (List Char)} (nonempty : ∀ part ∈ parts, part ≠ [])
    (alphanum : ∀ part ∈ parts, ∀ char ∈ part, char.isAlphanum = true) :
    IsJoined (['_'].intercalate parts) := by
  induction parts with
  | nil => exact ⟨nofun, nofun, nofun⟩
  | cons part rest induction =>
    obtain ⟨partNonempty, restNonempty⟩ := List.forall_mem_cons.mp nonempty
    obtain ⟨partAlphanum, restAlphanum⟩ := List.forall_mem_cons.mp alphanum
    cases rest with
    | nil =>
      rw [List.intercalate_singleton]
      exact isJoined_of_isAlphanum partAlphanum
    | cons next others =>
      have joined := induction restNonempty restAlphanum
      have single := isJoined_of_isAlphanum partAlphanum
      obtain ⟨char, chars, rfl⟩ := List.exists_cons_of_ne_nil partNonempty
      obtain ⟨nextChar, nextChars, rfl⟩ :=
        List.exists_cons_of_ne_nil (restNonempty next List.mem_cons_self)
      rw [List.intercalate_cons_cons]
      refine ⟨?_, single.head?_ne, ?_⟩
      · intro other member
        rcases List.mem_append.mp member with member | member
        · rcases List.mem_append.mp member with member | member
          · exact single.plain other member
          · exact .inr (List.mem_singleton.mp member)
        · exact joined.plain other member
      · have last := joined.getLast?_ne
        rw [List.intercalate_cons_cons_left] at last ⊢
        rwa [List.getLast?_append_cons]

/-- A name in snake case is words with underscores between them. -/
theorem isJoined_snakeCase (name : String) : IsJoined (snakeCase name).toList := by
  rw [snakeCase, String.toList_ofList]
  apply isJoined_intercalate
  · intro part member
    obtain ⟨word, wordMember, rfl⟩ := List.mem_map.mp member
    obtain ⟨run, _, wordMember⟩ := List.mem_flatMap.mp wordMember
    simpa using ne_nil_of_mem_words wordMember
  · intro part member char charMember
    obtain ⟨word, wordMember, rfl⟩ := List.mem_map.mp member
    obtain ⟨run, runMember, wordMember⟩ := List.mem_flatMap.mp wordMember
    obtain ⟨letter, letterMember, rfl⟩ := List.mem_map.mp charMember
    rw [isAlphanum_toLower]
    exact isAlphanum_of_mem_runs runMember letter (mem_of_mem_words wordMember letter letterMember)

/-- A name in Pascal case has only letters and digits. -/
theorem isAlphanum_of_mem_pascalCase {name : String} :
    ∀ char ∈ (pascalCase name).toList, char.isAlphanum = true := by
  intro char member
  rw [pascalCase, String.toList_ofList] at member
  obtain ⟨run, runMember, charMember⟩ := List.mem_flatMap.mp member
  have alphanum := isAlphanum_of_mem_runs runMember
  cases run with
  | nil => cases charMember
  | cons first rest =>
    rcases List.mem_cons.mp charMember with rfl | charMember
    · rw [isAlphanum_toUpper]
      exact alphanum first List.mem_cons_self
    · exact alphanum char (List.mem_cons_of_mem first charMember)

theorem isJoined_pascalCase (name : String) : IsJoined (pascalCase name).toList :=
  isJoined_of_isAlphanum isAlphanum_of_mem_pascalCase

/-! ## Names without letters and digits -/

/-- Whether a name has an ASCII letter or digit. -/
def hasLetterOrDigit (name : String) : Bool :=
  name.toList.any Char.isAlphanum

theorem flatten_splitOnP {α : Type} (separates : α → Bool) (items : List α) :
    (items.splitOnP separates).flatten = items.filter (!separates ·) := by
  induction items with
  | nil => simp
  | cons first items induction =>
    rw [List.splitOnP_cons_eq_if_modifyHead, List.filter_cons, ← induction]
    obtain ⟨head, tail, split⟩ := List.exists_cons_of_ne_nil (List.splitOnP_ne_nil separates items)
    cases separated : separates first with
    | true => rfl
    | false => simp [split]

/-- The runs of a name have its letters and digits, in their order. -/
theorem flatten_runs (name : String) :
    (runs name).flatten = name.toList.filter Char.isAlphanum := by
  have nonempty := List.flatten_filter_ne_nil (L := name.toList.splitOnP (!Char.isAlphanum ·))
  rw [runs, nonempty, flatten_splitOnP]
  simp

theorem runs_eq_nil_iff (name : String) : runs name = [] ↔ hasLetterOrDigit name = false := by
  have chars : (runs name).flatten = [] ↔ hasLetterOrDigit name = false := by
    rw [flatten_runs, List.filter_eq_nil_iff, hasLetterOrDigit, List.any_eq_false]
  rw [← chars]
  constructor
  · intro none
    rw [none, List.flatten_nil]
  · intro empty
    apply List.eq_nil_iff_forall_not_mem.mpr
    intro run member
    have runEmpty := List.flatten_eq_nil_iff.mp empty run member
    simpa [runEmpty] using (List.mem_filter.mp member).2

theorem intercalate_ne_nil {separator : List Char} {parts : List (List Char)}
    (nonempty : ∀ part ∈ parts, part ≠ []) (some : parts ≠ []) :
    separator.intercalate parts ≠ [] := by
  obtain ⟨part, rest, rfl⟩ := List.exists_cons_of_ne_nil some
  have first := nonempty part List.mem_cons_self
  cases rest with
  | nil => rwa [List.intercalate_singleton]
  | cons next others =>
    rw [List.intercalate_cons_cons, List.append_assoc]
    exact List.append_ne_nil_of_left_ne_nil first _

/-- A name has no form in snake case exactly if it has no letter and no digit. -/
theorem snakeCase_eq_empty_iff (name : String) :
    snakeCase name = "" ↔ hasLetterOrDigit name = false := by
  rw [← runs_eq_nil_iff, snakeCase, String.ofList_eq_empty_iff]
  constructor
  · intro empty
    by_contra some
    obtain ⟨run, rest, split⟩ := List.exists_cons_of_ne_nil some
    have member : run ∈ runs name := by simp [split]
    have runNonempty : run ≠ [] := by simpa using (List.mem_filter.mp member).2
    refine intercalate_ne_nil ?_ ?_ empty
    · intro part partMember
      obtain ⟨word, wordMember, rfl⟩ := List.mem_map.mp partMember
      obtain ⟨_, _, wordMember⟩ := List.mem_flatMap.mp wordMember
      simpa using ne_nil_of_mem_words wordMember
    · intro noWords
      have words := List.flatMap_eq_nil_iff.mp (List.map_eq_nil_iff.mp noWords) run member
      have flat := flatten_words run
      rw [words] at flat
      exact runNonempty flat.symm
  · intro none
    rw [none]
    rfl

theorem pascalCase_eq_empty_iff (name : String) :
    pascalCase name = "" ↔ hasLetterOrDigit name = false := by
  rw [← runs_eq_nil_iff, pascalCase, String.ofList_eq_empty_iff]
  constructor
  · intro empty
    by_contra some
    obtain ⟨run, rest, split⟩ := List.exists_cons_of_ne_nil some
    have member : run ∈ runs name := by simp [split]
    have runNonempty : run ≠ [] := by simpa using (List.mem_filter.mp member).2
    have capital := List.flatMap_eq_nil_iff.mp empty run member
    cases run with
    | nil => exact runNonempty rfl
    | cons char chars => cases capital
  · intro none
    rw [none]
    rfl

end SqlSchema.Name
