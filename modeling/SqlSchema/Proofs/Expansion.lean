import Mathlib.Data.List.Infix
import SqlSchema.Output.Template

/-!
Expansion of templates. Expanding is one replacement from left to right: the search goes on after a
placeholder that was found, in the template and never in a value. Since a placeholder cannot begin
inside another one, each of them is replaced wherever it stands, and a template can be cut where no
placeholder is cut.
-/

namespace SqlSchema

/-! ## Placeholders -/

namespace Placeholder

variable {placeholder : Placeholder} {chars rest : List Char}

/-- A placeholder has no brace that opens after its first character. -/
theorem exists_text_eq (placeholder : Placeholder) :
    ∃ tail, placeholder.text = '\x7b' :: tail ∧ '\x7b' ∉ tail := by
  cases placeholder <;> exact ⟨_, rfl, by decide⟩

theorem text_ne_nil (placeholder : Placeholder) : placeholder.text ≠ [] := by
  obtain ⟨tail, same, -⟩ := placeholder.exists_text_eq
  rw [same]
  exact List.cons_ne_nil _ _

/-- No placeholder is the beginning of another one. -/
theorem eq_of_prefix_text {left right : Placeholder} (isPrefix : left.text <+: right.text) :
    left = right := by
  revert isPrefix
  cases left <;> cases right <;> decide

theorem split?_eq_some_iff :
    split? chars = some (placeholder, rest) ↔ chars = placeholder.text ++ rest := by
  unfold split?
  rw [Option.map_eq_some_iff]
  constructor
  · rintro ⟨found, first, same⟩
    cases same
    have stands : placeholder.text.isPrefixOf chars = true := by simpa using List.find?_some first
    exact (List.prefix_iff_eq_append.mp (List.isPrefixOf_iff_prefix.mp stands)).symm
  · rintro rfl
    have stands : placeholder.text.isPrefixOf (placeholder.text ++ rest) = true :=
      List.isPrefixOf_iff_prefix.mpr (List.prefix_append _ _)
    have member : placeholder ∈ all := by cases placeholder <;> decide
    cases first : all.find? fun other => other.text.isPrefixOf (placeholder.text ++ rest) with
    | none => exact absurd stands (List.find?_eq_none.mp first placeholder member)
    | some other =>
      have otherStands : other.text.isPrefixOf (placeholder.text ++ rest) = true := by
        simpa using List.find?_some first
      obtain rfl : other = placeholder := by
        rcases List.prefix_or_prefix_of_prefix (List.isPrefixOf_iff_prefix.mp otherStands)
          (List.prefix_append _ _) with inside | around
        · exact eq_of_prefix_text inside
        · exact (eq_of_prefix_text around).symm
      exact ⟨other, rfl, by rw [List.drop_left]⟩

theorem split?_eq_none_iff :
    split? chars = none ↔ ∀ placeholder : Placeholder, ¬placeholder.text <+: chars := by
  constructor
  · rintro none placeholder ⟨rest, rfl⟩
    rw [split?_eq_some_iff.mpr rfl] at none
    cases none
  · intro absent
    cases found : split? chars with
    | none => rfl
    | some pair => exact absurd ⟨pair.2, (split?_eq_some_iff.mp found).symm⟩ (absent pair.1)

/-- Whether a placeholder stands across the place where `left` ends and `right` begins. -/
def Straddles (left right : List Char) : Prop :=
  ∃ (placeholder : Placeholder) (front back : List Char),
    placeholder.text = front ++ back ∧ front ≠ [] ∧ back ≠ [] ∧ front <:+ left ∧ back <+: right

theorem Straddles.of_suffix {left left' right : List Char} (straddles : Straddles left right)
    (isSuffix : left <:+ left') : Straddles left' right := by
  obtain ⟨placeholder, front, back, same, frontNotEmpty, backNotEmpty, ends, begins⟩ := straddles
  exact ⟨placeholder, front, back, same, frontNotEmpty, backNotEmpty, ends.trans isSuffix, begins⟩

/-- No placeholder begins before another one and ends in it. -/
theorem not_straddles_text (left rest : List Char) (placeholder : Placeholder) :
    ¬Straddles left (placeholder.text ++ rest) := by
  rintro ⟨other, front, back, same, frontNotEmpty, backNotEmpty, -, begins⟩
  obtain ⟨tail, opens, -⟩ := placeholder.exists_text_eq
  obtain ⟨otherTail, otherOpens, noBrace⟩ := other.exists_text_eq
  obtain ⟨first, front, rfl⟩ := List.exists_cons_of_ne_nil frontNotEmpty
  obtain ⟨second, back, rfl⟩ := List.exists_cons_of_ne_nil backNotEmpty
  -- The second part of `other` would begin with the brace that opens `placeholder`.
  rw [opens, List.cons_append, List.cons_prefix_cons] at begins
  rw [otherOpens, List.cons_append] at same
  apply noBrace
  rw [(List.cons.inj same).2, begins.1]
  exact List.mem_append_right front List.mem_cons_self

/-- A placeholder that begins in `left` lies in it if none straddles its end. -/
theorem prefix_of_prefix_append {left right : List Char} (notEmpty : left ≠ [])
    (apart : ¬Straddles left right) (isPrefix : placeholder.text <+: left ++ right) :
    placeholder.text <+: left := by
  rcases List.prefix_or_prefix_of_prefix isPrefix (List.prefix_append left right) with
    inside | ⟨back, same⟩
  · exact inside
  · by_cases ended : back = []
    · rw [ended, List.append_nil] at same
      rw [same]
    · rw [← same, List.prefix_append_right_inj] at isPrefix
      exact absurd
        ⟨placeholder, left, back, same.symm, notEmpty, ended, List.suffix_rfl, isPrefix⟩ apart

end Placeholder

namespace TemplateValues

open Placeholder (Straddles)

variable {values : TemplateValues} {chars expanded : List Char}

/-! ## Steps of expansion -/

@[simp]
theorem expandChars_nil (values : TemplateValues) : values.expandChars [] = [] := by
  rw [expandChars]

theorem expandChars_text (values : TemplateValues) (placeholder : Placeholder)
    (rest : List Char) :
    values.expandChars (placeholder.text ++ rest) =
      (values.value placeholder).toList ++ values.expandChars rest := by
  obtain ⟨tail, opens, -⟩ := placeholder.exists_text_eq
  have found : Placeholder.split? ('\x7b' :: (tail ++ rest)) = some (placeholder, rest) := by
    rw [Placeholder.split?_eq_some_iff, opens, List.cons_append]
  rw [opens, List.cons_append, expandChars]
  split
  · rename_i other after isFound
    cases found.symm.trans isFound
    rfl
  · rename_i none
    cases found.symm.trans none

theorem expandChars_cons {char : Char} {rest : List Char}
    (absent : ∀ placeholder : Placeholder, ¬placeholder.text <+: char :: rest) :
    values.expandChars (char :: rest) = char :: values.expandChars rest := by
  have none := Placeholder.split?_eq_none_iff.mpr absent
  rw [expandChars]
  split
  · rename_i isFound
    cases none.symm.trans isFound
  · rfl

/-- A template begins with a placeholder, or with a character that stays. -/
theorem template_induction {motive : List Char → Prop} (nil : motive [])
    (text : ∀ (placeholder : Placeholder) (rest : List Char), motive rest →
      motive (placeholder.text ++ rest))
    (cons : ∀ (char : Char) (rest : List Char),
      (∀ placeholder : Placeholder, ¬placeholder.text <+: char :: rest) → motive rest →
        motive (char :: rest))
    (chars : List Char) : motive chars := by
  -- The values do not matter for the way in which a template is read.
  fun_induction expandChars {} chars with
  | case1 => exact nil
  | case2 char rest placeholder after found induction =>
    rw [Placeholder.split?_eq_some_iff.mp found]
    exact text placeholder after induction
  | case3 char rest none induction =>
    exact cons char rest (Placeholder.split?_eq_none_iff.mp none) induction

/-- A template without placeholders is its own expansion. -/
theorem expandChars_of_absent
    (absent : ∀ placeholder : Placeholder, ¬placeholder.text <:+: chars) :
    values.expandChars chars = chars := by
  induction chars with
  | nil => exact expandChars_nil values
  | cons char rest induction =>
    rw [expandChars_cons fun placeholder isPrefix => absent placeholder isPrefix.isInfix,
      induction fun placeholder isInfix => absent placeholder (List.infix_cons isInfix)]

/-- A template can be cut where no placeholder is cut. -/
theorem expandChars_append {left right : List Char} (apart : ¬Straddles left right) :
    values.expandChars (left ++ right) = values.expandChars left ++ values.expandChars right := by
  induction left using template_induction with
  | nil => rw [List.nil_append, expandChars_nil, List.nil_append]
  | text placeholder rest induction =>
    have apartRest : ¬Straddles rest right := fun straddles =>
      apart (straddles.of_suffix (List.suffix_append _ _))
    rw [List.append_assoc, expandChars_text, expandChars_text, induction apartRest,
      List.append_assoc]
  | cons char rest absent induction =>
    have apartRest : ¬Straddles rest right := fun straddles =>
      apart (straddles.of_suffix (List.suffix_cons char rest))
    have absentBefore (placeholder : Placeholder) :
        ¬placeholder.text <+: char :: (rest ++ right) := fun isPrefix =>
      absent placeholder
        (Placeholder.prefix_of_prefix_append (List.cons_ne_nil _ _) apart isPrefix)
    rw [List.cons_append, expandChars_cons absentBefore, expandChars_cons absent,
      induction apartRest, List.cons_append]

/-- Wherever a placeholder stands, it is replaced, and what stands around it is expanded by
itself. -/
theorem expandChars_around (values : TemplateValues) (before after : List Char)
    (placeholder : Placeholder) :
    values.expandChars (before ++ (placeholder.text ++ after)) =
      values.expandChars before ++
        ((values.value placeholder).toList ++ values.expandChars after) := by
  rw [expandChars_append (Placeholder.not_straddles_text before after placeholder),
    expandChars_text]

/-! ## Replacement from left to right -/

/-- Replacement as a search for matches. Where no placeholder stands anywhere, the search is over;
else the first one from the left is replaced and the search goes on after it. -/
inductive Replaces (values : TemplateValues) : (template expanded : List Char) → Prop
  | unchanged {chars : List Char}
    (absent : ∀ placeholder : Placeholder, ¬placeholder.text <:+: chars) :
    Replaces values chars chars
  | replaced (before : List Char) {after expanded : List Char} (placeholder : Placeholder)
    (leftmost : ∀ passed, passed <:+ before → passed ≠ [] → ∀ other : Placeholder,
      ¬other.text <+: passed ++ (placeholder.text ++ after))
    (others : Replaces values after expanded) :
    Replaces values (before ++ (placeholder.text ++ after))
      (before ++ ((values.value placeholder).toList ++ expanded))

/-- A character at which no placeholder begins is passed over by the search. -/
theorem Replaces.cons {char : Char} {rest : List Char} (replaces : Replaces values rest expanded)
    (absent : ∀ placeholder : Placeholder, ¬placeholder.text <+: char :: rest) :
    Replaces values (char :: rest) (char :: expanded) := by
  cases replaces with
  | unchanged absentRest =>
    refine .unchanged fun placeholder isInfix => ?_
    rcases List.infix_cons_iff.mp isInfix with isPrefix | isInfix
    · exact absent placeholder isPrefix
    · exact absentRest placeholder isInfix
  | @replaced before after expanded placeholder leftmost others =>
    refine .replaced (char :: before) placeholder (fun passed isSuffix notEmpty => ?_) others
    rcases List.suffix_cons_iff.mp isSuffix with rfl | isSuffix
    · exact absent
    · exact leftmost passed isSuffix notEmpty

theorem replaces_expandChars (values : TemplateValues) (chars : List Char) :
    Replaces values chars (values.expandChars chars) := by
  induction chars using template_induction with
  | nil =>
    rw [expandChars_nil]
    exact .unchanged fun placeholder isInfix =>
      placeholder.text_ne_nil (List.eq_nil_of_infix_nil isInfix)
  | text placeholder rest induction =>
    rw [expandChars_text]
    exact .replaced [] placeholder
      (fun passed isSuffix notEmpty => absurd (List.suffix_nil.mp isSuffix) notEmpty) induction
  | cons char rest absent induction =>
    rw [expandChars_cons absent]
    exact induction.cons absent

theorem Replaces.eq_expandChars (replaces : Replaces values chars expanded) :
    expanded = values.expandChars chars := by
  induction replaces with
  | unchanged absent => exact (expandChars_of_absent absent).symm
  | @replaced before after expanded placeholder leftmost _ induction =>
    have absent (other : Placeholder) : ¬other.text <:+: before := by
      rintro ⟨front, back, rfl⟩
      refine leftmost (other.text ++ back) ⟨front, by rw [List.append_assoc]⟩
        (List.append_ne_nil_of_left_ne_nil other.text_ne_nil back) other ?_
      rw [List.append_assoc]
      exact List.prefix_append _ _
    rw [expandChars_around, expandChars_of_absent absent, ← induction]

/-! ## Placeholders as values -/

/-- Every placeholder as its own value. -/
def placeholders : TemplateValues where
  database := String.ofList Placeholder.database.text
  schema := String.ofList Placeholder.schema.text
  table := String.ofList Placeholder.table.text
  entity := String.ofList Placeholder.entity.text

theorem value_placeholders (placeholder : Placeholder) :
    (placeholders.value placeholder).toList = placeholder.text := by
  cases placeholder <;> exact String.toList_ofList

theorem expandChars_placeholders (chars : List Char) : placeholders.expandChars chars = chars := by
  induction chars using template_induction with
  | nil => exact expandChars_nil _
  | text placeholder rest induction => rw [expandChars_text, value_placeholders, induction]
  | cons char rest absent induction => rw [expandChars_cons absent, induction]

/-! ## Templates -/

/-- Expanding is replacing from left to right. So a placeholder is replaced wherever it stands, and
what stands around it is expanded by itself; a template can be cut where no placeholder is cut; and
the placeholders as values change nothing. -/
theorem replaces_iff_eq_expand (values : TemplateValues) (template expanded rest : String)
    (placeholder : Placeholder) :
    (Replaces values template.toList expanded.toList ↔ expanded = values.expand template) ∧
      values.expand (template ++ String.ofList placeholder.text ++ rest) =
        values.expand template ++ values.value placeholder ++ values.expand rest ∧
      (¬Straddles template.toList rest.toList →
        values.expand (template ++ rest) = values.expand template ++ values.expand rest) ∧
      placeholders.expand template = template := by
  refine ⟨⟨fun replaces => ?_, ?_⟩, ?_, fun apart => ?_, ?_⟩
  · exact String.toList_injective (by rw [expand, String.toList_ofList, replaces.eq_expandChars])
  · rintro rfl
    rw [expand, String.toList_ofList]
    exact replaces_expandChars values template.toList
  · apply String.toList_injective
    simp only [expand, String.toList_append, String.toList_ofList, List.append_assoc,
      expandChars_around]
  · apply String.toList_injective
    simp only [expand, String.toList_append, String.toList_ofList, expandChars_append apart]
  · rw [expand, expandChars_placeholders, String.ofList_toList]

/-- Braces around a placeholder, one that is cut short, and a value that is written like another. -/
theorem replaces_iff_eq_expand_braces :
    let values : TemplateValues := { schema := "\x7bTable\x7d", table := "Order" }
    let front := "\x7b\x7bSchema\x7d\x7d/\x7bTable"
    let back := "/\x7bTable\x7d"
    ¬Straddles front.toList back.toList ∧
      values.expand (front ++ back) = values.expand front ++ values.expand back ∧
      values.expand (front ++ back) = "\x7b\x7bTable\x7d\x7d/\x7bTable/Order" := by
  intro values front back
  have apart : ¬Straddles front.toList back.toList := by
    rintro ⟨placeholder, first, second, same, -, notEmpty, -, begins⟩
    obtain ⟨slash, second, rfl⟩ := List.exists_cons_of_ne_nil notEmpty
    have opens : back.toList = '/' :: back.toList.tail := by decide +kernel
    rw [opens] at begins
    obtain rfl : slash = '/' := (List.cons_prefix_cons.mp begins).1
    have member : '/' ∈ placeholder.text := by
      rw [same]
      exact List.mem_append_right first List.mem_cons_self
    revert member
    cases placeholder <;> decide
  exact ⟨apart, (replaces_iff_eq_expand values front "" back .schema).2.2.1 apart,
    by decide +kernel⟩

end TemplateValues

end SqlSchema
