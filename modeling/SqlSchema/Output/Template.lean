/-!
Path templates. A template is a path with placeholders in braces; expanding it puts a value for
every placeholder, reads no placeholder inside a value, and keeps all other text.
-/

namespace SqlSchema

/-- The placeholders of a template. -/
inductive Placeholder where
  | database
  | schema
  | table
  | entity
  deriving DecidableEq, Repr

namespace Placeholder

def all : List Placeholder :=
  [database, schema, table, entity]

/-- How a placeholder is written. -/
def text : Placeholder → List Char
  | database => "\x7bDatabase\x7d".toList
  | schema => "\x7bSchema\x7d".toList
  | table => "\x7bTable\x7d".toList
  | entity => "\x7bEntity\x7d".toList

/-- The placeholder at the front of a text, and what follows it. -/
def split? (chars : List Char) : Option (Placeholder × List Char) :=
  (all.find? fun placeholder => placeholder.text.isPrefixOf chars).map fun placeholder =>
    (placeholder, chars.drop placeholder.text.length)

theorem length_of_split? {chars rest : List Char} {placeholder : Placeholder}
    (found : split? chars = some (placeholder, rest)) : rest.length < chars.length := by
  obtain ⟨which, member, rfl, rfl⟩ : ∃ which,
      all.find? (fun placeholder => placeholder.text.isPrefixOf chars) = some which ∧
      which = placeholder ∧ chars.drop which.text.length = rest := by
    simpa [split?, Option.map_eq_some_iff] using found
  have isPrefix : which.text.isPrefixOf chars = true :=
    List.find?_some (p := fun which : Placeholder => which.text.isPrefixOf chars) member
  have fits := (List.isPrefixOf_iff_prefix.mp isPrefix).length_le
  have positive : 0 < which.text.length := by cases which <;> decide
  rw [List.length_drop]
  omega

end Placeholder

/-- A value for every placeholder. -/
structure TemplateValues where
  database : String := ""
  schema : String := ""
  table : String := ""
  entity : String := ""
  deriving DecidableEq, Repr

namespace TemplateValues

def value (values : TemplateValues) : Placeholder → String
  | .database => values.database
  | .schema => values.schema
  | .table => values.table
  | .entity => values.entity

/-- The characters of a template with the values in place. -/
def expandChars (values : TemplateValues) (chars : List Char) : List Char :=
  match chars with
  | [] => []
  | char :: rest =>
    match _ : Placeholder.split? (char :: rest) with
    | some (placeholder, after) => (values.value placeholder).toList ++ expandChars values after
    | none => char :: expandChars values rest
termination_by chars.length
decreasing_by
  · exact Placeholder.length_of_split? ‹_›
  · simp

/-- A template with the values in place. -/
def expand (values : TemplateValues) (template : String) : String :=
  String.ofList (values.expandChars template.toList)

example :
    ({ schema := "dbo", table := "\x7bSchema\x7d" } : TemplateValues).expand
      "\x7b\x7bSchema\x7d/\x7bTable\x7d.\x7bOther\x7d" =
        "\x7bdbo/\x7bSchema\x7d.\x7bOther\x7d" := by
  decide +kernel

end TemplateValues

end SqlSchema
