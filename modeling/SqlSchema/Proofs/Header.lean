import SqlSchema.Entity.Source
import SqlSchema.Proofs.EntityNames
import SqlSchema.Proofs.Outcome

/-!
Headers of generated sources. A header puts names into a comment. It has no line of code exactly if
no name brings one along: if every line of the names after the first is empty or a comment itself.
-/

namespace SqlSchema

/-! ## Lines of comments -/

namespace Text

/-- The lines of a text. -/
def lines (text : String) : List (List Char) :=
  text.toList.splitOn '\n'

/-- Whether a line of source code is empty or a comment. -/
def IsCommentLine (line : List Char) : Prop :=
  line = [] ∨ "//".toList <+: line

instance (line : List Char) : Decidable (IsCommentLine line) :=
  inferInstanceAs (Decidable (_ ∨ _))

/-- Whether every line of a text is empty or a comment. -/
def IsCommented (text : String) : Prop :=
  ∀ line ∈ lines text, IsCommentLine line

instance (text : String) : Decidable (IsCommented text) :=
  inferInstanceAs (Decidable (∀ line ∈ lines text, IsCommentLine line))

/-- Whether a text in a comment leaves no line of code: every line after its first is empty or a
comment. -/
def FitsComment (text : String) : Prop :=
  ∀ line ∈ (lines text).tail, IsCommentLine line

theorem splitOn_append_of_not_mem {separator : Char} {front : List Char}
    (oneLine : separator ∉ front) (rest : List Char) :
    (front ++ rest).splitOn separator = (rest.splitOn separator).modifyHead (front ++ ·) := by
  induction front with
  | nil => cases split : rest.splitOn separator <;> simp [split]
  | cons char front induction =>
    have kept : ¬(char == separator) = true := by
      simpa using (List.ne_of_not_mem_cons oneLine).symm
    rw [List.cons_append, List.splitOn_cons_eq_if_modifyHead, if_neg kept,
      induction (List.not_mem_of_not_mem_cons oneLine), List.modifyHead_modifyHead]
    rfl

theorem fitsComment_of_not_mem {text : String} (oneLine : '\n' ∉ text.toList) :
    FitsComment text := by
  rw [FitsComment, lines, List.splitOn_eq_singleton oneLine]
  exact nofun

/-- A text after the beginning of a comment. -/
theorem isCommented_iff {front text closing : String} (begins : "//".toList <+: front.toList)
    (oneLine : '\n' ∉ front.toList) (closes : IsCommented closing) :
    IsCommented (front ++ text ++ "\n" ++ closing) ↔ FitsComment text := by
  obtain ⟨first, others, split⟩ :=
    List.exists_cons_of_ne_nil (List.splitOn_ne_nil '\n' text.toList)
  have parts : lines (front ++ text ++ "\n" ++ closing) =
      (front.toList ++ first) :: others ++ lines closing := by
    simp only [lines, String.toList_append]
    rw [List.append_assoc _ "\n".toList]
    refine (List.splitOn_append_cons_self ..).trans ?_
    rw [splitOn_append_of_not_mem oneLine, split]
    rfl
  have opening : IsCommentLine (front.toList ++ first) :=
    .inr (begins.trans (List.prefix_append front.toList first))
  have later : (lines text).tail = others := by rw [lines, split, List.tail_cons]
  rw [IsCommented, parts, FitsComment, later, List.cons_append, List.forall_mem_cons,
    List.forall_mem_append]
  exact ⟨fun all => all.2.1, fun fits => ⟨opening, fits, closes⟩⟩

end Text

/-! ## Headers -/

/-- The last line of every header and the empty line after it. -/
def notice : String := "// This file is generated - do not edit manually\n\n"

theorem isCommented_notice : Text.IsCommented notice := by
  decide +kernel

/-- The header of an entity has no line of code exactly if the name of its table brings none. -/
theorem Entity.isCommented_header_iff {types : TypeMap} {table : Table} {entity : Entity}
    (built : ofTable types table = .ok entity) :
    Text.IsCommented entity.header ↔ Text.FitsComment table.qualifiedName := by
  have names := isNamedAfter_of_ofTable built
  have opening : "// Generated by sqltable-codegen from [" =
      "// Generated by sqltable-codegen from " ++ "[" := by decide +kernel
  have closing : "]\n// This file is generated - do not edit manually\n\n" =
      "]" ++ "\n" ++ notice := by decide +kernel
  have header : entity.header =
      "// Generated by sqltable-codegen from " ++ table.qualifiedName ++ "\n" ++ notice := by
    -- Only the literals at the ends differ, so they are exchanged without a search for them.
    calc entity.header
      _ = "// Generated by sqltable-codegen from [" ++ entity.schema ++ "].[" ++ entity.tableName
            ++ "]\n// This file is generated - do not edit manually\n\n" := rfl
      _ = "// Generated by sqltable-codegen from [" ++ table.schema ++ "].[" ++ table.name
            ++ "]\n// This file is generated - do not edit manually\n\n" := by
        rw [names.schema, names.tableName]
      _ = "// Generated by sqltable-codegen from " ++ "[" ++ table.schema ++ "].[" ++ table.name
            ++ ("]" ++ "\n" ++ notice) :=
        congrArg₂ (fun front rest => front ++ table.schema ++ "].[" ++ table.name ++ rest)
          opening closing
      _ = "// Generated by sqltable-codegen from " ++ table.qualifiedName ++ "\n" ++ notice := by
        simp only [Table.qualifiedName, String.append_assoc]
  rw [header]
  exact Text.isCommented_iff (by decide +kernel) (by decide +kernel) isCommented_notice

/-- The header of a context has no line of code exactly if the name of the database brings none. -/
theorem Context.isCommented_header_iff (database : String) :
    Text.IsCommented (header database) ↔ Text.FitsComment database := by
  have closing : "\n// This file is generated - do not edit manually\n\n" = "\n" ++ notice := by
    decide +kernel
  have header : header database =
      "// Generated by sqltable-codegen for database " ++ database ++ "\n" ++ notice := by
    refine (congrArg ("// Generated by sqltable-codegen for database " ++ database ++ ·)
      closing).trans ?_
    simp only [String.append_assoc]
  rw [header]
  exact Text.isCommented_iff (by decide +kernel) (by decide +kernel) isCommented_notice

/-- Generated source is a header and the formatted code. The header has no line of code exactly if
every line of the names in it, after the first, is empty or a comment; so it has none if the names
are on one line. -/
theorem source_header_isCommented_iff (formatter : Formatter) :
    (∀ types table entity, Entity.ofTable types table = .ok entity →
      (entity.source formatter).text =
          entity.header ++ formatter.format (CodeToken.layout entity.codeTokens) ∧
        (Text.IsCommented entity.header ↔ Text.FitsComment table.qualifiedName) ∧
        ('\n' ∉ table.schema.toList → '\n' ∉ table.name.toList →
          Text.IsCommented entity.header)) ∧
      ∀ database entities,
        (Context.source database entities formatter).text =
            Context.header database ++
              formatter.format (CodeToken.layout (Context.codeTokens database entities)) ∧
          (Text.IsCommented (Context.header database) ↔ Text.FitsComment database) ∧
          ('\n' ∉ database.toList → Text.IsCommented (Context.header database)) := by
  constructor
  · intro types table entity built
    have commented := Entity.isCommented_header_iff built
    refine ⟨rfl, commented, fun schemaLine nameLine => commented.mpr ?_⟩
    apply Text.fitsComment_of_not_mem
    simp [Table.qualifiedName, schemaLine, nameLine]
  · intro database entities
    have commented := Context.isCommented_header_iff database
    exact ⟨rfl, commented, fun oneLine => commented.mpr (Text.fitsComment_of_not_mem oneLine)⟩

/-- A table with brackets, quotes and the mark of a comment in its names. -/
theorem source_header_isCommented_iff_brackets :
    let table : Table :=
      { schema := "a]b", name := "//*x\";\r", columns := [{ name := "A", dataType := "INT" }] }
    ∃ entity, Entity.ofTable .builtin table = .ok entity ∧
      (entity.source .missing).text =
        entity.header ++ CodeToken.layout entity.codeTokens ∧
      Text.IsCommented entity.header := by
  intro table
  have isBuilt : (Entity.ofTable .builtin table).toOption.isSome = true := by decide +kernel
  obtain ⟨entity, built⟩ := Grammar.exists_of_isSome isBuilt
  obtain ⟨text, -, commented⟩ := (source_header_isCommented_iff .missing).1 _ _ _ built
  exact ⟨entity, built, text, commented (by decide +kernel) (by decide +kernel)⟩

/-- A script can give a table a name with an item of code on a line of its own, which then stands in
the header. -/
theorem header_not_isCommented :
    let source := "CREATE TABLE [a\npub mod b;\n//] (A INT)"
    let table : Table :=
      { schema := "dbo", name := "a\npub mod b;\n//", sourcePath := "t.sql", sql := source
        columns := [{ name := "A", dataType := "INT", sql := "A INT" }] }
    Accepts source "t.sql" {} table ∧
      ∃ entity, Entity.ofTable .builtin table = .ok entity ∧
        "pub mod b;".toList ∈ Text.lines entity.header ∧ ¬Text.IsCommented entity.header := by
  intro source table
  have accepted : Accepts source "t.sql" {} table := by decide +kernel
  have code : (Entity.ofTable .builtin table).toOption.map
      (fun entity => decide ("pub mod b;".toList ∈ Text.lines entity.header ∧
        ¬Text.IsCommented entity.header)) = some true := by
    decide +kernel
  obtain ⟨entity, built, live⟩ := Grammar.exists_of_toOption_map code
  exact ⟨accepted, entity, built, of_decide_eq_true live⟩

end SqlSchema
