import SqlSchema.Output.Generation
import SqlSchema.Proofs.EntityNames

/-!
The context as it is read back from its code. It declares one module and exports one struct for each
table, in the order of the tables. Modules repeat exactly if names of tables are the same in snake
case, structs exactly if they are the same in Pascal case. A module has the name of the file of its
entity, unless the file begins with a digit or is called like a keyword that cannot be raw.
-/

namespace SqlSchema

open CodeToken

/-! ## Reading code -/

namespace Context

/-- What a reader finds in a list of tokens, wherever it begins. -/
def occurrences {α : Type} (reads : List CodeToken → Option α) (tokens : List CodeToken) :
    List α :=
  tokens.tails.filterMap reads

/-- The module that is declared at the front of tokens. -/
def moduleAt? : List CodeToken → Option String
  | .word "pub" :: .word "mod" :: .word name :: .mark ';' _ :: _ => some name
  | _ => none

/-- The module and the struct of the export at the front of tokens. -/
def exportAt? : List CodeToken → Option (String × String)
  | .word "pub" :: .word "use" :: .word module :: .mark ':' true :: .mark ':' false
      :: .word name :: .mark ';' _ :: _ => some (module, name)
  | _ => none

/-- The modules that code declares. -/
def declaredModules (tokens : List CodeToken) : List String :=
  occurrences moduleAt? tokens

/-- The structs that code exports, each with its module. -/
def exports (tokens : List CodeToken) : List (String × String) :=
  occurrences exportAt? tokens

theorem occurrences_cons {α : Type} (reads : List CodeToken → Option α) (token : CodeToken)
    (rest : List CodeToken) :
    occurrences reads (token :: rest) =
      (reads (token :: rest)).toList ++ occurrences reads rest := by
  rw [occurrences, List.tails_cons, List.filterMap_cons]
  cases reads (token :: rest) <;> rfl

theorem occurrences_flatMap {α β : Type} {reads : List CodeToken → Option α}
    {tokensOf : β → List CodeToken} {found : β → List α}
    (step : ∀ item rest, occurrences reads (tokensOf item ++ rest) =
      found item ++ occurrences reads rest) (items : List β) (rest : List CodeToken) :
    occurrences reads (items.flatMap tokensOf ++ rest) =
      items.flatMap found ++ occurrences reads rest := by
  induction items with
  | nil => rfl
  | cons item items induction =>
    rw [List.flatMap_cons, List.append_assoc, step, induction, List.flatMap_cons,
      List.append_assoc]

theorem occurrences_of_not_mem {α : Type} {reads : List CodeToken → Option α} {token : CodeToken}
    (needs : ∀ tokens, token ∉ tokens → reads tokens = none) {tokens : List CodeToken}
    (absent : token ∉ tokens) : occurrences reads tokens = [] := by
  refine List.filterMap_eq_nil_iff.mpr fun rest member => needs rest fun present => absent ?_
  exact ((List.mem_tails rest tokens).mp member).subset present

theorem moduleAt?_of_not_mem (tokens : List CodeToken) (absent : word "mod" ∉ tokens) :
    moduleAt? tokens = none := by
  unfold moduleAt?
  split
  · exact absurd (by simp) absent
  · rfl

theorem exportAt?_of_not_mem (tokens : List CodeToken) (absent : word "use" ∉ tokens) :
    exportAt? tokens = none := by
  unfold exportAt?
  split
  · exact absurd (by simp) absent
  · rfl

/-! ## Declarations and exports -/

theorem declaredModules_moduleTokens (entity : Entity) (rest : List CodeToken) :
    declaredModules (moduleTokens entity ++ rest) = entity.module :: declaredModules rest := by
  simp [declaredModules, occurrences_cons, moduleTokens, operator, moduleAt?]

theorem declaredModules_exportTokens (entity : Entity) (rest : List CodeToken) :
    declaredModules (exportTokens entity ++ rest) = declaredModules rest := by
  simp [declaredModules, occurrences_cons, exportTokens, operator, moduleAt?]

theorem exports_moduleTokens (entity : Entity) (rest : List CodeToken) :
    exports (moduleTokens entity ++ rest) = exports rest := by
  simp [exports, occurrences_cons, moduleTokens, operator, exportAt?]

theorem exports_exportTokens (entity : Entity) (rest : List CodeToken) :
    exports (exportTokens entity ++ rest) = (entity.module, entity.name) :: exports rest := by
  simp [exports, occurrences_cons, exportTokens, operator, exportAt?]

theorem mem_intercalate {α : Type} {separator : List α} {parts : List (List α)} {item : α}
    (member : item ∈ separator.intercalate parts) :
    item ∈ separator ∨ ∃ part ∈ parts, item ∈ part := by
  induction parts with
  | nil => cases member
  | cons part rest induction =>
    cases rest with
    | nil => exact .inr ⟨part, List.mem_cons_self, by simpa using member⟩
    | cons next others =>
      rw [List.intercalate_cons_cons, List.append_assoc] at member
      rcases List.mem_append.mp member with member | member
      · exact .inr ⟨part, List.mem_cons_self, member⟩
      rcases List.mem_append.mp member with member | member
      · exact .inl member
      · rcases induction member with member | ⟨other, otherMember, member⟩
        · exact .inl member
        · exact .inr ⟨other, List.mem_cons_of_mem part otherMember, member⟩

/-- Names of tables stand in code as literals only. -/
theorem word_not_mem_tables (text : String) (entities : List Entity) :
    word text ∉ commaSeparated (entities.map tableTokens) := by
  intro member
  rcases mem_intercalate member with member | ⟨part, partMember, member⟩
  · simp [operator] at member
  · obtain ⟨entity, _, rfl⟩ := List.mem_map.mp partMember
    simp [tableTokens, parens, group, commaSeparated, operator, quoted, List.intercalate] at member

/-- What a reader finds in the code of a context, if it reads nothing where a word is missing that
the constants do not have either. -/
theorem occurrences_codeTokens {α : Type} {reads : List CodeToken → Option α} {text : String}
    (needs : ∀ tokens, word text ∉ tokens → reads tokens = none)
    (foreign : text ∉ ["pub", "const", "DATABASE_NAME", "str", "doc", "TABLES"])
    (ofModule ofExport : Entity → List α)
    (readModule : ∀ entity rest, occurrences reads (moduleTokens entity ++ rest) =
      ofModule entity ++ occurrences reads rest)
    (readExport : ∀ entity rest, occurrences reads (exportTokens entity ++ rest) =
      ofExport entity ++ occurrences reads rest)
    (database : String) (entities : List Entity) :
    occurrences reads (codeTokens database entities) =
      entities.flatMap ofModule ++ entities.flatMap ofExport := by
  have tables := word_not_mem_tables text entities
  simp only [codeTokens, List.append_assoc]
  rw [occurrences_flatMap readModule, occurrences_flatMap readExport,
    occurrences_of_not_mem needs, List.append_nil]
  simp_all [constant, operator, brackets, parens, group, quoted, commaSeparated]

/-- The code of a context declares the modules of the entities. -/
theorem declaredModules_codeTokens (database : String) (entities : List Entity) :
    declaredModules (codeTokens database entities) = entities.map Entity.module := by
  have found := occurrences_codeTokens moduleAt?_of_not_mem (by simp)
    (fun entity => [entity.module]) (fun _ => []) declaredModules_moduleTokens
    declaredModules_exportTokens database entities
  rw [declaredModules, found, List.map_eq_flatMap]
  simp

/-- The code of a context exports the struct of every entity from its module. -/
theorem exports_codeTokens (database : String) (entities : List Entity) :
    exports (codeTokens database entities) =
      entities.map fun entity => (entity.module, entity.name) := by
  have found := occurrences_codeTokens exportAt?_of_not_mem (by simp) (fun _ => [])
    (fun entity => [(entity.module, entity.name)]) exports_moduleTokens exports_exportTokens
    database entities
  rw [exports, found, List.map_eq_flatMap]
  simp

end Context

/-! ## Entities of tables -/

namespace Generator

theorem forall₂_of_entitiesOf {types : TypeMap} {tables : List Table} {entities : List Entity}
    (built : (entitiesOf types tables).1 = .ok entities) :
    List.Forall₂ (fun table entity => Entity.ofTable types table = .ok entity) tables entities := by
  induction tables generalizing entities with
  | nil =>
    cases built
    exact .nil
  | cons table tables induction =>
    unfold entitiesOf at built
    split at built
    · cases built
    · rename_i entity log first
      obtain ⟨rest, restBuilt, rfl⟩ := Grammar.map_eq_ok.mp built
      exact .cons (congrArg Prod.fst first) (induction restBuilt)

end Generator

/-- The context declares one module for each table and exports one struct from it, in the order of
the tables. No two modules are the same exactly if no two tables have the same name in snake case,
and no two structs are the same exactly if no two tables have the same name in Pascal case. -/
theorem context_names_nodup_iff {types : TypeMap} {tables : List Table} {entities : List Entity}
    (built : (Generator.entitiesOf types tables).1 = .ok entities) (database : String) :
    let code := Context.codeTokens database entities
    List.Forall₂
        (fun table module => Identifier.ofCandidate? (Name.snakeCase table.name) = some module)
        tables (Context.declaredModules code) ∧
      List.Forall₂
        (fun table exported =>
          Identifier.ofCandidate? (Name.snakeCase table.name) = some exported.1 ∧
            Identifier.ofCandidate? (Name.pascalCase table.name) = some exported.2)
        tables (Context.exports code) ∧
      ((Context.declaredModules code).Nodup ↔
        (tables.map fun table => Name.snakeCase table.name).Nodup) ∧
      (((Context.exports code).map Prod.snd).Nodup ↔
        (tables.map fun table => Name.pascalCase table.name).Nodup) := by
  intro code
  have named : List.Forall₂ Entity.IsNamedAfter tables entities :=
    (Generator.forall₂_of_entitiesOf built).imp fun _ _ => Entity.isNamedAfter_of_ofTable
  have modules : Context.declaredModules code = entities.map Entity.module :=
    Context.declaredModules_codeTokens database entities
  have exported : Context.exports code = entities.map fun entity => (entity.module, entity.name) :=
    Context.exports_codeTokens database entities
  have structs : (Context.exports code).map Prod.snd = entities.map Entity.name := by
    rw [exported, List.map_map]
    rfl
  rw [modules, structs, exported]
  refine ⟨?_, ?_, ?_, ?_⟩
  · exact List.forall₂_map_right_iff.mpr (named.imp fun _ _ names => names.module)
  · exact List.forall₂_map_right_iff.mpr (named.imp fun _ _ names => ⟨names.module, names.name⟩)
  · apply Identifier.nodup_iff
    · intro candidate member
      obtain ⟨table, _, rfl⟩ := List.mem_map.mp member
      exact Name.isJoined_snakeCase table.name
    · exact List.forall₂_map_left_iff.mpr
        (List.forall₂_map_right_iff.mpr (named.imp fun _ _ names => names.module))
  · apply Identifier.nodup_iff
    · intro candidate member
      obtain ⟨table, _, rfl⟩ := List.mem_map.mp member
      exact Name.isJoined_pascalCase table.name
    · exact List.forall₂_map_left_iff.mpr
        (List.forall₂_map_right_iff.mpr (named.imp fun _ _ names => names.name))

/-- Modules and structs of tables whose names are keywords, begin with a digit or have several
words. -/
theorem context_names_nodup_iff_four :
    let tables : List Table :=
      [{ schema := "dbo", name := "type" }, { schema := "dbo", name := "self" },
        { schema := "sales", name := "1st" }, { schema := "sales", name := "Order Line" }]
    ∃ entities, (Generator.entitiesOf .builtin tables).1 = .ok entities ∧
      (Context.declaredModules (Context.codeTokens "" entities)).Nodup ∧
      ((Context.exports (Context.codeTokens "" entities)).map Prod.snd).Nodup := by
  intro tables
  have isBuilt : (Generator.entitiesOf .builtin tables).1.toOption.isSome = true := by
    decide +kernel
  obtain ⟨entities, built⟩ := Grammar.exists_of_isSome isBuilt
  obtain ⟨_, _, modules, structs⟩ := context_names_nodup_iff built ""
  exact ⟨entities, built, modules.mpr (by decide +kernel), structs.mpr (by decide +kernel)⟩

/-- Two schemas with a table of the same name: the context declares a module twice and exports a
struct twice. -/
theorem context_repeats_names :
    let tables : List Table :=
      [{ schema := "dbo", name := "Order" }, { schema := "sales", name := "Order" }]
    (tables.map fun table => (table.schema, table.name)).Nodup ∧
      ∃ entities, (Generator.entitiesOf .builtin tables).1 = .ok entities ∧
        Context.declaredModules (Context.codeTokens "" entities) = ["order", "order"] ∧
        Context.exports (Context.codeTokens "" entities) =
          [("order", "Order"), ("order", "Order")] := by
  intro tables
  have modules : (Generator.entitiesOf .builtin tables).1.toOption.map
      (fun entities => Context.declaredModules (Context.codeTokens "" entities)) =
        some ["order", "order"] := by
    decide +kernel
  have exported : (Generator.entitiesOf .builtin tables).1.toOption.map
      (fun entities => Context.exports (Context.codeTokens "" entities)) =
        some [("order", "Order"), ("order", "Order")] := by
    decide +kernel
  obtain ⟨entities, built, modules⟩ := Grammar.exists_of_toOption_map modules
  rw [built] at exported
  exact ⟨by decide +kernel, entities, built, modules, Option.some.inj exported⟩

/-! ## Files of entities -/

/-- The path of the file that a step writes or fails to write. -/
def GenerationStep.target? (step : GenerationStep) : Option String :=
  match step.result with
  | .ok path => some path
  | .error (.unwritable path _) => some path
  | .error (.noEntity _) => none

/-- Noting the path of its file in a table does not change the path. -/
theorem GenerationStep.target?_noted (step : GenerationStep) (table : Table) :
    (match step.result with
      | .ok path => { step with table := { table with outputPath := some path } }
      | .error _ => step).target? = step.target? := by
  cases written : step.result <;> simp [target?, written]

theorem Generator.target?_writeStep (table : Table) (path text : String) (log : List LogEntry)
    (files : FileTree) : (writeStep table path text log files).target? = some path := by
  unfold writeStep
  split <;> rfl

/-- The module's name stands for the entity in the path of its file, and names the file in a
directory. -/
theorem Generator.target?_entityStep {generator : Generator} {table : Table} {entity : Entity}
    (built : Entity.ofTable generator.types table = .ok entity) (files : FileTree) :
    (generator.entityStep files table).target? =
      some (outputPath files (generator.values table entity.moduleName) generator.template
        entity.moduleName "rs") := by
  unfold entityStep
  split
  · rename_i cause log failed
    rw [Entity.ofTable, failed] at built
    cases built
  · rename_i found log succeeded
    rw [Entity.ofTable, succeeded] at built
    cases built
    exact (GenerationStep.target?_noted _ table).trans (target?_writeStep ..)

/-- Every table has a module in the context and a file stem, which stands for the entity in the path
of its file and names the file in a directory. Apart from the mark of a raw identifier the module is
called like the file, exactly if the stem does not begin with a digit and is no keyword that cannot
be raw. -/
theorem unraw_module_eq_fileStem_iff {generator : Generator} {tables : List Table}
    {entities : List Entity}
    (built : (Generator.entitiesOf generator.types tables).1 = .ok entities) :
    List.Forall₂
      (fun table module =>
        let stem := Name.snakeCase table.name
        (∀ files, (generator.entityStep files table).target? =
          some (Generator.outputPath files (generator.values table stem) generator.template
            stem "rs")) ∧
        (Identifier.unraw module = stem ↔
          stem.toList.head?.any Char.isDigit = false ∧ stem ∉ Identifier.pathKeywords))
      tables (Context.declaredModules (Context.codeTokens generator.database entities)) := by
  rw [Context.declaredModules_codeTokens]
  refine List.forall₂_map_right_iff.mpr ?_
  refine (Generator.forall₂_of_entitiesOf built).imp fun table entity entityBuilt => ?_
  have names := Entity.isNamedAfter_of_ofTable entityBuilt
  constructor
  · intro files
    rw [Generator.target?_entityStep entityBuilt, names.moduleName]
  · exact Identifier.unraw_eq_iff (Name.isJoined_snakeCase table.name) names.module

/-- The module of a keyword is called like its file, that of a name with a digit at its front is
not. -/
theorem unraw_module_eq_fileStem_iff_two :
    let generator : Generator :=
      { database := "Shop", template := "\x7bSchema\x7d/\x7bEntity\x7d.rs", types := .builtin
        formatter := .missing }
    let keyword : Table := { schema := "dbo", name := "Type" }
    let digit : Table := { schema := "dbo", name := "2nd" }
    ∃ entities, (Generator.entitiesOf generator.types [keyword, digit]).1 = .ok entities ∧
      Context.declaredModules (Context.codeTokens "Shop" entities) = ["r#type", "_2nd"] ∧
      (generator.entityStep .empty keyword).target? = some "dbo/type.rs" ∧
      Identifier.unraw "r#type" = "type" ∧
      (generator.entityStep .empty digit).target? = some "dbo/2nd.rs" ∧
      Identifier.unraw "_2nd" ≠ "2nd" := by
  intro generator keyword digit
  have modules : (Generator.entitiesOf generator.types [keyword, digit]).1.toOption.map
      (fun entities => Context.declaredModules (Context.codeTokens "Shop" entities)) =
        some ["r#type", "_2nd"] := by
    decide +kernel
  obtain ⟨entities, built, modules⟩ := Grammar.exists_of_toOption_map modules
  have stems := unraw_module_eq_fileStem_iff built
  have keywordStem : Name.snakeCase keyword.name = "type" := by decide +kernel
  have digitStem : Name.snakeCase digit.name = "2nd" := by decide +kernel
  refine ⟨entities, built, modules, ?_⟩
  rw [modules] at stems
  obtain ⟨⟨keywordFile, keywordName⟩, ⟨digitFile, digitName⟩, -⟩ := by
    simpa only [List.forall₂_cons] using stems
  rw [keywordStem] at keywordFile keywordName
  rw [digitStem] at digitFile digitName
  refine ⟨(keywordFile .empty).trans (by decide +kernel), keywordName.mpr (by decide +kernel),
    (digitFile .empty).trans (by decide +kernel), fun same => ?_⟩
  exact absurd (digitName.mp same).1 (by decide +kernel)

/-- A name with a digit at its front and a keyword that cannot be raw: in a directory neither file is
called like its module. -/
theorem fileStem_ne_unraw_module :
    let generator : Generator :=
      { database := "", template := ".", types := .builtin, formatter := .missing }
    let tables : List Table :=
      [{ schema := "dbo", name := "1st" }, { schema := "dbo", name := "Self" }]
    ∃ entities, (Generator.entitiesOf generator.types tables).1 = .ok entities ∧
      List.Forall₂
        (fun table module => (generator.entityStep .empty table).target? ≠
          some ("./" ++ Identifier.unraw module ++ ".rs"))
        tables (Context.declaredModules (Context.codeTokens "" entities)) := by
  intro generator tables
  have modules : (Generator.entitiesOf generator.types tables).1.toOption.map
      (fun entities => Context.declaredModules (Context.codeTokens "" entities)) =
        some ["_1st", "self_"] := by
    decide +kernel
  obtain ⟨entities, built, modules⟩ := Grammar.exists_of_toOption_map modules
  refine ⟨entities, built, ?_⟩
  rw [modules]
  exact .cons (by decide +kernel) (.cons (by decide +kernel) .nil)

end SqlSchema
