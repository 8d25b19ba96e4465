/-!
Command-line arguments. Options that every action shares may stand before or after the action; where
one stands on both sides, the later one counts.
-/

namespace SqlSchema.CommandLine

/-! ## Options -/

/-- What the program is asked to do. -/
inductive Action where
  | entity
  | context
  | json
  | check
  deriving DecidableEq, Repr

/-- Options without a value. -/
inductive Switch where
  | verbose
  | quiet
  | diagnostic
  deriving DecidableEq, Repr

/-- Options with a value. -/
inductive Field where
  | defaultSchema
  | config
  | settings
  | files
  | database
  | outputPath
  deriving DecidableEq, Repr

namespace Action

def all : List Action :=
  [entity, context, json, check]

def name : Action → String
  | entity => "entity"
  | context => "context"
  | json => "json"
  | check => "check"

def ofName? (text : String) : Option Action :=
  all.find? fun action => action.name == text

end Action

namespace Switch

def all : List Switch :=
  [verbose, quiet, diagnostic]

def name : Switch → String
  | verbose => "--verbose"
  | quiet => "--quiet"
  | diagnostic => "--diagnostic"

def letter? : Switch → Option Char
  | verbose => some 'v'
  | quiet => some 'q'
  | diagnostic => none

end Switch

namespace Field

def all : List Field :=
  [defaultSchema, config, settings, files, database, outputPath]

def name : Field → String
  | defaultSchema => "--default-schema"
  | config => "--config"
  | settings => "--settings"
  | files => "--files"
  | database => "--database"
  | outputPath => "--output-file-path"

/-- Whether the option may stand before (`none`) or after an action. -/
def isAllowed (field : Field) (action : Option Action) : Bool :=
  match field, action with
  | defaultSchema, _ | config, _ | settings, _ => true
  | files, some _ => true
  | database, some action | outputPath, some action => action != .check
  | _, none => false

/-- Whether the value is a path, which may not be empty. -/
def isPath : Field → Bool
  | config | settings | files => true
  | _ => false

end Field

/-- Why arguments are refused. -/
inductive UsageError where
  | unknownArgument (text : String)
  | missingValue (field : Field)
  | unwantedValue (switch : Switch)
  | repeated (name : String)
  | required (name : String)
  deriving DecidableEq, Repr

def UsageError.message : UsageError → String
  | unknownArgument text => "unexpected argument '" ++ text ++ "'"
  | missingValue field => "'" ++ field.name ++ "' needs a value"
  | unwantedValue switch => "'" ++ switch.name ++ "' takes no value"
  | repeated name => "'" ++ name ++ "' may be given only once"
  | required name => "missing " ++ name

/-! ## Reading -/

/-- The options on one side of the action. -/
structure Given where
  switches : List Switch := []
  /-- The values in the order in which they stand. -/
  values : List (Field × String) := []
  deriving DecidableEq, Repr

/-- Requests that are answered at once. -/
inductive Information where
  | version
  | help
  deriving DecidableEq, Repr

/-- How far the arguments have been read. -/
structure Progress where
  before : Given := {}
  action : Option Action := none
  after : Given := {}
  /-- An option that waits for values, and whether it has one. -/
  waiting : Option (Field × Bool) := none
  /-- Whether `--` has ended the options. -/
  isEnded : Bool := false
  /-- The words after `help`, if that has been given. -/
  helpWords : Option (List String) := none
  information : Option Information := none
  deriving DecidableEq, Repr

namespace Progress

/-- The options on the side that is being read. -/
def given (progress : Progress) : Given :=
  if progress.action.isNone then progress.before else progress.after

def withGiven (progress : Progress) (given : Given) : Progress :=
  if progress.action.isNone then { progress with before := given }
  else { progress with after := given }

/-- Ends the values of the option that waits. -/
def settle (progress : Progress) : Except UsageError Progress :=
  match progress.waiting with
  | some (field, false) => .error (.missingValue field)
  | _ => .ok { progress with waiting := none }

def addSwitch (progress : Progress) (switch : Switch) : Except UsageError Progress :=
  let given := progress.given
  if given.switches.contains switch then .error (.repeated switch.name)
  else .ok (progress.withGiven { given with switches := given.switches ++ [switch] })

/-- The values of a text for an option: the parts between commas for the list of files. -/
def splitValue (field : Field) (text : String) : List String :=
  if field = .files then (text.toList.splitOn ',').map String.ofList else [text]

def addValue (progress : Progress) (field : Field) (text : String) : Except UsageError Progress :=
  let values := splitValue field text
  if field.isPath && values.any String.isEmpty then .error (.missingValue field)
  else
    let given := progress.given
    .ok (progress.withGiven
      { given with values := given.values ++ values.map fun value => (field, value) })

/-- Begins an option with a value; only the list of files may be given again. -/
def beginField (progress : Progress) (field : Field) : Except UsageError Progress :=
  if field != .files && progress.given.values.any fun (known, _) => known == field then
    .error (.repeated field.name)
  else .ok { progress with waiting := some (field, false) }

/-! ## Kinds of arguments -/

/-- Reads letters of switches, one after the other. -/
def letters (progress : Progress) : List Char → Except UsageError Progress
  | [] => .ok progress
  | letter :: rest =>
    match Switch.all.find? fun switch => switch.letter? == some letter with
    | some switch => do letters (← progress.addSwitch switch) rest
    | none =>
      if letter = 'h' then .ok { progress with information := some .help }
      else if letter = 'V' && progress.action.isNone then
        .ok { progress with information := some .version }
      else .error (.unknownArgument (String.ofList ['-', letter]))

/-- Reads an option by its long name, with the value after `=` if there is one. -/
def longOption (progress : Progress) (text : String) : Except UsageError Progress :=
  let chars := text.toList
  let name := String.ofList (chars.takeWhile (· != '='))
  let value : Option String :=
    match chars.dropWhile (· != '=') with
    | '=' :: value => some (String.ofList value)
    | _ => none
  match Switch.all.find? fun switch => switch.name == name with
  | some switch =>
    if value.isSome then .error (.unwantedValue switch) else progress.addSwitch switch
  | none =>
    match Field.all.find? fun field => field.name == name && field.isAllowed progress.action with
    | some field => do
      let started ← progress.beginField field
      match value with
      | some value => return { (← started.addValue field value) with waiting := none }
      | none => return started
    | none =>
      if name = "--help" && value.isNone then .ok { progress with information := some .help }
      else if name = "--version" && value.isNone && progress.action.isNone then
        .ok { progress with information := some .version }
      else .error (.unknownArgument text)

/-- Reads a word: a value of the option that waits, or the action. -/
def plainWord (progress : Progress) (text : String) : Except UsageError Progress :=
  match progress.waiting with
  | some (field, _) => do
    let progress ← progress.addValue field text
    return { progress with waiting := if field = .files then some (field, true) else none }
  | none =>
    if progress.action.isSome || progress.isEnded then .error (.unknownArgument text)
    else
      match Action.ofName? text with
      | some action => .ok { progress with action := some action }
      | none =>
        if text = "help" then .ok { progress with helpWords := some [] }
        else .error (.unknownArgument text)

/-- Reads a word after `help`: at most one, the name of an action or `help` itself. -/
def helpWord (progress : Progress) (words : List String) (text : String) :
    Except UsageError Progress :=
  if words.isEmpty && ((Action.ofName? text).isSome || text == "help") then
    .ok { progress with helpWords := some (words ++ [text]) }
  else .error (.unknownArgument text)

/-- Reads one argument. -/
def step (progress : Progress) (text : String) : Except UsageError Progress :=
  if progress.information.isSome then .ok progress
  else
    match progress.helpWords with
    | some words => progress.helpWord words text
    | none =>
      if progress.isEnded then progress.plainWord text
      else
        match text.toList with
        | ['-', '-'] => do return { (← progress.settle) with isEnded := true }
        | '-' :: '-' :: _ => do (← progress.settle).longOption text
        | '-' :: first :: rest => do (← progress.settle).letters (first :: rest)
        | _ => progress.plainWord text

end Progress

/-! ## Requests -/

/-- What a run of the program works on. -/
structure Invocation where
  action : Action
  files : List String
  database : String
  outputPath : String
  isVerbose : Bool
  isQuiet : Bool
  isDiagnostic : Bool
  defaultSchema : Option String
  config : Option String
  settings : Option String
  deriving DecidableEq, Repr

/-- What arguments ask for. -/
inductive Request where
  | information (information : Information)
  | run (invocation : Invocation)
  deriving DecidableEq, Repr

/-- The values of an option, those after the action if there are any. -/
def Progress.values (progress : Progress) (field : Field) : List String :=
  let side (given : Given) : List String :=
    given.values.filterMap fun (known, value) => if known = field then some value else none
  if (side progress.after).isEmpty then side progress.before else side progress.after

/-- The request of arguments that have been read to their end. -/
def Progress.request (progress : Progress) : Except UsageError Request :=
  if let some information := progress.information then .ok (.information information)
  else if progress.helpWords.isSome then .ok (.information .help)
  else do
    let progress ← progress.settle
    match progress.action with
    | none => .error (.required "action")
    | some action =>
      let value? (field : Field) : Option String := (progress.values field).head?
      let has (switch : Switch) : Bool :=
        (progress.before.switches ++ progress.after.switches).contains switch
      let files := progress.values .files
      if files.isEmpty then .error (.required Field.files.name)
      else if action != .check && (value? .outputPath).isNone then
        .error (.required Field.outputPath.name)
      else
        return .run
          { action, files
            database := (value? .database).getD ""
            outputPath := (value? .outputPath).getD ""
            isVerbose := has .verbose
            isQuiet := has .quiet
            isDiagnostic := has .diagnostic
            defaultSchema := value? .defaultSchema
            config := value? .config
            settings := value? .settings }

/-- The request that arguments make. -/
def readArguments (arguments : List String) : Except UsageError Request := do
  (← arguments.foldlM Progress.step {}).request

example : (readArguments ["-v", "check", "--files", "a,b", "c", "--config=x"]).toOption =
    some (.run
      { action := .check, files := ["a", "b", "c"], database := "", outputPath := ""
        isVerbose := true, isQuiet := false, isDiagnostic := false, defaultSchema := none
        config := some "x", settings := none }) := by
  decide +kernel

example : [["check"], ["check", "--files"], ["json", "--files", "a"], ["-v", "-v", "--version"],
    ["check", "--files=a", "b"]].map (fun arguments => (readArguments arguments).toOption) =
      [none, none, none, none, none] := by
  decide +kernel

example : (readArguments ["--version", "--bogus"]).toOption = some (.information .version) := by
  decide +kernel

end SqlSchema.CommandLine
