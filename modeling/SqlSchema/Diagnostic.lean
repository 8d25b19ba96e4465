import SqlSchema.Node

/-!
What is noticed while a table is extracted. Nothing of it is fatal: unknown syntax gives a warning,
and with tracing on every table and column gives a debug line. The same notices go to the log.
-/

namespace SqlSchema

/-! ## Log -/

inductive LogLevel where
  | error
  | warn
  | info
  | debug
  deriving DecidableEq, Repr

/-- How much a level says: a log that shows a level shows all lower ranks too. -/
def LogLevel.rank : LogLevel → Nat
  | error => 0
  | warn => 1
  | info => 2
  | debug => 3

/-- A line of the log. -/
structure LogEntry where
  level : LogLevel
  message : String
  deriving DecidableEq, Repr

/-! ## Diagnostics -/

inductive Severity where
  | debug
  | warning
  deriving DecidableEq, Repr

/-- One notice. A trace has neither a node type nor a text. -/
structure Diagnostic where
  severity : Severity
  nodeType : String
  sql : String
  /-- The file that the statement comes from. -/
  path : String
  message : String
  deriving DecidableEq, Repr

namespace Diagnostic

def isWarning (diagnostic : Diagnostic) : Bool :=
  diagnostic.severity == .warning

def logEntry (diagnostic : Diagnostic) : LogEntry :=
  match diagnostic.severity with
  | .debug => ⟨.debug, diagnostic.message⟩
  | .warning => ⟨.warn, diagnostic.message⟩

end Diagnostic

/-- The notices about one file, in the order in which they were made. -/
structure Diagnostics where
  path : String
  /-- Whether traces are kept. -/
  isTracing : Bool
  entries : List Diagnostic := []

namespace Diagnostics

/-- Reports syntax that no rule covers. -/
def unknownSyntax (diagnostics : Diagnostics) (nodeType sql : String) : Diagnostics :=
  let message := "UNKNOWN " ++ nodeType ++ " " ++ sql ++ " in " ++ diagnostics.path
  { diagnostics with
    entries := diagnostics.entries ++ [⟨.warning, nodeType, sql, diagnostics.path, message⟩] }

/-- Reports a node that no rule covers. -/
def unknown (diagnostics : Diagnostics) (node : Node) : Diagnostics :=
  diagnostics.unknownSyntax node.typeName node.sql

/-- Records what has been extracted, if tracing is on. -/
def trace (diagnostics : Diagnostics) (message : String) : Diagnostics :=
  if diagnostics.isTracing then
    { diagnostics with
      entries := diagnostics.entries ++ [⟨.debug, "", "", diagnostics.path, message⟩] }
  else diagnostics

end Diagnostics

end SqlSchema
