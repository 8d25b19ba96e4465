/-!
Identifiers of generated code. Every candidate made of ASCII letters, digits and underscores becomes
a legal identifier: a digit at the front gets an underscore before it, and a keyword is written as a
raw identifier or, where the language forbids that, gets an underscore after it.
-/

namespace SqlSchema.Identifier

/-- Keywords that are no identifier even when written raw. -/
def pathKeywords : List String :=
  ["crate", "self", "Self", "super"]

/-- Keywords that a type may not use as a name. -/
def keywords : List String :=
  pathKeywords ++
    ["abstract", "as", "async", "await", "become", "box", "break", "const", "continue", "do",
      "dyn", "else", "enum", "extern", "false", "final", "fn", "for", "if", "impl", "in", "let",
      "loop", "macro", "match", "mod", "move", "mut", "override", "priv", "pub", "ref", "return",
      "static", "struct", "trait", "true", "try", "type", "typeof", "unsafe", "unsized", "use",
      "virtual", "where", "while", "yield"]

/-- Words that a generated identifier avoids: the keywords and one that a later edition reserves. -/
def reserved : List String :=
  "gen" :: keywords

/-- The identifier for a candidate, if the candidate is not empty. -/
def ofCandidate? (candidate : String) : Option String :=
  if candidate.isEmpty then none
  else
    let word := if candidate.toList.head?.any Char.isDigit then "_" ++ candidate else candidate
    if pathKeywords.contains word then some (word ++ "_")
    else if reserved.contains word then some ("r#" ++ word)
    else some word

example : ["type", "self", "1st", "total", ""].map ofCandidate? =
    [some "r#type", some "self_", some "_1st", some "total", none] := by
  decide +kernel

end SqlSchema.Identifier
