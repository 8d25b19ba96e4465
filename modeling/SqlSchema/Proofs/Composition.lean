import SqlSchema.Proofs.Balance
import SqlSchema.Proofs.Heading
import SqlSchema.Proofs.Spelling
import SqlSchema.Proofs.Suffix

/-!
Tables are read element by element: what one element is read as does not depend on the elements
beside it. Elements that are accepted each in a table of its own are accepted together, and the
children of the table are theirs, one after the other.
-/

namespace SqlSchema

namespace Grammar

open Token (headed moved surplus)

variable {tokens rest : List Token} {children : List Node}

/-! ## Bodies -/

/-- Whether the tokens are elements of a table, read as `children`, and the `)` after them. -/
def IsBody (tokens : List Token) (children : List Node) : Prop :=
  ∃ front close, tokens = front ++ [close] ∧ close.kind = .rightParen ∧
    tableElements tokens = .ok (children, [close])

namespace IsBody

/-- A body stays one with its tokens at other places. -/
theorem map (body : IsBody tokens children) {relocate : Token → Token}
    (relocates : ∀ token, ∃ start line, relocate token = token.relocated start line) :
    IsBody (tokens.map relocate) children := by
  obtain ⟨front, close, rfl, kind, found⟩ := body
  obtain ⟨start, line, equal⟩ := relocates close
  have newKind : (relocate close).kind = .rightParen := by
    rw [equal, Token.kind_relocated, kind]
  let exchange : Exchange :=
    ⟨front ++ [close], close, [], .inr kind, relocate close, [], .inr newKind⟩
  have parallel : Parallel exchange (front ++ [close]) (front.map relocate ++ [relocate close]) :=
    Parallel.of_map relocates (List.suffix_refl _)
  have same : exchange.newStop.kind = exchange.stop.kind := newKind.trans kind.symm
  obtain ⟨rest', found', parallelRest⟩ := parallel.of_tableElements same found (Nat.zero_lt_one)
  rw [parallelRest.eq_of_stop] at found'
  rw [List.map_append]
  exact ⟨front.map relocate, relocate close, rfl, newKind, found'⟩

theorem moved (body : IsBody tokens children) (offset lines : Nat) :
    IsBody (tokens.map (Token.moved offset lines)) children :=
  body.map fun token => ⟨token.start + offset, token.line + lines, rfl⟩

theorem of_moved {offset lines : Nat}
    (body : IsBody (tokens.map (Token.moved offset lines)) children) : IsBody tokens children := by
  let relocate (token : Token) : Token :=
    token.relocated (token.start - offset) (token.line - lines)
  have back : IsBody ((tokens.map (Token.moved offset lines)).map relocate) children :=
    body.map fun _ => ⟨_, _, rfl⟩
  have inverse : relocate ∘ Token.moved offset lines = id := by
    funext token
    simp [relocate, Token.moved, Token.relocated]
  rwa [List.map_map, inverse, List.map_id] at back

theorem headed (body : IsBody tokens children) (lead : String) (opens : Bool) :
    IsBody (Token.headed lead opens tokens) children := by
  obtain ⟨front, close, rfl, kind, found⟩ := body
  have found' : tableElements (Token.headed lead opens (front ++ [close])) =
      .ok (children, [close]) := tableElements_headed found
  cases front with
  | nil =>
    have notParen := nextIs_of_tableElements found
    simp [nextIs, kind] at notParen
  | cons first front => exact ⟨_ :: front, close, rfl, kind, found'⟩

theorem of_headed {lead : String} {opens : Bool}
    (body : IsBody (Token.headed lead opens tokens) children) : IsBody tokens children := by
  cases tokens with
  | nil => exact body
  | cons first rest => exact body.headed first.lead first.opensLine

/-- An element keeps its children where others come after it. -/
theorem append {front : List Token} {close comma : Token} {others : List Node}
    (body : IsBody (front ++ [close]) children)
    (noComma : ∀ last ∈ front.getLast?, last.kind ≠ .comma) (isComma : comma.kind = .comma)
    (more : IsBody tokens others) : IsBody (front ++ comma :: tokens) (children ++ others) := by
  obtain ⟨front', close', whole, kind, found⟩ := body
  obtain ⟨rfl, equal⟩ := List.append_inj' whole rfl
  cases equal
  obtain ⟨back, last, rfl, lastKind, foundMore⟩ := more
  let exchange : Exchange :=
    ⟨front ++ [close], close, [], .inr kind, comma, back ++ [last], .inl isComma⟩
  have parallel : Parallel exchange (front ++ [close])
      (front.map id ++ comma :: (back ++ [last])) :=
    Parallel.of_map (fun token => ⟨token.start, token.line, rfl⟩) (List.suffix_refl _)
  rw [List.map_id] at parallel
  have noCommaEnd : ∀ token : Token, token.kind = .comma →
      ¬token :: [close] <:+ front ++ [close] := by
    rintro token tokenKind ⟨passed, whole⟩
    rw [List.append_cons] at whole
    obtain ⟨rfl, -⟩ := List.append_inj' whole rfl
    exact noComma token (by simp) tokenKind
  have goesOn : nextIs .comma (comma :: (back ++ [last])) = true := by simp [nextIs, isComma]
  have further : furtherElements (comma :: (back ++ [last])) = .ok (others, [last]) := by
    rw [furtherElements, if_pos goesOn, List.tail_cons, nextIs_of_tableElements foundMore,
      if_neg Bool.false_ne_true, foundMore]
  have read := Parallel.tableElements_eq_append parallel kind noCommaEnd found further
  exact ⟨front ++ comma :: back, last, by simp, lastKind, read⟩

end IsBody

/-! ## Statements -/

/-- The lexemes of `CREATE TABLE T (`. -/
def tableOpening : List (TokenKind × String) :=
  [(.word, "CREATE"), (.word, "TABLE"), (.word, "T"), (.leftParen, "(")]

section

variable {defaultSchema : String} {opening : List Token}
  (isOpening : opening.map Token.lexeme = tableOpening)
include isOpening

theorem exists_opening : ∃ create table label paren, opening = [create, table, label, paren] ∧
    create.lexeme = (.word, "CREATE") ∧ table.lexeme = (.word, "TABLE") ∧
      label.lexeme = (.word, "T") ∧ paren.lexeme = (.leftParen, "(") := by
  obtain ⟨create, _, rfl, isCreate, isOpening⟩ := List.map_eq_cons_iff.mp isOpening
  obtain ⟨table, _, rfl, isTable, isOpening⟩ := List.map_eq_cons_iff.mp isOpening
  obtain ⟨label, _, rfl, isLabel, isOpening⟩ := List.map_eq_cons_iff.mp isOpening
  obtain ⟨paren, _, rfl, isParen, isOpening⟩ := List.map_eq_cons_iff.mp isOpening
  rw [List.map_eq_nil_iff.mp isOpening]
  exact ⟨create, table, label, paren, rfl, isCreate, isTable, isLabel, isParen⟩

theorem isTable_opening (body : List Token) :
    nextAreWords ["CREATE", "TABLE"] (opening ++ body) = true := by
  obtain ⟨create, table, label, paren, rfl, isCreate, isTable, -, -⟩ := exists_opening isOpening
  change (create.isWord "CREATE" && (table.isWord "TABLE" && true)) = true
  rw [Token.isWord_self_of_lexeme isCreate, Token.isWord_self_of_lexeme isTable]
  rfl

theorem createTable_opening (body : List Token) : createTable defaultSchema (opening ++ body) = (do
    let (definition, rest) ← tableDefinition (opening.drop 3 ++ body)
    let rest ← tableOptions rest
    .ok ({
      schema := defaultSchema
      name := "T"
      sql := Token.textTo (opening ++ body) rest
      definition }, rest)) := by
  obtain ⟨create, table, label, paren, rfl, -, -, isLabel, isParen⟩ := exists_opening isOpening
  have named : name (label :: paren :: body) = .ok ("T", paren :: body) := by
    rw [name, if_pos (Token.isName_of_lexeme_word isLabel), Token.name_of_lexeme_word isLabel]
  have noParts : tableNameParts (paren :: body) = .ok ([], paren :: body) := by
    rw [tableNameParts.eq_def]
    dsimp only
    rw [if_neg (by rw [Token.kind_of_lexeme isParen]; decide)]
  have read : tableName defaultSchema (label :: paren :: body) =
      .ok ((defaultSchema, "T"), paren :: body) := by
    refine bind_eq_ok.mpr ⟨_, named, bind_eq_ok.mpr ⟨_, noParts, ?_⟩⟩
    rfl
  change (tableName defaultSchema (label :: paren :: body) >>= _) = _
  rw [read]
  rfl

theorem exists_of_createTable {body : List Token} {statement : CreateTable}
    (found : createTable defaultSchema (opening ++ body) = .ok (statement, rest)) :
    ∃ after afterParen, tableElements body = .ok (statement.definition.children, after) ∧
      expectRightParen after = .ok afterParen ∧ tableOptions afterParen = .ok rest := by
  rw [createTable_opening isOpening] at found
  obtain ⟨⟨definition, afterParen⟩, definitionFound, found⟩ := bind_eq_ok.mp found
  obtain ⟨afterOptions, optionsFound, equal⟩ := bind_eq_ok.mp found
  cases equal
  obtain ⟨create, table, label, paren, rfl, -, -, -, isParen⟩ := exists_opening isOpening
  have isGroup : nextIs .leftParen (paren :: body) = true :=
    nextIs_of_kind (Token.kind_of_lexeme isParen)
  change tableDefinition (paren :: body) = _ at definitionFound
  rw [tableDefinition, if_pos isGroup] at definitionFound
  obtain ⟨⟨children, after⟩, elementsFound, definitionFound⟩ := bind_eq_ok.mp definitionFound
  obtain ⟨afterParen, closed, equal⟩ := bind_eq_ok.mp definitionFound
  cases equal
  exact ⟨after, afterParen, elementsFound, closed, optionsFound⟩

theorem exists_createTable {body : List Token} (isBody : IsBody body children) :
    ∃ statement, createTable defaultSchema (opening ++ body) = .ok (statement, []) ∧
      statement.definition.children = children := by
  obtain ⟨front, close, -, kind, found⟩ := isBody
  rw [createTable_opening isOpening]
  obtain ⟨create, table, label, paren, rfl, -, -, -, isParen⟩ := exists_opening isOpening
  have definition := tableDefinition_of_elements (Token.kind_of_lexeme isParen) kind found
  exact ⟨_, bind_eq_ok.mpr ⟨_, definition, bind_eq_ok.mpr ⟨_, tableOptions_nil, rfl⟩⟩, rfl⟩

/-- A statement that is accepted alone is read up to the last `)`, if what stands before that is
balanced. -/
theorem isBody_of_statements {body element : List Token} {statement : CreateTable}
    (read : statements defaultSchema (opening ++ body) = .ok [.createTable statement])
    (kinds : body.map Token.kind = element.map Token.kind ++ [.rightParen])
    (balanced : Token.IsBalanced element) : IsBody body statement.definition.children := by
  obtain ⟨front, back, rfl, same, closes⟩ := List.map_eq_append_iff.mp kinds
  obtain ⟨close, _, rfl, kind, nothing⟩ := List.map_eq_cons_iff.mp closes
  obtain rfl := List.map_eq_nil_iff.mp nothing
  rw [statements_of_createTable (isTable_opening isOpening _)] at read
  obtain ⟨⟨first, afterOptions⟩, firstRead, read⟩ := bind_eq_ok.mp read
  obtain ⟨others, othersRead, equal⟩ := map_eq_ok.mp read
  cases equal
  obtain ⟨after, afterParen, found, closed, options⟩ := exists_of_createTable isOpening firstRead
  obtain ⟨token, rfl, isParen⟩ := exists_of_expectRightParen closed
  have isSuffix := isSuffix_of_tableElements found
  -- Options and a script without statements open as many groups as they close, so the `)` that was
  -- read is the one at the end.
  have nothing : afterParen = [] := by
    refine (balanced.of_kinds same).eq_nil_of_suffix kind isParen isSuffix ?_
    rw [← surplus_of_tableOptions options]
    exact surplus_of_statements_eq_nil othersRead
  subst nothing
  obtain ⟨passed, whole⟩ := isSuffix
  obtain ⟨rfl, equal⟩ := List.append_inj' whole rfl
  cases equal
  exact ⟨passed, close, rfl, kind, found⟩

end

/-! ## Texts -/

/-- What stands between the parentheses of a table with these elements, and the second of them. -/
def bodyText (elements : List String) : String :=
  "\n,\n".intercalate elements ++ "\n)"

/-- The script of one table with these elements. -/
def tableScript (elements : List String) : String :=
  "CREATE TABLE T (" ++ bodyText elements

/-- Whether a balanced text that does not end with a comma is read as `children` where it is alone
in the table. -/
structure IsElementText (defaultSchema text : String) (children : List Node) : Prop where
  scans : ∃ tokens, Token.scan text = .ok tokens ∧ Token.IsBalanced tokens ∧
    ∀ last ∈ tokens.getLast?, last.kind ≠ .comma
  isAccepted : ∃ statement, readScript (tableScript [text]) defaultSchema =
    .ok [.createTable statement] ∧ statement.definition.children = children

/-- The children of a table with one element, if the script has no other statement. -/
def elementChildren? (defaultSchema text : String) : Option (List Node) :=
  match readScript (tableScript [text]) defaultSchema with
  | .ok [.createTable statement] => some statement.definition.children
  | _ => none

theorem elementChildren?_eq_some {defaultSchema text : String} :
    elementChildren? defaultSchema text = some children ↔
      ∃ statement, readScript (tableScript [text]) defaultSchema = .ok [.createTable statement] ∧
        statement.definition.children = children := by
  unfold elementChildren?
  split
  · rename_i statement read
    simp [read]
  · rename_i other
    simp only [reduceCtorEq, false_iff]
    rintro ⟨statement, read, -⟩
    exact other statement read

instance (defaultSchema text : String) :
    Decidable (∃ children, IsElementText defaultSchema text children) :=
  decidable_of_iff
    ((Token.scan text).toOption.any (fun tokens =>
        Token.IsBalanced tokens ∧ ∀ last ∈ tokens.getLast?, last.kind ≠ .comma) = true ∧
      (elementChildren? defaultSchema text).isSome = true) <| by
    simp only [Option.any_eq_true, toOption_eq_some, decide_eq_true_eq, Option.isSome_iff_exists,
      elementChildren?_eq_some]
    constructor
    · rintro ⟨scans, children, accepted⟩
      exact ⟨children, scans, accepted⟩
    · rintro ⟨children, element⟩
      exact ⟨element.scans, children, element.isAccepted⟩

theorem toList_bodyText_singleton (text : String) :
    (bodyText [text]).toList = text.toList ++ '\n' :: [')'] := by
  rw [bodyText, String.intercalate_singleton, String.toList_append]
  rfl

theorem toList_bodyText_cons (text next : String) (others : List String) :
    (bodyText (text :: next :: others)).toList =
      text.toList ++ '\n' :: ',' :: '\n' :: (bodyText (next :: others)).toList := by
  simp only [bodyText, String.intercalate_cons_cons, String.toList_append, List.append_assoc]
  rfl

/-- The opening of a table before its body. -/
theorem scanFrom_tableScript (elements : List String) :
    ∃ opening lead opens offset lines, opening.map Token.lexeme = tableOpening ∧
      Token.scanFrom .origin 0 (tableScript elements).toList =
        (opening ++ headed lead opens
            ((Token.scanFrom .origin 0 (bodyText elements).toList).1.map (moved offset lines)),
          (Token.scanFrom .origin 0 (bodyText elements).toList).2.map
            (SyntaxError.moved lines)) := by
  have word {text : String} (isWord : Token.isBareWord text = true) (more : List Char) :
      Token.ScansTo [(.word, text)] text.toList (' ' :: more) :=
    .word isWord (by decide +kernel) (by decide)
  have create : Token.isBareWord "CREATE" = true := by decide +kernel
  have table : Token.isBareWord "TABLE" = true := by decide +kernel
  have label : Token.isBareWord "T" = true := by decide +kernel
  have scans : Token.ScansTo tableOpening ("CREATE".toList ++ (' ' :: ("TABLE".toList ++
      (' ' :: ("T".toList ++ (' ' :: ['('])))))) (bodyText elements).toList :=
    (word create _).cons <| ((word table _).cons <| ((word label _).cons <|
      Token.ScansTo.leftParen.space (by simp)).space (by simp)).space (by simp)
  obtain ⟨opening, place, taken, positive, isOpening, scanned⟩ :=
    scans .origin 0 Nat.zero_lt_one
  have trivia (chars : List Char) :
      Trivia.split chars = ([] ++ (Trivia.split chars).1, (Trivia.split chars).2) := rfl
  obtain ⟨lead, opens, -, scannedBody⟩ := Token.scanFrom_eq_headed (trivia _) positive taken
  rw [scannedBody] at scanned
  unfold tableScript
  rw [String.toList_append]
  exact ⟨opening, lead, opens, _, _, isOpening, scanned⟩

/-- A script of a table is read as its body is. -/
theorem readScript_tableScript {elements : List String}
    (scanned : Token.scanFrom .origin 0 (bodyText elements).toList = (tokens, none)) :
    ∃ opening body, opening.map Token.lexeme = tableOpening ∧
      body.map Token.kind = tokens.map Token.kind ∧
        (∀ children, IsBody body children ↔ IsBody tokens children) ∧
          ∀ defaultSchema read, readScript (tableScript elements) defaultSchema = .ok read ↔
            statements defaultSchema (opening ++ body) = .ok read := by
  obtain ⟨opening, lead, opens, offset, lines, isOpening, scannedScript⟩ :=
    scanFrom_tableScript elements
  rw [scanned] at scannedScript
  have scan := scan_eq_ok.mpr scannedScript
  refine ⟨opening, headed lead opens (tokens.map (moved offset lines)), isOpening, ?_,
    fun children => ⟨?_, ?_⟩, fun defaultSchema read => ?_⟩
  · exact (Token.map_kind_headed _ _ _).trans (Token.map_kind_moved _ _ _)
  · exact fun body => body.of_headed.of_moved
  · exact fun body => (body.moved _ _).headed _ _
  · rw [readScript, scan]
    exact mapError_eq_ok

theorem scanFrom_bodyText_singleton {text : String}
    (scanned : Token.scanFrom .origin 0 text.toList = (tokens, none)) :
    ∃ close : Token, close.kind = .rightParen ∧
      Token.scanFrom .origin 0 (bodyText [text]).toList = (tokens ++ [close], none) := by
  have paren : Token.scanFrom .origin 0 [')'] =
      ([Token.placed .origin 0 .rightParen [')'] []], none) := by
    rw [Token.scanFrom_of_token (Trivia.split_of_no_splitPiece rfl) rfl,
      Token.scanFrom_of_end (Trivia.split_of_no_splitPiece rfl)]
    rfl
  obtain ⟨lead, scannedBody⟩ :=
    Token.scanFrom_append_newline scanned Nat.zero_lt_one (Nat.zero_le _) [')']
  rw [paren, ← toList_bodyText_singleton] at scannedBody
  exact ⟨_, rfl, scannedBody⟩

theorem scanFrom_bodyText_cons {text next : String} {others : List String} {more : List Token}
    (scanned : Token.scanFrom .origin 0 text.toList = (tokens, none))
    (scannedMore : Token.scanFrom .origin 0 (bodyText (next :: others)).toList = (more, none)) :
    ∃ comma body, comma.kind = .comma ∧ (∀ children, IsBody more children → IsBody body children) ∧
      Token.scanFrom .origin 0 (bodyText (text :: next :: others)).toList =
        (tokens ++ comma :: body, none) := by
  have newline : Trivia.split ('\n' :: (bodyText (next :: others)).toList) =
      (['\n'] ++ (Trivia.split (bodyText (next :: others)).toList).1,
        (Trivia.split (bodyText (next :: others)).toList).2) :=
    Trivia.split_of_splitPiece rfl
  obtain ⟨lead, opens, -, scannedLine⟩ := Token.scanFrom_eq_headed newline
    (show 0 < (Place.origin.after [',']).line by decide) Place.origin.line
  have noTrivia : Trivia.split (',' :: '\n' :: (bodyText (next :: others)).toList) =
      ([], ',' :: '\n' :: (bodyText (next :: others)).toList) :=
    Trivia.split_of_no_splitPiece rfl
  have scannedComma := Token.scanFrom_of_token noTrivia rfl .origin 0
  rw [Place.after_nil, scannedLine, scannedMore] at scannedComma
  obtain ⟨commaLead, scannedAll⟩ :=
    Token.scanFrom_append_newline scanned Nat.zero_lt_one (Nat.zero_le _)
      (',' :: '\n' :: (bodyText (next :: others)).toList)
  rw [scannedComma, ← toList_bodyText_cons] at scannedAll
  refine ⟨_, _, ?_, fun children isBody => ?_, scannedAll⟩
  · rfl
  · exact ((isBody.moved _ _).headed _ _).moved _ _

/-- The body of a table with one element. -/
theorem IsElementText.isBody {defaultSchema text : String}
    (element : IsElementText defaultSchema text children) :
    ∃ tokens close, (∀ last ∈ tokens.getLast?, last.kind ≠ .comma) ∧
      Token.scanFrom .origin 0 text.toList = (tokens, none) ∧
        Token.scanFrom .origin 0 (bodyText [text]).toList = (tokens ++ [close], none) ∧
          IsBody (tokens ++ [close]) children := by
  obtain ⟨tokens, scan, balanced, noComma⟩ := element.scans
  obtain ⟨statement, accepted, rfl⟩ := element.isAccepted
  have scanned := scan_eq_ok.mp scan
  obtain ⟨close, isParen, scannedBody⟩ := scanFrom_bodyText_singleton scanned
  obtain ⟨opening, body, isOpening, sameKinds, isBody, read⟩ := readScript_tableScript scannedBody
  have kinds : body.map Token.kind = tokens.map Token.kind ++ [.rightParen] := by
    rw [sameKinds, List.map_append, List.map_singleton, isParen]
  have found := isBody_of_statements isOpening ((read _ _).mp accepted) kinds balanced
  exact ⟨tokens, close, noComma, scanned, scannedBody, (isBody _).mp found⟩

theorem exists_body {defaultSchema : String} {texts : List String} {nodes : List (List Node)}
    (elements : List.Forall₂ (IsElementText defaultSchema) texts nodes) (some : texts ≠ []) :
    ∃ tokens, Token.scanFrom .origin 0 (bodyText texts).toList = (tokens, none) ∧
      IsBody tokens nodes.flatten := by
  induction elements with
  | nil => exact absurd rfl some
  | @cons text children texts nodes element elements induction =>
    obtain ⟨tokens, close, noComma, scanned, scannedBody, isBody⟩ := element.isBody
    cases elements with
    | nil => exact ⟨tokens ++ [close], scannedBody, by simpa using isBody⟩
    | @cons next _ others _ _ _ =>
      obtain ⟨more, scannedMore, isMore⟩ := induction (List.cons_ne_nil _ _)
      obtain ⟨comma, body, isComma, transfer, scannedAll⟩ :=
        scanFrom_bodyText_cons scanned scannedMore
      exact ⟨_, scannedAll, isBody.append noComma isComma (transfer _ isMore)⟩

end Grammar

open Grammar

/-- Elements that are accepted each in a table of its own are accepted together: the table has the
children of each, in order, and no others. -/
theorem readScript_tableScript_eq_flatten {defaultSchema : String} {texts : List String}
    {children : List (List Node)} (notEmpty : texts ≠ [])
    (elements : List.Forall₂ (IsElementText defaultSchema) texts children) :
    ∃ statement, readScript (tableScript texts) defaultSchema = .ok [.createTable statement] ∧
      statement.definition.children = children.flatten := by
  obtain ⟨tokens, scanned, isBody⟩ := exists_body elements notEmpty
  obtain ⟨opening, body, isOpening, -, bodies, read⟩ := readScript_tableScript scanned
  obtain ⟨statement, found, definition⟩ :=
    exists_createTable isOpening ((bodies _).mpr isBody)
  refine ⟨statement, (read _ _).mpr ?_, definition⟩
  rw [statements_of_createTable (isTable_opening isOpening _)]
  refine bind_eq_ok.mpr ⟨_, found, map_eq_ok.mpr ⟨[], ?_, rfl⟩⟩
  rw [statements]

/-- A computed column with a `CASE` between a column and a key. -/
theorem readScript_tableScript_eq_flatten_three : ∃ children,
    List.Forall₂ (IsElementText "dbo")
        ["Id INT NOT NULL", "Kind AS (CASE WHEN Id > 1 THEN 'a' END + 'b') PERSISTED",
          "CONSTRAINT Pk PRIMARY KEY (Id)"] children ∧
      ∃ statement,
        readScript (tableScript
          ["Id INT NOT NULL", "Kind AS (CASE WHEN Id > 1 THEN 'a' END + 'b') PERSISTED",
            "CONSTRAINT Pk PRIMARY KEY (Id)"]) "dbo" = .ok [.createTable statement] ∧
          statement.definition.children = children.flatten := by
  obtain ⟨first, isFirst⟩ : ∃ children, IsElementText "dbo" "Id INT NOT NULL" children := by
    decide +kernel
  obtain ⟨second, isSecond⟩ : ∃ children, IsElementText "dbo"
      "Kind AS (CASE WHEN Id > 1 THEN 'a' END + 'b') PERSISTED" children := by
    decide +kernel
  obtain ⟨third, isThird⟩ : ∃ children, IsElementText "dbo" "CONSTRAINT Pk PRIMARY KEY (Id)"
      children := by
    decide +kernel
  have elements := List.Forall₂.cons isFirst (.cons isSecond (.cons isThird .nil))
  exact ⟨_, elements, readScript_tableScript_eq_flatten (by simp) elements⟩

end SqlSchema
