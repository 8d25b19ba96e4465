import SqlSchema.Proofs.BuiltinTypes
import SqlSchema.Proofs.TypeArgument
import SqlSchema.Proofs.TypeText.Scan

/-!
Types of columns. A map accepts only texts that are types, and the type of a column is such a text,
with `Option<` before it and `>` after it if a value may be missing. The `>` is lost in a line
comment at the end of the text, and the byte-order mark is white space only at the start of a text;
every other text that is accepted gives a type to every column.
-/

namespace SqlSchema

/-! ## Optional types -/

namespace CodeScan

/-- The tokens of a text between `Option<` and `>`. -/
theorem exists_tokens?_option {chars : List Char} {tokens : List CodeToken}
    (found : tokens? chars = some tokens) (closed : endsInComment chars = false)
    (noMinus : ∀ isJoined, tokens.getLast? ≠ some (.mark '-' isJoined)) :
    ∃ opens isJoined, tokens? ("Option<".toList ++ (chars ++ ['>'])) =
      some (.word "Option" :: .mark '<' opens :: CodeGrammar.beforeAngle isJoined tokens) := by
  have bound : chars.length < chars.length + 6 := Nat.lt_add_of_pos_right (by decide)
  obtain ⟨isJoined, isTail⟩ := exists_tokensUpTo_append_angle found closed noMinus bound
  have isName : splitFirst 'O' ("ption<".toList ++ (chars ++ ['>'])) =
      some ([.word "Option"], '<' :: (chars ++ ['>'])) :=
    rfl
  have isOpening : splitFirst '<' (chars ++ ['>']) =
      some ([.mark '<' (startsWithMark (chars ++ ['>']))], chars ++ ['>']) :=
    rfl
  have length : ("Option<".toList ++ (chars ++ ['>'])).length = chars.length + 6 + 1 + 1 := by
    rw [List.length_append, List.length_append, Nat.add_comm]
    rfl
  refine ⟨startsWithMark (chars ++ ['>']), isJoined, ?_⟩
  rw [tokens?, length]
  exact tokensUpTo_cons isName (tokensUpTo_cons isOpening isTail)

end CodeScan

namespace CodeType

/-- Whether a text means the same between brackets: it has no mark of its own at its start, and no
line comment at its end. -/
def standsInBrackets (text : String) : Bool :=
  text.toList.head? != some Trivia.byteOrderMark && !CodeScan.endsInComment text.toList

theorem withoutMark_of_ne {chars : List Char} (noMark : chars.head? ≠ some Trivia.byteOrderMark) :
    withoutMark chars = chars := by
  cases chars with
  | nil => rfl
  | cons char rest => exact if_neg fun same => noMark (congrArg some same)

theorem exists_of_ofTokens? {tokens : List CodeToken} {type : CodeType}
    (found : ofTokens? tokens = some type) :
    ∃ shape, CodeGrammar.readType tokens = some ⟨shape, type.tokens, []⟩ := by
  unfold ofTokens? at found
  split at found
  · rename_i shape written reads
    cases found
    exact ⟨shape, reads⟩
  · cases found

/-- A type that stands in brackets can be optional. -/
theorem exists_ofText?_option {text : String} (isType : (ofText? text).isSome)
    (stands : standsInBrackets text = true) :
    ∃ type, ofText? ("Option<" ++ text ++ ">") = some type := by
  obtain ⟨type, found⟩ := Option.isSome_iff_exists.mp isType
  obtain ⟨tokens, scans, found⟩ := Option.bind_eq_some_iff.mp found
  obtain ⟨shape, reads⟩ := exists_of_ofTokens? found
  rw [standsInBrackets, Bool.and_eq_true, bne_iff_ne, Bool.not_eq_eq_eq_not, Bool.not_true] at stands
  rw [withoutMark_of_ne stands.1] at scans
  obtain ⟨opens, isJoined, scansOption⟩ := CodeScan.exists_tokens?_option scans stands.2
    (CodeGrammar.getLast?_ne_minus_of_readType reads)
  obtain ⟨written, readsOption⟩ := CodeGrammar.exists_readType_option reads opens isJoined
  have spelled : withoutMark ("Option<" ++ text ++ ">").toList =
      "Option<".toList ++ (text.toList ++ ['>']) := by
    rw [String.toList_append, String.toList_append, List.append_assoc]
    rfl
  refine ⟨⟨written⟩, ?_⟩
  rw [ofText?, spelled, scansOption, Option.bind_some, ofTokens?, readsOption]

end CodeType

/-! ## Maps -/

namespace TypeMap

/-- Whether all texts in a map are types. -/
def IsReadable (map : TypeMap) : Prop :=
  ∀ entry ∈ map.entries, (CodeType.ofText? entry.2).isSome

theorem isReadable_builtin : builtin.IsReadable := by
  intro entry member
  obtain ⟨type, found, _⟩ :=
    exists_ofText?_of_mem (List.mem_append_left _ (mem_builtinTexts member))
  exact Option.isSome_of_eq_some found

variable {map larger : TypeMap} {sqlType codeType : String} {pairs : List (String × String)}

theorem insert_of_isSome (isType : (CodeType.ofText? codeType).isSome) :
    map.insert sqlType codeType = .ok ⟨(Text.upperCase sqlType, codeType) :: map.entries⟩ := by
  obtain ⟨type, found⟩ := Option.isSome_iff_exists.mp isType
  rw [TypeMap.insert, found]

theorem insert_of_none (noType : CodeType.ofText? codeType = none) :
    map.insert sqlType codeType = .error (.invalidType codeType sqlType) := by
  rw [TypeMap.insert, noType]

theorem insertAll_cons : map.insertAll ((sqlType, codeType) :: pairs) =
    (map.insert sqlType codeType).bind fun next => next.insertAll pairs :=
  List.foldlM_cons

/-- A text is inserted only if it is a type. -/
theorem IsReadable.insert (readable : map.IsReadable)
    (inserted : map.insert sqlType codeType = .ok larger) : larger.IsReadable := by
  cases found : CodeType.ofText? codeType with
  | none =>
    rw [insert_of_none found] at inserted
    cases inserted
  | some type =>
    have isType : (CodeType.ofText? codeType).isSome := Option.isSome_of_eq_some found
    rw [insert_of_isSome isType] at inserted
    cases inserted
    intro entry member
    obtain rfl | member := List.mem_cons.mp member
    · exact isType
    · exact readable entry member

theorem IsReadable.insertAll (readable : map.IsReadable)
    (inserted : map.insertAll pairs = .ok larger) : larger.IsReadable := by
  induction pairs generalizing map with
  | nil =>
    cases inserted
    exact readable
  | cons pair pairs induction =>
    rw [insertAll_cons] at inserted
    cases first : map.insert pair.1 pair.2 with
    | error error =>
      rw [first] at inserted
      cases inserted
    | ok next =>
      rw [first] at inserted
      exact induction (readable.insert first) inserted

/-- The text for a SQL type is one of the map, or the fallback. -/
theorem IsReadable.typeText (readable : map.IsReadable) :
    (CodeType.ofText? (map.typeText sqlType)).isSome := by
  obtain ⟨entry, member, same⟩ | same := map.typeText_mem_or_eq sqlType
  · exact same ▸ readable entry member
  · rw [same]
    decide +kernel

theorem columnType_of_some {column : Column} {type : CodeType}
    (found : CodeType.ofText? (map.columnTypeText column) = some type) :
    map.columnType column = .ok type := by
  simp only [columnType, found]

theorem columnType_of_none {column : Column}
    (noType : CodeType.ofText? (map.columnTypeText column) = none) :
    map.columnType column =
      .error (.invalidType (map.columnTypeText column) column.dataType) := by
  simp only [columnType, noType]

theorem IsReadable.exists_columnType {column : Column} (readable : map.IsReadable)
    (stands : column.isNullable = true →
      CodeType.standsInBrackets (map.typeText column.dataType) = true) :
    ∃ type, map.columnType column = .ok type := by
  have isType : (CodeType.ofText? (map.typeText column.dataType)).isSome := readable.typeText
  have hasText : ∃ type, CodeType.ofText? (map.columnTypeText column) = some type := by
    rw [columnTypeText]
    split
    · rename_i isNullable
      exact CodeType.exists_ofText?_option isType (stands isNullable)
    · exact Option.isSome_iff_exists.mp isType
  obtain ⟨type, found⟩ := hasText
  exact ⟨type, columnType_of_some found⟩

/-- Every column has a type in a map that accepted all entries, if the text for it, where it becomes
optional, stands in brackets. -/
theorem exists_columnType_of_insertAll {column : Column}
    (inserted : builtin.insertAll pairs = .ok map)
    (stands : column.isNullable = true →
      CodeType.standsInBrackets (map.typeText column.dataType) = true) :
    ∃ type, map.columnType column = .ok type :=
  (isReadable_builtin.insertAll inserted).exists_columnType stands

/-- Comments that are closed, or that a line end closes, do not matter. -/
theorem exists_columnType_of_insertAll_comments :
    builtin.insertAll [("geometry", "geo:: // WGS 84\n Point /* exact */")] =
        .ok ⟨("GEOMETRY", "geo:: // WGS 84\n Point /* exact */") :: builtin.entries⟩ ∧
      ∃ type, (TypeMap.mk (("GEOMETRY", "geo:: // WGS 84\n Point /* exact */") ::
        builtin.entries)).columnType { dataType := "Geometry" } = .ok type := by
  have inserted : builtin.insertAll [("geometry", "geo:: // WGS 84\n Point /* exact */")] =
      .ok ⟨("GEOMETRY", "geo:: // WGS 84\n Point /* exact */") :: builtin.entries⟩ := by
    rw [insertAll_cons, insert_of_isSome (by decide +kernel)]
    rfl
  exact ⟨inserted, exists_columnType_of_insertAll inserted fun _ => by decide +kernel⟩

/-- The `>` is lost in a comment, so a text that was accepted makes no type for a column. -/
theorem columnType_eq_error_of_comment :
    builtin.insertAll [("INT", "i32 // c")] = .ok ⟨("INT", "i32 // c") :: builtin.entries⟩ ∧
      (TypeMap.mk (("INT", "i32 // c") :: builtin.entries)).columnType
          { dataType := "INT", name := "A" } =
        .error (.invalidType "Option<i32 // c>" "INT") := by
  constructor
  · rw [insertAll_cons, insert_of_isSome (by decide +kernel)]
    rfl
  · exact columnType_of_none (by decide +kernel)

end TypeMap

end SqlSchema
