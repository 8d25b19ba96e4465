import SqlSchema.Proofs.Batches.Script
import SqlSchema.Proofs.Tiling

/-!
Scanning line by line. A script that scans to its end can be cut off from what follows by a line
feed: nothing at its end reaches over the line feed, and the text after it is scanned as if it stood
alone, further down.
-/

namespace SqlSchema

/-- The place after a script and a line feed. -/
theorem Place.after_origin_newline (script : String) :
    origin.after (script.toList ++ ['\n']) =
      ⟨script.utf8ByteSize + 1, 1 + (script.toList.count '\n' + 1)⟩ := by
  have offset := offset_after_origin (script.toList ++ ['\n'])
  rw [String.ofList_append, String.ofList_toList, String.utf8ByteSize_append] at offset
  have line : (origin.after (script.toList ++ ['\n'])).line =
      1 + (script.toList.count '\n' + 1) := by
    simp [after, origin]
  exact (mk.injEq ..).mpr ⟨offset, line⟩

namespace Token

/-- Whether scanning fails, and how, is the second part of what it delivers. -/
theorem scan_eq_error {source : String} {error : SyntaxError} :
    scan source = .error error ↔ (scanUpToError source).2 = some error := by
  unfold scan
  rcases scanUpToError source with ⟨tokens, none | failure⟩ <;> simp

/-- A script that scans, a line feed and any other text are scanned as each of the two alone: the
tokens of the one, then those of the other, after `bytes` more bytes and `lines` more lines. Only
the lead of the first of these is another, as it stands on a new line. The whole fails exactly if
the text after the line feed fails, with the same message and that many lines further down. -/
theorem scan_append_newline {first : String} {tokens : List Token}
    (scanned : scan first = .ok tokens) (second : String) :
    let bytes := first.utf8ByteSize + 1
    let lines := first.toList.count '\n' + 1
    ∃ lead,
      scanUpToError (first ++ "\n" ++ second) =
        (tokens ++ headed lead true ((scanUpToError second).1.map (moved bytes lines)),
          (scanUpToError second).2.map (SyntaxError.moved lines)) ∧
      (∀ others, scan second = .ok others →
        scan (first ++ "\n" ++ second) =
          .ok (tokens ++ headed lead true (others.map (moved bytes lines)))) ∧
      (∀ error, scan (first ++ "\n" ++ second) = .error error ↔
        ∃ alone, scan second = .error alone ∧ error = alone.moved lines) ∧
      ∀ error : SyntaxError, (error.moved lines).message = error.message ∧
        (error.moved lines).line = error.line + lines := by
  intro bytes lines
  have place := Place.after_origin_newline first
  rcases scanFrom_append_newline (Grammar.scan_eq_ok.mp scanned) Nat.zero_lt_one (Nat.zero_le 1)
    second.toList with ⟨lead, all⟩
  have whole : scanUpToError (first ++ "\n" ++ second) =
      (tokens ++ headed lead true ((scanUpToError second).1.map (moved bytes lines)),
        (scanUpToError second).2.map (SyntaxError.moved lines)) := by
    rw [place, Nat.add_sub_cancel_left] at all
    unfold scanUpToError
    rw [String.toList_append, String.toList_append, List.append_assoc]
    exact all
  refine ⟨lead, whole, ?_, ?_, fun error => ⟨SyntaxError.message_moved lines error,
    SyntaxError.line_moved lines error⟩⟩
  · intro others scannedSecond
    have alone : scanUpToError second = (others, none) := Grammar.scan_eq_ok.mp scannedSecond
    apply Grammar.scan_eq_ok.mpr
    rw [alone] at whole
    exact whole
  · intro error
    rw [scan_eq_error, whole, Option.map_eq_some_iff]
    constructor
    · rintro ⟨alone, failed, rfl⟩
      exact ⟨alone, scan_eq_error.mpr failed, rfl⟩
    · rintro ⟨alone, failed, rfl⟩
      exact ⟨alone, scan_eq_error.mp failed, rfl⟩

/-- A command variable that is not closed, an exponent without digits and a comment to the end of
the line, before a text that would go on with each of them and leaves a name open. -/
theorem scan_append_newline_open :
    ∃ tokens, scan "A $(b 1e+ -- N" = .ok tokens ∧ tokens.length = 7 ∧
      scan ("A $(b 1e+ -- N" ++ "\n" ++ "5) 'c'\n[d") =
        .error (.unclosed .bracketedName 3) := by
  have scanned : scan "A $(b 1e+ -- N" = .ok (scanUpToError "A $(b 1e+ -- N").1 := by
    apply Grammar.scan_eq_ok.mpr
    exact Prod.ext rfl (by decide +kernel)
  have failed : scan "5) 'c'\n[d" = .error (.unclosed .bracketedName 2) :=
    scan_eq_error.mpr (by decide +kernel)
  rcases scan_append_newline scanned "5) 'c'\n[d" with ⟨lead, -, -, fails, -⟩
  exact ⟨_, scanned, by decide +kernel, (fails _).mpr ⟨_, failed, rfl⟩⟩

end Token

end SqlSchema
