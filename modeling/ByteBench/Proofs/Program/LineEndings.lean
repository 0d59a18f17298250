import ByteBench.Proofs.Program.SourceMap
import ByteBench.Proofs.Source.Rejection
import ByteBench.Proofs.Text.Lines

/-!
# Texts and rows of lines

A text is assembled as the lines that it was made of are, whichever way they were ended. Main
statement: `ofText_eq_ofLines`, the two give the same program, the same source map and the same
diagnostics, and neither a line without a word nor the end of the last line moves any other line.
-/

namespace ByteBench

open ByteBench.Source ByteBench.Text

namespace Source

theorem lookup?_nil : Mnemonic.lookup? [] = none := by
  apply lookup?_eq_none_iff.mpr
  intro m hm
  exact name_ne_nil m hm.symm

/-- A line without a word is refused like any other word that is no mnemonic, at its end. -/
theorem parseLine_of_blanks {line : String} (h : ∀ c ∈ line.toList, c ∈ blanks) :
    parseLine line = .error ⟨.unknownInstruction "",
      ⟨byteLength line.toList, byteLength line.toList⟩, line, none⟩ := by
  rw [parseLine_eq_error_iff_lookup, ofLine_of_blanks h]
  exact .inl ⟨lookup?_nil, rfl⟩

end Source

namespace Assembly

variable {ls : List String} {text line : String} {k : Nat}

theorem mem_errors_of_blanks (policy : OnError) (hk : ls[k]? = some line)
    (hblank : ∀ c ∈ line.toList, c ∈ blanks) :
    ⟨.unknownInstruction "", ⟨byteLength line.toList, byteLength line.toList⟩, line, some k⟩ ∈
      (ofLines policy ls).errors := by
  rw [ofLines_eq]
  exact mem_errorsFrom_iff.mpr ⟨k, line, _, hk, parseLine_of_blanks hblank, rfl⟩

theorem ofText_eq (policy : OnError) (h : MadeOf ls text) (hls : ∀ l ∈ ls, IsLine l.toList) :
    ofText policy text = ofLines policy ls := by
  rw [ofText, lines_of_madeOf h hls]

theorem ofText_eq_ofLines (policy : OnError) (h : MadeOf ls text)
    (hls : ∀ l ∈ ls, IsLine l.toList) :
    ofText policy text = ofLines policy ls ∧
      (∀ k line, ls[k]? = some line → (∀ c ∈ line.toList, c ∈ blanks) →
        ⟨.unknownInstruction "", ⟨byteLength line.toList, byteLength line.toList⟩, line, some k⟩ ∈
          (ofText policy text).errors) ∧
      (∀ e : LineEnd, text ≠ "" → text.toList.getLast? ≠ some '\n' →
        ofText policy (text ++ e.text) = ofText policy text) := by
  have htext := ofText_eq policy h hls
  refine ⟨htext, ?_, ?_⟩
  · intro k line hk hblank
    rw [htext]
    exact mem_errors_of_blanks policy hk hblank
  · intro e hne hlast
    rw [htext]
    exact ofText_eq policy (h.ended e hne hlast) hls

theorem ofText_eq_ofLines_mixed :
    MadeOf ["", "ADDI 0 0 3", " \r ", "FOO"] "\r\nADDI 0 0 3\n \r \r\nFOO" ∧
      (∀ l ∈ ["", "ADDI 0 0 3", " \r ", "FOO"], IsLine l.toList) ∧
      ofText .placeholder "\r\nADDI 0 0 3\n \r \r\nFOO" =
        ofLines .placeholder ["", "ADDI 0 0 3", " \r ", "FOO"] := by
  have hmade : MadeOf ["", "ADDI 0 0 3", " \r ", "FOO"] "\r\nADDI 0 0 3\n \r \r\nFOO" :=
    .cons "" .returnLineFeed (.cons "ADDI 0 0 3" .lineFeed (.cons " \r " .returnLineFeed
      (.last (by decide))))
  have hls : ∀ l ∈ ["", "ADDI 0 0 3", " \r ", "FOO"], IsLine l.toList := by decide
  exact ⟨hmade, hls, (ofText_eq_ofLines .placeholder hmade hls).1⟩

end Assembly

end ByteBench
