import ByteBench.Proofs.Isa.Encoding
import ByteBench.Proofs.Program.Batch
import ByteBench.Proofs.Source.Written
import ByteBench.Proofs.Text.Radix

/-!
# Disassembling and assembling again

Main statement: `disassembly_assembles`, the instructions of a program, each on a line, are
assembled to its words, but for the one bit of a move that says nothing, which no assembled program
has set.
-/

namespace ByteBench

open ByteBench.Source ByteBench.Text

namespace Program

variable (p : Program)

/-- The texts of all instructions, one on each line. -/
def disassembly : String := "\n".intercalate (p.instrs.map Instr.text)

theorem lines_disassembly : Text.lines p.disassembly = p.instrs.map Instr.text := by
  apply lines_intercalate
  · exact List.forall_mem_map.mpr fun i _ => i.isLine_text
  · rw [List.getLast?_map, Ne, Option.map_eq_some_iff]
    rintro ⟨i, -, hempty⟩
    exact i.text_ne_empty hempty

/-- The rows of a listing: for each address a row with the address, the word and its instruction. -/
structure Listed (rows : List String) : Prop where
  length_eq : rows.length = p.size
  row_eq : ∀ address word instr, p.get? address = some word → p.instrs[address]? = some instr →
    rows[address]? = some (String.ofList (places address) ++ ": " ++
      String.ofList (places word.toNat) ++ "  " ++ instr.text)

theorem isLine_listingLine (address : Nat) (word : UInt8) :
    IsLine (listingLine address word).toList := by
  have hhex : ∀ n, ∀ c ∈ (hexUpper2 n).toList, c ≠ '\n' ∧ c ≠ '\r' := by
    intro n c hc
    exact Instr.ne_ending_of_isAlphanum (isAlphanum_hexUpper2 n c hc)
  have hcolon : ∀ c ∈ ": ".toList, c ≠ '\n' ∧ c ≠ '\r' := by simp
  have hspaces : ∀ c ∈ "  ".toList, c ≠ '\n' ∧ c ≠ '\r' := by simp
  apply isLine_of_forall
  intro c hc
  simp only [listingLine, String.toList_append, List.mem_append] at hc
  rcases hc with (((hc | hc) | hc) | hc) | hc
  · exact hhex _ c hc
  · exact hcolon c hc
  · exact hhex _ c hc
  · exact hspaces c hc
  · exact (Instr.decode word).ne_ending_of_mem_text c hc

theorem lines_listing : Text.lines p.listing = p.listingLines := by
  apply lines_join
  intro row hrow
  obtain ⟨address, haddress, rfl⟩ := List.mem_mapIdx.mp hrow
  exact isLine_listingLine _ _

theorem listed_lines : p.Listed (Text.lines p.listing) := by
  rw [lines_listing]
  refine ⟨by rw [listingLines, List.length_mapIdx, length_words], ?_⟩
  intro address word instr hword hinstr
  have hdecode : Instr.decode word = instr := by
    rw [instrs, List.getElem?_map, ← get?, hword] at hinstr
    exact Option.some.inj hinstr
  rw [listingLines, List.getElem?_mapIdx, ← get?, hword, Option.map_some, listingLine,
    hexUpper2_eq, hexUpper2_eq, hdecode]

end Program

namespace Assembly

theorem words_cellsFrom_texts (policy : OnError) (start : Nat) (is : List Instr) :
    (cellsFrom policy start (is.map Instr.text)).map Cell.word = is.map Instr.encode := by
  induction is generalizing start with
  | nil => rfl
  | cons i is ih =>
    rw [List.map_cons, cellsFrom_cons, lineOutcome_of_ok start (parseLine_text i), List.map_append,
      ih]
    rfl

theorem errorsFrom_texts (start : Nat) (is : List Instr) :
    errorsFrom start (is.map Instr.text) = [] := by
  induction is generalizing start with
  | nil => rfl
  | cons i is ih => rw [List.map_cons, errorsFrom_cons_of_ok start _ (parseLine_text i), ih]

theorem ofText_disassembly (policy : OnError) (p : Program) :
    (ofText policy p.disassembly).errors = [] ∧
      (ofText policy p.disassembly).program.words = p.words.map Instr.withoutSpare := by
  have htext : ofText policy p.disassembly =
      ⟨⟨cellsFrom policy 0 (p.instrs.map Instr.text)⟩,
        errorsFrom 0 (p.instrs.map Instr.text)⟩ := by
    rw [ofText, p.lines_disassembly, ofLines_eq]
  have hencode : p.instrs.map Instr.encode = p.words.map Instr.withoutSpare := by
    rw [Program.instrs, List.map_map]
    exact List.map_congr_left fun word _ => Instr.encode_decode word
  rw [htext]
  refine ⟨errorsFrom_texts 0 _, ?_⟩
  rw [← hencode]
  exact words_cellsFrom_texts policy 0 p.instrs

/-- Every word of an assembled program is that of some instruction, a placeholder that of `NOP`. -/
theorem exists_encode_of_mem {policy : OnError} {start : Nat} {lines : List String} {c : Cell}
    (hc : c ∈ cellsFrom policy start lines) : ∃ i : Instr, i.encode = c.word := by
  induction lines generalizing start with
  | nil => cases hc
  | cons line lines ih =>
    rw [cellsFrom_cons, List.mem_append] at hc
    rcases hc with hc | hc
    · cases h : parseLine line with
      | ok i =>
        rw [lineOutcome_of_ok start h, cellsOf, List.mem_singleton] at hc
        exact ⟨i, by rw [hc]⟩
      | error d =>
        rw [lineOutcome_of_error start h] at hc
        cases policy with
        | skip => cases hc
        | placeholder =>
          rw [cellsOf, List.mem_singleton] at hc
          exact ⟨⟨.nop, [], trivial⟩, by rw [hc]; rfl⟩
    · exact ih hc

theorem map_withoutSpare_words (policy : OnError) (text : String) :
    (ofText policy text).program.words.map Instr.withoutSpare =
      (ofText policy text).program.words := by
  rw [ofText, ofLines_eq, Program.words, List.map_map]
  apply List.map_congr_left
  intro c hc
  obtain ⟨i, hi⟩ := exists_encode_of_mem hc
  rw [Function.comp_apply, ← hi, Instr.withoutSpare_encode]

/-- Disassembly is undone by assembly. Any words come back without the bit that a move passes over,
and the words of an assembled program come back as they are; every instruction is read back from its
text; and a listing shows each word with its address and the same text. -/
theorem disassembly_assembles :
    (∀ (policy : OnError) (words : List UInt8),
        (ofText policy (Program.ofWords words).disassembly).errors = [] ∧
          (ofText policy (Program.ofWords words).disassembly).program.words =
            words.map Instr.withoutSpare) ∧
      (∀ (policy policy' : OnError) (text : String),
        (ofText policy' (ofText policy text).program.disassembly).errors = [] ∧
          (ofText policy' (ofText policy text).program.disassembly).program.words =
            (ofText policy text).program.words) ∧
      (∀ i : Instr, parseLine i.text = .ok i) ∧
      ∀ p : Program, p.Listed (Text.lines p.listing) := by
  refine ⟨?_, ?_, parseLine_text, Program.listed_lines⟩
  · intro policy words
    have h := ofText_disassembly policy (.ofWords words)
    rw [Program.words_ofWords] at h
    exact h
  · intro policy policy' text
    have h := ofText_disassembly policy' (ofText policy text).program
    rw [map_withoutSpare_words] at h
    exact h

end Assembly

end ByteBench
