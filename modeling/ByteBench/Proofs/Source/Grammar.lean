import ByteBench.Proofs.Isa.Operands
import ByteBench.Proofs.Source.Operands

/-!
# The language of source lines

Main statement: `parseLine_eq_ok_iff`, the lines that are instructions are exactly those that can be
written as a mnemonic, in any case, and its operands, with blanks between them and around them.
-/

namespace ByteBench.Source

open ByteBench.Text

/-- A line that is an instruction, taken apart. -/
structure Sentence where
  lead : List Char
  word : List Char
  mnemonic : Mnemonic
  operands : List Operand
  trail : List Char
  blank_lead : ∀ c ∈ lead, c ∈ blanks
  blank_trail : ∀ c ∈ trail, c ∈ blanks
  upper_word : word.map Char.toUpper = mnemonic.name.toList
  length_operands : operands.length = mnemonic.operandCount
  inRange : ∀ o ∈ operands, InRange o.numeral.value
  gap_head : ∀ o ∈ operands.head?, o.gap ≠ []
  apart_tail : ∀ o ∈ operands.tail, o.Apart

namespace Sentence

def text (s : Sentence) : List Char :=
  s.lead ++ s.word ++ s.operands.flatMap Operand.text ++ s.trail

def values (s : Sentence) : List Int64 := s.operands.map Operand.value

end Sentence

theorem upper_name (m : Mnemonic) : m.name.toList.map Char.toUpper = m.name.toList := by
  rcases m with o | _
  · cases o <;> decide
  · decide

theorem lookup?_eq_some_iff {word : List Char} {m : Mnemonic} :
    Mnemonic.lookup? word = some m ↔ word.map Char.toUpper = m.name.toList := by
  constructor
  · intro h
    have hfound := List.find?_some h
    exact (of_decide_eq_true hfound).symm
  · intro h
    have hname := Mnemonic.lookup?_name m
    rw [Mnemonic.lookup?, upper_name] at hname
    rw [Mnemonic.lookup?, h]
    exact hname

theorem isAlphanum_name (m : Mnemonic) : m.name.toList.all Char.isAlphanum = true := by
  rcases m with o | _
  · cases o <;> decide
  · decide

theorem name_ne_nil (m : Mnemonic) : m.name.toList ≠ [] := by
  rcases m with o | _
  · cases o <;> decide
  · decide

/-- A blank is no letter, so that it is in no name in any case. -/
theorem toUpper_not_mem_name {c : Char} (m : Mnemonic) (h : c ∈ blanks) :
    c.toUpper ∉ m.name.toList := by
  have hblank : c.toUpper.isAlphanum = false := by
    simp only [blanks, List.mem_cons, List.not_mem_nil, or_false] at h
    rcases h with rfl | rfl | rfl | rfl | rfl | rfl <;> rfl
  intro hmem
  have hletter := List.all_eq_true.mp (isAlphanum_name m) c.toUpper hmem
  rw [hblank] at hletter
  cases hletter

namespace Cut

variable {lead word rest : List Char}

theorem ofLine_text (cs : List Char) :
    (ofLine cs).lead ++ (ofLine cs).word ++ (ofLine cs).rest = cs := by
  rw [List.append_assoc, ofLine, List.takeWhile_append_dropWhile, List.takeWhile_append_dropWhile]

theorem blank_lead (cs : List Char) : ∀ c ∈ (ofLine cs).lead, c ∈ blanks := by
  intro c hc
  exact isBlank_iff_mem.mp (of_mem_takeWhile hc)

theorem blank_rest (cs : List Char) : ∀ c ∈ (ofLine cs).rest.head?, c ∈ blanks := by
  intro c hc
  have h : (!isBlank c) = false := head?_dropWhile _ _ c hc
  rw [Bool.not_eq_false'] at h
  exact isBlank_iff_mem.mp h

theorem ofLine_eq (hlead : ∀ c ∈ lead, c ∈ blanks) (hword : ∀ c ∈ word, c ∉ blanks)
    (hne : word ≠ []) (hrest : ∀ c ∈ rest.head?, c ∈ blanks) :
    ofLine (lead ++ word ++ rest) = ⟨lead, word, rest⟩ := by
  have hblank : ∀ c ∈ lead, isBlank c = true := by
    intro c hc
    exact isBlank_iff_mem.mpr (hlead c hc)
  have hsolid : ∀ c ∈ word, (!isBlank c) = true := by
    intro c hc
    rw [Bool.not_eq_true', Bool.eq_false_iff, Ne, isBlank_iff_mem]
    exact hword c hc
  have hstop : ∀ c ∈ (word ++ rest).head?, isBlank c = false := by
    intro c hc
    obtain ⟨d, ds, rfl⟩ := List.exists_cons_of_ne_nil hne
    cases hc
    have hsolid' := hsolid c List.mem_cons_self
    rwa [Bool.not_eq_true'] at hsolid'
  have hend : ∀ c ∈ rest.head?, (!isBlank c) = false := by
    intro c hc
    rw [Bool.not_eq_false', isBlank_iff_mem]
    exact hrest c hc
  rw [List.append_assoc, ofLine, takeWhile_run hblank hstop, dropWhile_run hblank hstop,
    takeWhile_run hsolid hend, dropWhile_run hsolid hend]

end Cut

theorem readOperands_eq_ok_iff {m : Mnemonic} {word : Span} {line rest : List Char} {i : Instr} :
    readOperands m word line rest = .ok i ↔
      ∃ vs, operandValues (scanFrom word.stop rest) = .ok vs ∧ Instr.ofOperands m vs = .ok i := by
  rw [readOperands]
  cases operandValues (scanFrom word.stop rest) with
  | error e => simp [bind, Except.bind]
  | ok vs =>
    simp only [bind, Except.bind, Except.ok.injEq, exists_eq_left']
    cases Instr.ofOperands m vs with
    | ok instr => simp
    | error n => simp

theorem parseLine_eq_ok_iff_lookup {line : String} {i : Instr} :
    parseLine line = .ok i ↔
      ∃ m, Mnemonic.lookup? (Cut.ofLine line.toList).word = some m ∧
        readOperands m (Cut.ofLine line.toList).span line.toList (Cut.ofLine line.toList).rest =
          .ok i := by
  rw [parseLine]
  cases hm : Mnemonic.lookup? (Cut.ofLine line.toList).word with
  | none => simp
  | some m =>
    simp only [Option.some.injEq, exists_eq_left']
    cases readOperands m (Cut.ofLine line.toList).span line.toList
        (Cut.ofLine line.toList).rest with
    | ok instr => simp
    | error e => simp

/-- Blanks stand before the first operand, as the mnemonic would go on otherwise. -/
theorem gap_ne_nil {cs : List Char} {ops : List Operand} {trail : List Char}
    (hrow : IsRow cs ops trail) (hblank : ∀ c ∈ cs.head?, c ∈ blanks) :
    ∀ o ∈ ops.head?, o.gap ≠ [] := by
  intro o ho hgap
  obtain ⟨rest, rfl⟩ : ∃ rest, ops = o :: rest := by
    cases ops with
    | nil => cases ho
    | cons o' rest =>
      cases ho
      exact ⟨rest, rfl⟩
  obtain ⟨c, ds, htext, hstart, -⟩ := o.numeral.text_eq_cons
  have hhead : cs.head? = some c := by
    rw [← hrow.text_eq, List.flatMap_cons, Operand.text, hgap, htext]
    rfl
  have hc : startOf c = .blank := startOf_of_isBlank (isBlank_iff_mem.mpr (hblank c hhead))
  rw [hstart] at hc
  cases hc

namespace Sentence

theorem word_not_blank (s : Sentence) : ∀ c ∈ s.word, c ∉ blanks := by
  intro c hc hblank
  have hmem : c.toUpper ∈ s.word.map Char.toUpper := List.mem_map_of_mem hc
  rw [s.upper_word] at hmem
  exact toUpper_not_mem_name s.mnemonic hblank hmem

theorem word_ne_nil (s : Sentence) : s.word ≠ [] := by
  intro h
  have hname := s.upper_word
  rw [h] at hname
  exact name_ne_nil s.mnemonic hname.symm

theorem isRow (s : Sentence) :
    IsRow (s.operands.flatMap Operand.text ++ s.trail) s.operands s.trail :=
  ⟨rfl, s.blank_trail, s.apart_tail, s.inRange⟩

theorem blank_rest (s : Sentence) :
    ∀ c ∈ (s.operands.flatMap Operand.text ++ s.trail).head?, c ∈ blanks := by
  obtain ⟨lead, word, m, ops, trail, -, htrail, -, -, -, hgap, -⟩ := s
  cases ops with
  | nil =>
    intro c hc
    exact htrail c (List.mem_of_mem_head? hc)
  | cons o ops =>
    obtain ⟨gap, numeral, hblank⟩ := o
    cases gap with
    | nil => exact absurd rfl (hgap _ rfl)
    | cons b gap =>
      intro c hc
      cases hc
      exact hblank b List.mem_cons_self

theorem cut_text (s : Sentence) :
    Cut.ofLine s.text = ⟨s.lead, s.word, s.operands.flatMap Operand.text ++ s.trail⟩ := by
  rw [text, List.append_assoc (s.lead ++ s.word)]
  exact Cut.ofLine_eq s.blank_lead s.word_not_blank s.word_ne_nil s.blank_rest

/-- A line that is made of its parts is read as what the parts say. -/
theorem parseLine_eq (s : Sentence) {line : String} {i : Instr} (htext : s.text = line.toList)
    (hi : Instr.ofOperands s.mnemonic s.values = .ok i) : parseLine line = .ok i := by
  rw [parseLine_eq_ok_iff_lookup, ← htext, s.cut_text]
  refine ⟨s.mnemonic, lookup?_eq_some_iff.mpr s.upper_word, ?_⟩
  exact readOperands_eq_ok_iff.mpr ⟨s.values, s.isRow.operandValues_eq _, hi⟩

end Sentence

/-- Whatever line is read as an instruction can be taken apart. -/
theorem exists_sentence {line : String} {i : Instr} (h : parseLine line = .ok i) :
    ∃ s : Sentence, s.text = line.toList ∧ Instr.ofOperands s.mnemonic s.values = .ok i := by
  obtain ⟨m, hm, hread⟩ := parseLine_eq_ok_iff_lookup.mp h
  obtain ⟨vs, hvs, hi⟩ := readOperands_eq_ok_iff.mp hread
  obtain ⟨ops, trail, hrow, rfl⟩ := exists_isRow hvs
  have hlength : ops.length = m.operandCount := by
    rw [← Instr.length_of_ofOperands hi, List.length_map]
  have hgap := gap_ne_nil hrow (Cut.blank_rest line.toList)
  refine ⟨⟨_, _, m, ops, trail, Cut.blank_lead line.toList, hrow.blank_trail,
    lookup?_eq_some_iff.mp hm, hlength, hrow.inRange, hgap, hrow.apart⟩, ?_, hi⟩
  rw [Sentence.text, List.append_assoc, hrow.text_eq, Cut.ofLine_text]

/-- The language of lines: which texts are instructions, and which instructions they are. -/
theorem parseLine_eq_ok_iff (line : String) (i : Instr) :
    parseLine line = .ok i ↔
      ∃ s : Sentence, s.text = line.toList ∧ Instr.ofOperands s.mnemonic s.values = .ok i := by
  constructor
  · exact exists_sentence
  · rintro ⟨s, htext, hi⟩
    exact s.parseLine_eq htext hi

end ByteBench.Source
