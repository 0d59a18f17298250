import ByteBench.Proofs.Isa.Operands
import ByteBench.Proofs.Source.Grammar
import ByteBench.Proofs.Text.Lines

/-!
# The text of an instruction

An instruction is written as its mnemonic and its operands, with a space before each of them. Main
statements: `parseLine_text`, what is written is read as the same instruction, and `isLine_text`, it
is one line.
-/

namespace ByteBench

open ByteBench.Text

namespace Source

/-- A number as it is written, without a sign. -/
def Numeral.ofNat (n : Nat) : Numeral where
  sign := none
  digits := Nat.toDigits 10 n
  isSign_sign := nofun
  digits_ne_nil := Nat.toDigits_ne_nil
  isDigit_digits _ h := Nat.isDigit_of_mem_toDigits (by decide) (by decide) h

theorem Numeral.text_ofNat (n : Nat) : (Numeral.ofNat n).text = (toString n).toList :=
  Nat.toList_repr.symm

theorem Numeral.value_ofNat (n : Nat) : (Numeral.ofNat n).value = n := by
  have hdigits : Nat.ofDigitChars 10 (Nat.toDigits 10 n) 0 = n :=
    Nat.ofDigitChars_toDigits (by decide) (by decide)
  have hunit : signUnit (Numeral.ofNat n).sign = 1 := rfl
  rw [value, hunit, Int.one_mul]
  exact congrArg Nat.cast hdigits

def Operand.ofByte (v : UInt8) : Operand where
  gap := [' ']
  numeral := .ofNat v.toNat
  blank_gap := List.forall_mem_singleton.mpr (by decide)

theorem Operand.text_ofByte (v : UInt8) :
    (Operand.ofByte v).text = (" " ++ toString v.toNat).toList := by
  rw [text, String.toList_append, ← Numeral.text_ofNat]
  rfl

theorem Operand.inRange_ofByte (v : UInt8) : InRange (Operand.ofByte v).numeral.value := by
  have hlt := v.toNat_lt
  have hvalue : (Operand.ofByte v).numeral.value = v.toNat := Numeral.value_ofNat v.toNat
  have hmin : Int64.minValue.toInt ≤ 0 := by decide
  have hmax : 255 ≤ Int64.maxValue.toInt := by decide
  rw [hvalue]
  exact ⟨by omega, by omega⟩

/-- The text of an instruction, taken apart. -/
def Sentence.ofInstr (i : Instr) : Sentence where
  lead := []
  word := i.mnemonic.name.toList
  mnemonic := i.mnemonic
  operands := i.operands.map Operand.ofByte
  trail := []
  blank_lead := nofun
  blank_trail := nofun
  upper_word := upper_name i.mnemonic
  length_operands := by rw [List.length_map, i.length_operands]
  inRange := List.forall_mem_map.mpr fun v _ => Operand.inRange_ofByte v
  gap_head o ho := by
    obtain ⟨v, -, rfl⟩ := List.mem_map.mp (List.mem_of_mem_head? ho)
    exact List.cons_ne_nil _ _
  apart_tail o ho := by
    obtain ⟨v, -, rfl⟩ := List.mem_map.mp (List.mem_of_mem_tail ho)
    exact Or.inl (List.cons_ne_nil _ _)

namespace Sentence

theorem text_ofInstr (i : Instr) : (ofInstr i).text = i.text.toList := by
  have hoperands : (i.operands.map Operand.ofByte).flatMap Operand.text =
      (String.join (i.operands.map fun v => " " ++ toString v.toNat)).toList := by
    rw [String.toList_join, List.flatMap_map, List.flatMap_map]
    simp only [Operand.text_ofByte]
  rw [Instr.text, String.toList_append, ← hoperands]
  exact List.append_nil _

theorem values_ofInstr (i : Instr) :
    (ofInstr i).values = i.operands.map fun v => Int64.ofInt v.toNat := by
  have hvalue : ∀ v, (Operand.ofByte v).value = Int64.ofInt v.toNat := by
    intro v
    exact congrArg Int64.ofInt (Numeral.value_ofNat v.toNat)
  rw [values, ofInstr, List.map_map]
  exact List.map_congr_left fun v _ => hvalue v

end Sentence

theorem parseLine_text (i : Instr) : parseLine i.text = .ok i := by
  apply (Sentence.ofInstr i).parseLine_eq (Sentence.text_ofInstr i)
  rw [Sentence.values_ofInstr]
  exact i.ofOperands_operands

end Source

namespace Instr

open ByteBench.Source

theorem isAlphanum_or_space_text (i : Instr) :
    ∀ c ∈ i.text.toList, c.isAlphanum = true ∨ c = ' ' := by
  intro c hc
  rw [← Sentence.text_ofInstr] at hc
  simp only [Sentence.text, Sentence.ofInstr, List.nil_append, List.append_nil, List.mem_append,
    List.mem_flatMap, List.mem_map] at hc
  rcases hc with hname | ⟨o, ⟨v, -, rfl⟩, hoperand⟩
  · exact Or.inl (List.all_eq_true.mp (isAlphanum_name i.mnemonic) c hname)
  · rcases List.mem_cons.mp hoperand with hspace | hdigit
    · exact Or.inr hspace
    · have hc' := (Numeral.ofNat v.toNat).isDigit_digits c hdigit
      exact Or.inl (by rw [Char.isAlphanum, hc', Bool.or_true])

theorem ne_ending_of_isAlphanum {c : Char} (h : c.isAlphanum = true) : c ≠ '\n' ∧ c ≠ '\r' := by
  constructor
  · rintro rfl
    cases h
  · rintro rfl
    cases h

theorem ne_ending_of_mem_text (i : Instr) : ∀ c ∈ i.text.toList, c ≠ '\n' ∧ c ≠ '\r' := by
  intro c hc
  rcases i.isAlphanum_or_space_text c hc with h | rfl
  · exact ne_ending_of_isAlphanum h
  · decide

theorem isLine_text (i : Instr) : IsLine i.text.toList :=
  isLine_of_forall i.ne_ending_of_mem_text

theorem text_ne_empty (i : Instr) : i.text ≠ "" := by
  intro h
  have hname : i.mnemonic.name.toList = [] := by
    have htext := congrArg String.toList h
    rw [text, String.toList_append] at htext
    exact (List.append_eq_nil_iff.mp htext).1
  exact name_ne_nil i.mnemonic hname

end Instr

end ByteBench
