import ByteBench.Isa.Instr
import Mathlib.Data.Nat.Bitwise

/-!
# Instruction words

A word is looked at bit by bit: which of its bits a slot covers, and what is written there. Main
statements: `map_extract_packSlots`, what is written into slots that lie apart is read back;
`decode_encode`, an instruction is read back from its word; and `encode_decode`, a word is given
back by its instruction, but for the one bit of a move that no slot covers.
-/

namespace ByteBench

def bit (b : UInt8) (i : Nat) : Bool := b.toNat.testBit i

theorem eq_of_bit_eq {a b : UInt8} (h : ∀ i, bit a i = bit b i) : a = b :=
  UInt8.toNat_inj.mp (Nat.eq_of_testBit_eq h)

theorem bit_of_lt {b : UInt8} {w i : Nat} (h : b.toNat < 1 <<< w) (hi : w ≤ i) :
    bit b i = false := by
  rw [Nat.one_shiftLeft] at h
  have hlt : b.toNat < 2 ^ i := Nat.lt_of_lt_of_le h (Nat.pow_le_pow_right (by omega) hi)
  exact Nat.testBit_lt_two_pow hlt

theorem bit_of_le (b : UInt8) {i : Nat} (h : 8 ≤ i) : bit b i = false := bit_of_lt b.toNat_lt h

theorem bit_zero (i : Nat) : bit 0 i = false := Nat.zero_testBit i

theorem bit_or (a b : UInt8) (i : Nat) : bit (a ||| b) i = (bit a i || bit b i) := by
  rw [bit, UInt8.toNat_or, Nat.testBit_or]
  rfl

theorem bit_and (a b : UInt8) (i : Nat) : bit (a &&& b) i = (bit a i && bit b i) := by
  rw [bit, UInt8.toNat_and, Nat.testBit_and]
  rfl

theorem bit_and_lowMask (b : UInt8) (w i : Nat) :
    bit (b &&& lowMask w) i = (decide (i < w) && bit b i) := by
  rw [bit, toNat_and_lowMask, Nat.one_shiftLeft, Nat.testBit_mod_two_pow]
  rfl

namespace Slot

def covers (s : Slot) (i : Nat) : Bool := decide (s.shift ≤ i ∧ i < s.shift + s.width)

def Apart (s t : Slot) : Prop := s.shift + s.width ≤ t.shift ∨ t.shift + t.width ≤ s.shift

instance (s t : Slot) : Decidable (s.Apart t) := inferInstanceAs (Decidable (_ ∨ _))

variable {s t : Slot}

theorem Apart.symm (h : s.Apart t) : t.Apart s := Or.symm h

theorem toNat_shift (s : Slot) : (UInt8.ofNat s.shift).toNat % 8 = s.shift := by
  have h := s.shift.isLt
  rw [UInt8.toNat_ofNat']
  omega

theorem bit_place (s : Slot) (v : UInt8) (i : Nat) :
    bit (s.place v) i = (decide (i < 8) && s.covers i && bit v (i - s.shift)) := by
  have hmask : (v &&& s.mask).toNat.testBit (i - s.shift) =
      (decide (i - s.shift < s.width) && bit v (i - s.shift)) := bit_and_lowMask v s.width _
  rw [bit, place, UInt8.toNat_shiftLeft, toNat_shift, Nat.testBit_mod_two_pow,
    Nat.testBit_shiftLeft, hmask, covers]
  by_cases hs : s.shift.val ≤ i
  · have hwidth : i - s.shift < s.width ↔ i < s.shift + s.width := by omega
    simp [hs, hwidth, Bool.and_assoc]
  · simp [hs]

theorem bit_extract (s : Slot) (b : UInt8) (i : Nat) :
    bit (s.extract b) i = (decide (i < s.width) && bit b (s.shift + i)) := by
  rw [extract, mask, bit_and_lowMask, bit, UInt8.toNat_shiftRight, toNat_shift,
    Nat.testBit_shiftRight]
  rfl

theorem extract_or (s : Slot) (a b : UInt8) :
    s.extract (a ||| b) = s.extract a ||| s.extract b := by
  apply eq_of_bit_eq
  intro i
  simp only [bit_extract, bit_or, Bool.and_or_distrib_left]

theorem extract_place {v : UInt8} (hs : s.shift + s.width ≤ 8) (hv : v.toNat < 1 <<< s.width) :
    s.extract (s.place v) = v := by
  apply eq_of_bit_eq
  intro i
  have hback : s.shift + i - s.shift = i := Nat.add_sub_cancel_left _ _
  rw [bit_extract, bit_place, hback]
  by_cases hi : i < s.width
  · have hcovers : s.covers (s.shift + i) = true := decide_eq_true ⟨by omega, by omega⟩
    have hbyte : s.shift.val + i < 8 := by omega
    simp [hi, hcovers, hbyte]
  · have hzero : bit v i = false := bit_of_lt hv (Nat.le_of_not_lt hi)
    simp [hi, hzero]

theorem extract_place_of_apart (h : s.Apart t) (v : UInt8) : s.extract (t.place v) = 0 := by
  apply eq_of_bit_eq
  intro i
  rw [bit_extract, bit_place, bit_zero]
  by_cases hi : i < s.width
  · have hcovers : t.covers (s.shift + i) = false := by
      rw [covers, decide_eq_false_iff_not]
      rcases h with h | h <;> omega
    simp [hcovers]
  · simp [hi]

theorem extract_packSlots_of_apart {ss : List Slot} (h : ∀ t ∈ ss, s.Apart t) (vs : List UInt8) :
    s.extract (packSlots ss vs) = 0 := by
  have hzero : s.extract 0 = 0 := by
    apply eq_of_bit_eq
    intro i
    rw [bit_extract, bit_zero, bit_zero, Bool.and_false]
  induction ss generalizing vs with
  | nil => exact hzero
  | cons t ss ih =>
    cases vs with
    | nil => exact hzero
    | cons v vs =>
      have hrest := ih (fun u hu => h u (List.mem_cons_of_mem t hu)) vs
      rw [packSlots, extract_or, hrest, extract_place_of_apart (h t List.mem_cons_self)]
      rfl

end Slot

/-- What is written into slots of a byte is read back, if they lie apart. -/
theorem map_extract_packSlots {ss : List Slot} {vs : List UInt8} (hvs : Fits ss vs)
    (hapart : ss.Pairwise Slot.Apart) (hbyte : ∀ s ∈ ss, s.shift + s.width ≤ 8) :
    ss.map (·.extract (packSlots ss vs)) = vs := by
  induction ss generalizing vs with
  | nil =>
    cases vs with
    | nil => rfl
    | cons v vs => exact hvs.elim
  | cons s ss ih =>
    cases vs with
    | nil => exact hvs.elim
    | cons v vs =>
      obtain ⟨hfirst, hrest⟩ := List.pairwise_cons.mp hapart
      have hhead : s.extract (s.place v ||| packSlots ss vs) = v := by
        rw [Slot.extract_or, Slot.extract_place (hbyte s List.mem_cons_self) hvs.1,
          Slot.extract_packSlots_of_apart hfirst, UInt8.or_zero]
      have hothers : ∀ t ∈ ss,
          t.extract (s.place v ||| packSlots ss vs) = t.extract (packSlots ss vs) := by
        intro t ht
        rw [Slot.extract_or, Slot.extract_place_of_apart (hfirst t ht).symm, UInt8.zero_or]
      have htail := ih hvs.2 hrest fun t ht => hbyte t (List.mem_cons_of_mem s ht)
      rw [List.map_cons, packSlots, hhead, List.map_congr_left hothers, htail]

/-- A byte that is taken apart and joined again has kept the bits that some slot covers. -/
theorem bit_packSlots_extract (ss : List Slot) (b : UInt8) (i : Nat) :
    bit (packSlots ss (ss.map (·.extract b))) i = (ss.any (·.covers i) && bit b i) := by
  induction ss with
  | nil => exact bit_zero i
  | cons s ss ih =>
    have hplace : bit (s.place (s.extract b)) i = (s.covers i && bit b i) := by
      rw [Slot.bit_place, Slot.bit_extract]
      by_cases hi : 8 ≤ i
      · rw [bit_of_le b hi, Bool.and_false, decide_eq_false (Nat.not_lt.mpr hi)]
        rfl
      · cases hc : s.covers i with
        | false => simp
        | true =>
          have hwithin := of_decide_eq_true hc
          have hback : s.shift + (i - s.shift) = i := by omega
          have hwidth : i - s.shift < s.width := by omega
          simp [hback, hwidth, Nat.lt_of_not_le hi]
    rw [List.map_cons, packSlots, bit_or, hplace, ih, List.any_cons, Bool.and_or_distrib_right]

namespace Opcode

/-- The slots of a word: that of the opcode, and those of its operands. -/
def wordSlots (o : Opcode) : List Slot := slot :: o.shape.slots

theorem pairwise_wordSlots (o : Opcode) : o.wordSlots.Pairwise Slot.Apart := by
  rw [wordSlots]
  cases o.shape <;> decide

theorem le_of_mem_wordSlots (o : Opcode) : ∀ s ∈ o.wordSlots, s.shift + s.width ≤ 8 := by
  rw [wordSlots]
  cases o.shape <;> decide

/-- The slots of a word cover it, but for the lowest bit of a move. -/
theorem any_covers_wordSlots (o : Opcode) (i : Fin 8) :
    o.wordSlots.any (·.covers i) = (decide (o.shape ≠ .mov) || decide (i ≠ 0)) := by
  revert i
  cases o <;> decide

theorem toNat_codeByte (o : Opcode) : o.codeByte.toNat = o.code := by
  have h := o.code.isLt
  rw [codeByte, UInt8.toNat_ofNat']
  exact Nat.mod_eq_of_lt (by omega)

theorem ofByte_codeByte (o : Opcode) : ofByte o.codeByte = o := by
  have hcode : Fin.ofNat 16 o.codeByte.toNat = o.code := by
    apply Fin.ext
    rw [Fin.val_ofNat, toNat_codeByte]
    exact Nat.mod_eq_of_lt o.code.isLt
  rw [ofByte, hcode, ofCode_code]

theorem codeByte_ofByte {b : UInt8} (h : b.toNat < 16) : (ofByte b).codeByte = b := by
  apply UInt8.toNat_inj.mp
  rw [toNat_codeByte, ofByte, code_ofCode, Fin.val_ofNat]
  exact Nat.mod_eq_of_lt h

theorem toNat_extract_slot (word : UInt8) : (slot.extract word).toNat = word.toNat / 16 := by
  have h := word.toNat_lt
  have hshift : (word >>> UInt8.ofNat slot.shift).toNat = word.toNat / 16 := by
    rw [UInt8.toNat_shiftRight, Slot.toNat_shift]
    exact Nat.shiftRight_eq_div_pow word.toNat 4
  have hwidth : 1 <<< slot.width = 16 := rfl
  rw [Slot.extract, Slot.mask, toNat_and_lowMask, hshift, hwidth]
  omega

theorem shape_ofCode_eq_mov_iff (c : Fin 16) : (ofCode c).shape = .mov ↔ 14 ≤ c.val := by
  revert c
  decide

/-- The two moves have the highest opcodes. -/
theorem shape_eq_mov_iff (word : UInt8) :
    (ofByte (slot.extract word)).shape = .mov ↔ 0xE0 ≤ word := by
  have h := word.toNat_lt
  have hmax : (0xE0 : UInt8).toNat = 224 := rfl
  rw [ofByte, shape_ofCode_eq_mov_iff, Fin.val_ofNat, toNat_extract_slot, UInt8.le_iff_toNat_le,
    hmax]
  omega

end Opcode

namespace Instr

/-- A word without the bit of a move that no slot covers. -/
def withoutSpare (word : UInt8) : UInt8 := if 0xE0 ≤ word then word &&& 0xFE else word

theorem encode_eq {i : Instr} {o : Opcode} (h : i.mnemonic = .op o) :
    i.encode = packSlots o.wordSlots (o.codeByte :: i.operands) := by
  rw [encode, h]
  rfl

theorem fits_wordSlots {i : Instr} {o : Opcode} (h : i.mnemonic = .op o) :
    Fits o.wordSlots (o.codeByte :: i.operands) := by
  have hcode : o.codeByte.toNat < 1 <<< Opcode.slot.width := by
    rw [Opcode.toNat_codeByte]
    exact o.code.isLt
  have hoperands := i.fits_operands
  rw [h] at hoperands
  exact ⟨hcode, hoperands⟩

/-- An instruction is read back from its word, as long as its mnemonic has an opcode. -/
theorem decode_encode {i : Instr} {o : Opcode} (h : i.mnemonic = .op o) : decode i.encode = i := by
  have hread := map_extract_packSlots (fits_wordSlots h) o.pairwise_wordSlots o.le_of_mem_wordSlots
  rw [← encode_eq h, Opcode.wordSlots, List.map_cons, List.cons.injEq] at hread
  obtain ⟨hopcode, hvalues⟩ := hread
  have hop : Opcode.ofByte (Opcode.slot.extract i.encode) = o := by
    rw [hopcode, Opcode.ofByte_codeByte]
  apply ext
  · rw [h, ← hop]
    rfl
  · rw [← hvalues, ← hop]
    rfl

/-- What a word is read as is written by joining the parts into which the word was taken. -/
theorem encode_decode_eq (word : UInt8) :
    (decode word).encode =
      packSlots (Opcode.ofByte (Opcode.slot.extract word)).wordSlots
        ((Opcode.ofByte (Opcode.slot.extract word)).wordSlots.map (·.extract word)) := by
  have hmnemonic : (decode word).mnemonic = .op (Opcode.ofByte (Opcode.slot.extract word)) := rfl
  have hcode := Opcode.codeByte_ofByte (Opcode.slot.toNat_extract_lt word)
  rw [encode_eq hmnemonic, hcode]
  rfl

theorem encode_decode (word : UInt8) : (decode word).encode = withoutSpare word := by
  have hmask : ∀ i : Fin 8, bit 0xFE i = decide (i ≠ 0) := by decide
  have hspare := Opcode.shape_eq_mov_iff word
  rw [encode_decode_eq]
  generalize Opcode.ofByte (Opcode.slot.extract word) = o at hspare
  apply eq_of_bit_eq
  intro i
  rw [bit_packSlots_extract, withoutSpare]
  by_cases hi : i < 8
  · have hcovers : o.wordSlots.any (·.covers i) =
        (decide (o.shape ≠ .mov) || decide ((⟨i, hi⟩ : Fin 8) ≠ 0)) :=
      o.any_covers_wordSlots ⟨i, hi⟩
    have hlow : bit 0xFE i = decide ((⟨i, hi⟩ : Fin 8) ≠ 0) := hmask ⟨i, hi⟩
    rw [hcovers]
    split
    · next hle => simp [hspare.mpr hle, bit_and, hlow, Bool.and_comm]
    · next hlt =>
      have hne : o.shape ≠ .mov := fun h => hlt (hspare.mp h)
      simp [hne]
  · rw [bit_of_le word (Nat.le_of_not_lt hi), bit_of_le _ (Nat.le_of_not_lt hi), Bool.and_false]

theorem withoutSpare_encode (i : Instr) : withoutSpare i.encode = i.encode := by
  cases h : i.mnemonic with
  | nop =>
    have hzero : i.encode = 0 := by
      rw [encode, h]
      rfl
    rw [hzero]
    rfl
  | op o => rw [← encode_decode, decode_encode h]

end Instr

end ByteBench
