import ByteBench.Isa.Instr
import Mathlib.Data.Nat.Digits.Defs

/-!
# Operands cut to their fields

Main statements: `toNat_ofInt64`, cutting an integer is taking its remainder,
`ofOperands_eq_ok_iff` and `ofOperands_eq_error_iff`, what a mnemonic and operands give, and
`ofOperands_operands`, an instruction is what its mnemonic and its own operands give.
-/

namespace ByteBench

theorem toNat_toUInt64 (x : Int64) : (x.toUInt64.toNat : Int) = x.toInt % 2 ^ 64 := by
  have hsigned : x.toInt = (x.toUInt64.toNat : Int).bmod (2 ^ 64) := x.toBitVec.toInt_eq_toNat_bmod
  have hlt := x.toUInt64.toNat_lt
  have hmod : (x.toUInt64.toNat : Int).bmod (2 ^ 64) % 2 ^ 64 = x.toUInt64.toNat % 2 ^ 64 :=
    Int.bmod_emod
  rw [hsigned, hmod]
  omega

/-- A field keeps the remainder of an integer, also of a negative one. -/
theorem Field.toNat_ofInt64 (w : Nat) (x : Int64) :
    ((ofInt64 w x).byte.toNat : Int) = x.toInt % 2 ^ 8 % 2 ^ w := by
  have hbyte : ((x.toUInt64.toUInt8).toNat : Int) = x.toInt % 2 ^ 8 := by
    have hdvd : (2 ^ 8 : Int) ∣ 2 ^ 64 := by decide
    rw [UInt64.toNat_toUInt8, Int.natCast_emod, toNat_toUInt64]
    exact Int.emod_emod_of_dvd _ hdvd
  rw [ofInt64, toNat_ofByte, Nat.one_shiftLeft, Int.natCast_emod, hbyte]
  norm_cast

theorem Field.byte_ofInt64 {w : Nat} {v : UInt8} (h : v.toNat < 1 <<< w) :
    (ofInt64 w (Int64.ofInt v.toNat)).byte = v := by
  have hlt := v.toNat_lt
  have hvalue : (Int64.ofInt v.toNat).toInt = v.toNat :=
    Int64.toInt_ofInt_of_le (by omega) (by omega)
  rw [Nat.one_shiftLeft] at h
  have hbyte : (v.toNat : Int) % 2 ^ 8 = v.toNat := Int.emod_eq_of_lt (by omega) (by omega)
  have hwidth : (v.toNat : Int) % 2 ^ w = v.toNat :=
    Int.emod_eq_of_lt (by omega) (by exact_mod_cast h)
  have hcut := toNat_ofInt64 w (Int64.ofInt v.toNat)
  rw [hvalue, hbyte, hwidth] at hcut
  exact UInt8.toNat_inj.mp (by exact_mod_cast hcut)

theorem cutToSlots_of_fits {ss : List Slot} {vs : List UInt8} (h : Fits ss vs) :
    cutToSlots ss (vs.map fun v => Int64.ofInt v.toNat) = vs := by
  induction ss generalizing vs with
  | nil =>
    cases vs with
    | nil => rfl
    | cons v vs => exact h.elim
  | cons s ss ih =>
    cases vs with
    | nil => exact h.elim
    | cons v vs =>
      have hhead := Field.byte_ofInt64 h.1
      have htail := ih h.2
      rw [cutToSlots] at htail
      rw [List.map_cons, cutToSlots, List.zipWith_cons_cons, hhead, htail]

namespace Instr

theorem length_operands (i : Instr) : i.operands.length = i.mnemonic.operandCount :=
  i.fits_operands.length_eq.trans i.mnemonic.length_slots

section OfOperands

variable {m : Mnemonic} {vs : List Int64} {i : Instr}

theorem ofOperands_eq_ok_iff :
    ofOperands m vs = .ok i ↔
      m.operandCount = vs.length ∧ i.mnemonic = m ∧ i.operands = cutToSlots m.slots vs := by
  unfold ofOperands
  split
  · next hcount =>
    simp only [Except.ok.injEq, hcount, true_and]
    constructor
    · rintro rfl
      exact ⟨rfl, rfl⟩
    · rintro ⟨hm, hoperands⟩
      exact ext hm.symm hoperands.symm
  · next hcount => simp [hcount]

theorem ofOperands_eq_error_iff {n : OperandCount} :
    ofOperands m vs = .error n ↔
      m.operandCount ≠ vs.length ∧ n = ⟨m.operandCount, vs.length⟩ := by
  unfold ofOperands
  split
  · next h => simp [h]
  · next h => simp [h, eq_comm]

theorem length_of_ofOperands (h : ofOperands m vs = .ok i) : vs.length = m.operandCount :=
  (ofOperands_eq_ok_iff.mp h).1.symm

theorem mnemonic_of_ofOperands (h : ofOperands m vs = .ok i) : i.mnemonic = m :=
  (ofOperands_eq_ok_iff.mp h).2.1

end OfOperands

theorem ofOperands_operands (i : Instr) :
    ofOperands i.mnemonic (i.operands.map fun v => Int64.ofInt v.toNat) = .ok i := by
  have hcount : i.mnemonic.operandCount =
      (i.operands.map fun v => Int64.ofInt v.toNat).length := by
    rw [List.length_map, i.length_operands]
  exact ofOperands_eq_ok_iff.mpr ⟨hcount, rfl, (cutToSlots_of_fits i.fits_operands).symm⟩

end Instr

end ByteBench
