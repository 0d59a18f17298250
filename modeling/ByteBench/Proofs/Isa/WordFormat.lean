import ByteBench.Proofs.Isa.Encoding
import ByteBench.Proofs.Isa.Operands
import Mathlib.Algebra.BigOperators.Ring.Finset
import Mathlib.Data.Int.ModEq

/-!
# The format of instruction words

Fields that do not overlap add up to the word. Main statements: `toNat_packSlots`, what slots below
one another hold is a sum; `arrange?_eq`, a mnemonic takes its operands in some form exactly if they
are as many as it has; and `ofOperands_format`, the word that any integers give.
-/

namespace ByteBench

/-- Whether a slot lies below another one. -/
def Slot.Above (s t : Slot) : Prop := t.shift + t.width ≤ s.shift

instance (s t : Slot) : Decidable (s.Above t) := inferInstanceAs (Decidable (_ ≤ _))

variable {s : Slot} {ss : List Slot} {v : UInt8} {k : Nat}

theorem Slot.shifted_lt (hv : v.toNat < 1 <<< s.width) :
    v.toNat * 2 ^ s.shift.val < 2 ^ (s.shift + s.width) := by
  rw [Nat.one_shiftLeft] at hv
  rw [Nat.pow_add, Nat.mul_comm (2 ^ s.shift.val)]
  exact Nat.mul_lt_mul_of_pos_right hv (Nat.two_pow_pos _)

theorem Slot.toNat_place (hs : s.shift + s.width ≤ 8) (hv : v.toNat < 1 <<< s.width) :
    (s.place v).toNat = v.toNat * 2 ^ s.shift.val := by
  have hkept : (v &&& s.mask).toNat = v.toNat := by
    rw [mask, toNat_and_lowMask]
    exact Nat.mod_eq_of_lt hv
  have hbyte : v.toNat * 2 ^ s.shift.val < 2 ^ 8 :=
    Nat.lt_of_lt_of_le (shifted_lt hv) (Nat.pow_le_pow_right (by omega) hs)
  simp only [place, UInt8.toNat_shiftLeft, toNat_shift, hkept, Nat.shiftLeft_eq]
  exact Nat.mod_eq_of_lt hbyte

theorem toNat_packSlots_lt {vs : List UInt8} (hfits : Fits ss vs) (hk : k ≤ 8)
    (hslots : ∀ s ∈ ss, s.shift + s.width ≤ k) : (packSlots ss vs).toNat < 2 ^ k := by
  induction ss generalizing vs with
  | nil =>
    have hzero : packSlots [] vs = 0 := rfl
    simp [hzero]
  | cons s ss ih =>
    cases vs with
    | nil => exact hfits.elim
    | cons v vs =>
      obtain ⟨hv, hvs⟩ := hfits
      obtain ⟨hs, hss⟩ := List.forall_mem_cons.mp hslots
      have hhead : (s.place v).toNat < 2 ^ k := by
        rw [Slot.toNat_place (by omega) hv]
        exact Nat.lt_of_lt_of_le (Slot.shifted_lt hv) (Nat.pow_le_pow_right (by omega) hs)
      simp only [packSlots, UInt8.toNat_or]
      exact Nat.or_lt_two_pow hhead (ih hvs hss)

/-- Where each slot lies below the ones before it, joining is adding. -/
theorem toNat_packSlots {vs : List UInt8} (hfits : Fits ss vs)
    (habove : ss.Pairwise Slot.Above) (hbyte : ∀ s ∈ ss, s.shift + s.width ≤ 8) :
    (packSlots ss vs).toNat = (List.zipWith (fun s v => v.toNat * 2 ^ s.shift.val) ss vs).sum := by
  induction ss generalizing vs with
  | nil => simp [packSlots]
  | cons s ss ih =>
    cases vs with
    | nil => exact hfits.elim
    | cons v vs =>
      obtain ⟨hv, hvs⟩ := hfits
      obtain ⟨hs, hss⟩ := List.forall_mem_cons.mp hbyte
      obtain ⟨hbelow, hrest⟩ := List.pairwise_cons.mp habove
      have hlow : (packSlots ss vs).toNat < 2 ^ s.shift.val :=
        toNat_packSlots_lt hvs (by omega) hbelow
      have hadd := Nat.shiftLeft_add_eq_or_of_lt hlow v.toNat
      simp only [packSlots, UInt8.toNat_or, Slot.toNat_place hs hv, List.zipWith_cons_cons,
        List.sum_cons, ← ih hvs hrest hss]
      rw [Nat.shiftLeft_eq] at hadd
      exact hadd.symm

/-- The remainders of integers by the widths of slots, none of them negative. -/
def residues (ss : List Slot) (vs : List Int64) : List Int :=
  List.zipWith (fun s v => v.toInt % 2 ^ s.width) ss vs

theorem map_cutToSlots (hss : ∀ s ∈ ss, s.shift + s.width ≤ 8) (vs : List Int64) :
    (cutToSlots ss vs).map (fun v => (v.toNat : Int)) = residues ss vs := by
  induction ss generalizing vs with
  | nil => rfl
  | cons s ss ih =>
    cases vs with
    | nil => rfl
    | cons v vs =>
      obtain ⟨hs, hrest⟩ := List.forall_mem_cons.mp hss
      have hdvd : (2 ^ s.width : Int) ∣ 2 ^ 8 := pow_dvd_pow 2 (by omega)
      have hhead : ((Field.ofInt64 s.width v).byte.toNat : Int) = v.toInt % 2 ^ s.width := by
        rw [Field.toNat_ofInt64, Int.emod_emod_of_dvd _ hdvd]
      have htail := ih hrest vs
      simp only [cutToSlots, residues, List.zipWith_cons_cons, List.map_cons, hhead] at htail ⊢
      rw [htail]

/-- Integers that agree in each place up to the width of its slot. -/
def Agree (ss : List Slot) (vs vs' : List Int64) : Prop :=
  ∀ (j : Nat) (s : Slot) (v v' : Int64), ss[j]? = some s → vs[j]? = some v → vs'[j]? = some v' →
    v.toInt ≡ v'.toInt [ZMOD 2 ^ s.width]

theorem residues_eq_iff {vs vs' : List Int64} (h : ss.length = vs.length)
    (h' : ss.length = vs'.length) : residues ss vs = residues ss vs' ↔ Agree ss vs vs' := by
  constructor
  · intro heq j s v v' hs hv hv'
    have hj := congrArg (·[j]?) heq
    simpa [Int.ModEq, residues, List.getElem?_zipWith, hs, hv, hv'] using hj
  · intro hagree
    apply List.ext_getElem
    · simp [residues, ← h, ← h']
    · intro j hj hj'
      simp only [residues, List.length_zipWith, Nat.lt_min] at hj hj'
      simp only [residues, List.getElem_zipWith]
      exact hagree j _ _ _ (List.getElem?_eq_getElem _) (List.getElem?_eq_getElem _)
        (List.getElem?_eq_getElem _)

namespace Opcode

theorem above_wordSlots (o : Opcode) : o.wordSlots.Pairwise Slot.Above := by
  rw [wordSlots]
  cases o.shape <;> decide

end Opcode

/-- The number that stands in the upper four bits of a word. -/
def Mnemonic.code : Mnemonic → Nat
  | op o => o.code
  | nop => 0

theorem Mnemonic.le_of_mem_slots (m : Mnemonic) : ∀ s ∈ m.slots, s.shift + s.width ≤ 8 := by
  rw [slots]
  cases m.shape <;> decide

namespace Instr

/-- The instruction that the zero word is read as. -/
def addZeros : Instr := ⟨.op .add, [0, 0, 0], ⟨by decide, by decide, by decide, trivial⟩⟩

/-- The byte of a field of `w` bits that takes an integer. -/
def fieldByte (w : Nat) (v : Int64) : UInt8 := (Field.ofInt64 w v).byte

theorem fieldByte_lt (w : Nat) (v : Int64) : (fieldByte w v).toNat < 1 <<< w :=
  (Field.ofInt64 w v).toNat_lt

/-- What a mnemonic and its operands make up, form by form. The number of operands is not compared
with what the mnemonic takes: a form is found by the opcode and by how many operands there are. -/
def arrange? (m : Mnemonic) (vs : List Int64) : Option Instr :=
  match m, vs with
  | .nop, [] => some ⟨.nop, [], trivial⟩
  | .op .b, [cond, target] =>
    some ⟨.op .b, [fieldByte 2 cond, fieldByte 2 target],
      ⟨fieldByte_lt 2 cond, fieldByte_lt 2 target, trivial⟩⟩
  | .op .cmp, [op1, op2] =>
    some ⟨.op .cmp, [fieldByte 2 op1, fieldByte 2 op2],
      ⟨fieldByte_lt 2 op1, fieldByte_lt 2 op2, trivial⟩⟩
  | .op o, [rd, ra, rb] =>
    if h : o.shape = .alu then
      some ⟨.op o, [fieldByte 1 rd, fieldByte 1 ra, fieldByte 2 rb], by
        rw [Mnemonic.slots, Mnemonic.shape, h]
        exact ⟨fieldByte_lt 1 rd, fieldByte_lt 1 ra, fieldByte_lt 2 rb, trivial⟩⟩
    else none
  | .op o, [reg, addr] =>
    if h : o.shape = .mem then
      some ⟨.op o, [fieldByte 2 reg, fieldByte 2 addr], by
        rw [Mnemonic.slots, Mnemonic.shape, h]
        exact ⟨fieldByte_lt 2 reg, fieldByte_lt 2 addr, trivial⟩⟩
    else none
  | .op o, [reg] =>
    if h : o.shape = .mov then
      some ⟨.op o, [fieldByte 3 reg], by
        rw [Mnemonic.slots, Mnemonic.shape, h]
        exact ⟨fieldByte_lt 3 reg, trivial⟩⟩
    else none
  | _, _ => none

variable {m : Mnemonic} {vs : List Int64} {i : Instr}

theorem toOption_ofOperands (hcount : m.operandCount = vs.length) (hm : i.mnemonic = m)
    (hoperands : i.operands = cutToSlots m.slots vs) : (ofOperands m vs).toOption = some i := by
  rw [ofOperands_eq_ok_iff.mpr ⟨hcount, hm, hoperands⟩]
  rfl

theorem toOption_ofOperands_of_shape {o : Opcode} {form : Shape} (h : o.shape = form)
    (hcount : form.operandCount = vs.length) (hm : i.mnemonic = .op o)
    (hoperands : i.operands = cutToSlots form.slots vs) :
    (ofOperands (.op o) vs).toOption = some i := by
  subst h
  exact toOption_ofOperands hcount hm hoperands

theorem toOption_ofOperands_eq_none (hcount : m.operandCount ≠ vs.length) :
    (ofOperands m vs).toOption = none := by
  rw [ofOperands_eq_error_iff.mpr ⟨hcount, rfl⟩]
  rfl

theorem shape_of_operandCount (o : Opcode) :
    (o.shape.operandCount = 1 → o.shape = .mov) ∧
    (o.shape.operandCount = 2 → o = .b ∨ o = .cmp ∨ o.shape = .mem) ∧
    (o.shape.operandCount = 3 → o.shape = .alu) ∧
    1 ≤ o.shape.operandCount ∧ o.shape.operandCount ≤ 3 := by
  cases o <;> decide

/-- There is a form for a mnemonic and operands exactly if they are as many as it takes. -/
theorem arrange?_eq (m : Mnemonic) (vs : List Int64) :
    arrange? m vs = (ofOperands m vs).toOption := by
  unfold arrange?
  split
  · exact (toOption_ofOperands rfl rfl rfl).symm
  · exact (toOption_ofOperands rfl rfl rfl).symm
  · exact (toOption_ofOperands rfl rfl rfl).symm
  · next o rd ra rb =>
    split
    · next h => exact (toOption_ofOperands_of_shape h rfl rfl rfl).symm
    · next h =>
      refine (toOption_ofOperands_eq_none fun hcount => h ?_).symm
      exact (shape_of_operandCount o).2.2.1 hcount
  · next o reg addr hb hcmp =>
    split
    · next h => exact (toOption_ofOperands_of_shape h rfl rfl rfl).symm
    · next h =>
      refine (toOption_ofOperands_eq_none fun hcount => ?_).symm
      rcases (shape_of_operandCount o).2.1 hcount with rfl | rfl | hmem
      · exact hb rfl
      · exact hcmp rfl
      · exact h hmem
  · next o reg =>
    split
    · next h => exact (toOption_ofOperands_of_shape h rfl rfl rfl).symm
    · next h =>
      refine (toOption_ofOperands_eq_none fun hcount => h ?_).symm
      exact (shape_of_operandCount o).1 hcount
  · next hnop _ _ hthree htwo hone =>
    -- a number of operands for which there is no form is not that of any mnemonic
    refine (toOption_ofOperands_eq_none fun hcount => ?_).symm
    cases m with
    | nop =>
      have hnil : vs = [] := List.length_eq_zero_iff.mp hcount.symm
      exact hnop rfl hnil
    | op o =>
      obtain ⟨-, -, -, hlow, hhigh⟩ := shape_of_operandCount o
      have hlength : vs.length = 1 ∨ vs.length = 2 ∨ vs.length = 3 := by
        have hcount' : o.shape.operandCount = vs.length := hcount
        omega
      rcases hlength with h | h | h
      · obtain ⟨reg, hvs⟩ := List.length_eq_one_iff.mp h
        exact hone o reg rfl hvs
      · obtain ⟨reg, addr, hvs⟩ := List.length_eq_two.mp h
        exact htwo o reg addr rfl hvs
      · obtain ⟨rd, ra, rb, hvs⟩ := List.length_eq_three.mp h
        exact hthree o rd ra rb rfl hvs

/-- The number that an instruction is encoded as: the code of its mnemonic above, and the remainders
of its operands, each in its place. -/
def wordNumber (m : Mnemonic) (vs : List Int64) : Int :=
  16 * m.code + (List.zipWith (fun s r => r * 2 ^ s.shift.val) m.slots (residues m.slots vs)).sum

/-- What an instruction is that a mnemonic and integers gave. -/
structure Formatted (m : Mnemonic) (vs : List Int64) (i : Instr) : Prop where
  mnemonic_eq : i.mnemonic = m
  operands_eq : i.operands.map (fun v => (v.toNat : Int)) = residues m.slots vs
  encode_eq : (i.encode.toNat : Int) = wordNumber m vs
  decode_eq : decode i.encode = if m = .nop then addZeros else i

theorem toNat_encode {o : Opcode} (h : i.mnemonic = .op o) :
    i.encode.toNat =
      16 * o.code + (List.zipWith (fun s v => v.toNat * 2 ^ s.shift.val) o.shape.slots
        i.operands).sum := by
  have hsum := toNat_packSlots (fits_wordSlots h) o.above_wordSlots o.le_of_mem_wordSlots
  rw [encode_eq h, hsum, Opcode.wordSlots, List.zipWith_cons_cons, List.sum_cons,
    Opcode.toNat_codeByte, Nat.mul_comm]
  rfl

theorem encode_of_nop (h : i.mnemonic = .nop) : i.encode = 0 := by
  rw [encode, h]
  rfl

theorem formatted (h : ofOperands m vs = .ok i) : Formatted m vs i := by
  obtain ⟨-, hm, hvs⟩ := ofOperands_eq_ok_iff.mp h
  have hoperands : i.operands.map (fun v => (v.toNat : Int)) = residues m.slots vs := by
    rw [hvs]
    exact map_cutToSlots m.le_of_mem_slots vs
  refine ⟨hm, hoperands, ?_, ?_⟩
  · cases m with
    | nop =>
      rw [encode_of_nop hm]
      rfl
    | op o =>
      rw [toNat_encode hm, wordNumber, ← hoperands, List.zipWith_map_right]
      push_cast [Nat.cast_list_sum, List.map_zipWith]
      rfl
  · cases m with
    | nop =>
      rw [encode_of_nop hm]
      rfl
    | op o => exact decode_encode hm

theorem encode_eq_iff {vs' : List Int64} {i' : Instr} (h : ofOperands m vs = .ok i)
    (h' : ofOperands m vs' = .ok i') : i.encode = i'.encode ↔ Agree m.slots vs vs' := by
  obtain ⟨hm, hoperands, hencode, hdecode⟩ := formatted h
  obtain ⟨hm', hoperands', hencode', hdecode'⟩ := formatted h'
  rw [← residues_eq_iff (m.length_slots.trans (length_of_ofOperands h).symm)
    (m.length_slots.trans (length_of_ofOperands h').symm)]
  constructor
  · intro heq
    cases m with
    | nop => rfl
    | op o =>
      have hsame : i = i' := by
        rw [← decode_encode hm, heq, decode_encode hm']
      rw [← hoperands, hsame, hoperands']
  · intro heq
    have hnumber : wordNumber m vs = wordNumber m vs' := by rw [wordNumber, wordNumber, heq]
    rw [← hencode, ← hencode'] at hnumber
    exact UInt8.toNat_inj.mp (by exact_mod_cast hnumber)

/-- What a mnemonic and any integers give: a complaint about their number, or an instruction of
which the word is made of their remainders, so that these are all that the word says of them. -/
theorem ofOperands_format (m : Mnemonic) (vs : List Int64) :
    (∀ n, ofOperands m vs = .error n ↔
      m.operandCount ≠ vs.length ∧ n = ⟨m.operandCount, vs.length⟩) ∧
    arrange? m vs = (ofOperands m vs).toOption ∧
    (Opcode.slot :: m.slots).Pairwise Slot.Apart ∧
    ∀ i, ofOperands m vs = .ok i →
      Formatted m vs i ∧
        ∀ vs' i', ofOperands m vs' = .ok i' → (i.encode = i'.encode ↔ Agree m.slots vs vs') := by
  refine ⟨fun n => ofOperands_eq_error_iff, arrange?_eq m vs, ?_, ?_⟩
  · cases m with
    | nop => decide
    | op o => exact o.pairwise_wordSlots
  · intro i h
    exact ⟨formatted h, fun vs' i' h' => encode_eq_iff h h'⟩

example : (ofOperands (.op .mov2) [-1]).toOption.map encode = some 0xFE := by decide

end Instr

end ByteBench
