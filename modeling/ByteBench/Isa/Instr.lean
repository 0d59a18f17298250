import ByteBench.Isa.Opcode

/-!
# Instructions and instruction words

An instruction is a mnemonic with one value for each of its operands. Every instruction has a word
of eight bits, and every byte is read as an instruction. Reading gives back what was written, but
for `NOP`: its word is zero, which is read as `ADD 0 0 0`.
Main statements: `fits_cutToSlots` (any integers fit once they are cut) and `fits_extract` (whatever
is read out of a word fits).
-/

namespace ByteBench

/-- One value for each slot, and each value within the width of its slot. -/
def Fits : List Slot → List UInt8 → Prop
  | [], [] => True
  | s :: ss, v :: vs => v.toNat < 1 <<< s.width ∧ Fits ss vs
  | _, _ => False

theorem Fits.length_eq {ss : List Slot} {vs : List UInt8} (h : Fits ss vs) :
    vs.length = ss.length := by
  induction ss generalizing vs with
  | nil =>
    cases vs with
    | nil => rfl
    | cons v vs => exact h.elim
  | cons s ss ih =>
    cases vs with
    | nil => exact h.elim
    | cons v vs =>
      simp only [List.length_cons]
      rw [ih h.2]

theorem fits_extract (ss : List Slot) (b : UInt8) : Fits ss (ss.map (·.extract b)) := by
  induction ss with
  | nil => trivial
  | cons s ss ih => exact ⟨s.toNat_extract_lt b, ih⟩

/-- Integers cut to the widths of the slots, one for each. -/
def cutToSlots (ss : List Slot) (vs : List Int64) : List UInt8 :=
  List.zipWith (fun s v => (Field.ofInt64 s.width v).byte) ss vs

theorem fits_cutToSlots {ss : List Slot} {vs : List Int64} (h : ss.length = vs.length) :
    Fits ss (cutToSlots ss vs) := by
  induction ss generalizing vs with
  | nil =>
    cases vs with
    | nil => trivial
    | cons v vs => simp at h
  | cons s ss ih =>
    cases vs with
    | nil => simp at h
    | cons v vs =>
      simp only [List.length_cons, Nat.add_right_cancel_iff] at h
      exact ⟨(Field.ofInt64 s.width v).toNat_lt, ih h⟩

/-- The values moved into their slots and joined into one byte. -/
def packSlots : List Slot → List UInt8 → UInt8
  | s :: ss, v :: vs => s.place v ||| packSlots ss vs
  -- values that fit are as many as the slots, so nothing is left over here
  | _, _ => 0

/-- An instruction: a mnemonic and its operands, each within its field. -/
structure Instr where
  mnemonic : Mnemonic
  operands : List UInt8
  fits_operands : Fits mnemonic.slots operands

structure OperandCount where
  expected : Nat
  found : Nat
  deriving DecidableEq

namespace Instr

theorem ext {i j : Instr} (hm : i.mnemonic = j.mnemonic) (ho : i.operands = j.operands) :
    i = j := by
  cases i
  cases j
  cases hm
  cases ho
  rfl

instance : DecidableEq Instr := fun i j =>
  decidable_of_iff (i.mnemonic = j.mnemonic ∧ i.operands = j.operands)
    ⟨fun h => ext h.1 h.2, fun h => h ▸ ⟨rfl, rfl⟩⟩

/-- The instruction with the given operands, each cut to the width of its field. Only their number
can be wrong. -/
def ofOperands (m : Mnemonic) (vs : List Int64) : Except OperandCount Instr :=
  if h : m.operandCount = vs.length then
    .ok ⟨m, cutToSlots m.slots vs, fits_cutToSlots (m.length_slots.trans h)⟩
  else
    .error ⟨m.operandCount, vs.length⟩

def opcode? (i : Instr) : Option Opcode := i.mnemonic.opcode?

def shape (i : Instr) : Shape := i.mnemonic.shape

def text (i : Instr) : String :=
  i.mnemonic.name ++ String.join (i.operands.map fun v => " " ++ toString v.toNat)

def nopWord : UInt8 := 0

/-- The word of an instruction: its opcode above, its operands in the slots of its shape below. -/
def encode (i : Instr) : UInt8 :=
  match i.mnemonic with
  | .nop => nopWord
  | .op o => Opcode.slot.place o.codeByte ||| packSlots o.shape.slots i.operands

/-- The instruction of a word. The opcode says how the bits below it are read; bits that belong to
no slot, such as the lowest one of a move, are passed over. -/
def decode (word : UInt8) : Instr :=
  let o := Opcode.ofByte (Opcode.slot.extract word)
  ⟨.op o, o.shape.slots.map (·.extract word), fits_extract _ word⟩

end Instr

end ByteBench
