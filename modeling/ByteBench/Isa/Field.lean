/-!
# Bit fields of a byte

An operand is kept in a field of `w` bits. A field takes any integer and keeps its low `w` bits;
nothing is ever rejected. A `Slot` says where in an instruction word such a field lies.
Main statements: `Field.toNat_lt` (a field of `w` bits stays below `2 ^ w`) and `toNat_and_lowMask`
(masking is the remainder by `2 ^ w`).
-/

namespace ByteBench

/-- The bits kept by a field of `w` bits: the low byte of `2 ^ w - 1`. -/
def lowMask (w : Nat) : UInt8 := UInt8.ofNat ((1 <<< w) - 1)

theorem one_shiftLeft_pos (w : Nat) : 0 < 1 <<< w := by
  rw [Nat.one_shiftLeft]
  exact Nat.two_pow_pos w

theorem toNat_lowMask (w : Nat) : (lowMask w).toNat = ((1 <<< w) - 1) % UInt8.size :=
  UInt8.toNat_ofNat'

/-- Masking a byte to `w` bits is taking its remainder by `2 ^ w`. -/
theorem toNat_and_lowMask (w : Nat) (b : UInt8) :
    (b &&& lowMask w).toNat = b.toNat % (1 <<< w) := by
  -- the mask has been cut to a byte, but a byte has no bits that the cut could miss
  have hb : b.toNat % 2 ^ 8 = b.toNat := Nat.mod_eq_of_lt b.toNat_lt
  have hm : b.toNat &&& ((2 ^ w - 1) % 2 ^ 8) = (b.toNat &&& (2 ^ w - 1)) % 2 ^ 8 := by
    rw [Nat.and_mod_two_pow, hb]
  rw [Nat.one_shiftLeft, UInt8.toNat_and, toNat_lowMask, Nat.one_shiftLeft]
  show b.toNat &&& ((2 ^ w - 1) % 2 ^ 8) = b.toNat % 2 ^ w
  rw [hm, Nat.and_two_pow_sub_one_eq_mod]
  exact Nat.mod_eq_of_lt (Nat.lt_of_le_of_lt (Nat.mod_le _ _) b.toNat_lt)

/-- A value of `w` bits, kept in one byte. -/
structure Field (w : Nat) where
  byte : UInt8
  toNat_lt : byte.toNat < 1 <<< w
  deriving DecidableEq

namespace Field

variable {w : Nat}

def ofByte (w : Nat) (b : UInt8) : Field w :=
  ⟨b &&& lowMask w, by rw [toNat_and_lowMask]; exact Nat.mod_lt _ (one_shiftLeft_pos w)⟩

/-- The low `w` bits of the two's complement of an integer. -/
def ofInt64 (w : Nat) (v : Int64) : Field w :=
  ofByte w v.toUInt64.toUInt8

def zero (w : Nat) : Field w := ⟨0, one_shiftLeft_pos w⟩

theorem toNat_ofByte (b : UInt8) : (ofByte w b).byte.toNat = b.toNat % (1 <<< w) :=
  toNat_and_lowMask w b

end Field

/-- Where a field lies in a byte: the index of its lowest bit, and its number of bits. -/
structure Slot where
  shift : Fin 8
  width : Nat
  deriving DecidableEq

namespace Slot

def mask (s : Slot) : UInt8 := lowMask s.width

/-- Cuts `v` to the field's width and moves it into position; bits above bit 7 are lost. -/
def place (s : Slot) (v : UInt8) : UInt8 :=
  (v &&& s.mask) <<< UInt8.ofNat s.shift

def extract (s : Slot) (b : UInt8) : UInt8 :=
  (b >>> UInt8.ofNat s.shift) &&& s.mask

theorem toNat_extract_lt (s : Slot) (b : UInt8) : (s.extract b).toNat < 1 <<< s.width := by
  rw [extract, mask, toNat_and_lowMask]
  exact Nat.mod_lt _ (one_shiftLeft_pos _)

end Slot

end ByteBench
