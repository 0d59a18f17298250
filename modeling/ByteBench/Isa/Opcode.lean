import ByteBench.Isa.Field

/-!
# Opcodes, shapes and mnemonics

The upper four bits of an instruction word hold its opcode; the opcode's shape says how the lower
four bits are divided among the operands. A mnemonic names an opcode, or is the word `NOP`, which
has no opcode of its own. Main statements: `Opcode.ofCode_code` and `Opcode.code_ofCode` (codes and
opcodes are in bijection) and `Mnemonic.lookup?_name` (every mnemonic is found by its name).
-/

namespace ByteBench

inductive Shape
  | alu | mem | branch | cmp | mov | nop
  deriving DecidableEq

namespace Shape

/-- The operands of a shape, in the order in which they are written, each with its place. -/
def layout : Shape → List (String × Slot)
  | alu => [("rd", ⟨3, 1⟩), ("ra", ⟨2, 1⟩), ("rb", ⟨0, 2⟩)]
  | mem => [("reg", ⟨2, 2⟩), ("addr", ⟨0, 2⟩)]
  | branch => [("cond", ⟨2, 2⟩), ("target", ⟨0, 2⟩)]
  | cmp => [("op1", ⟨2, 2⟩), ("op2", ⟨0, 2⟩)]
  | mov => [("reg", ⟨1, 3⟩)]
  | nop => []

def operandNames (s : Shape) : List String := s.layout.map (·.1)

def slots (s : Shape) : List Slot := s.layout.map (·.2)

def operandCount (s : Shape) : Nat := s.layout.length

def name : Shape → String
  | alu => "Alu"
  | mem => "Mem"
  | branch => "Branch"
  | cmp => "Cmp"
  | mov => "Mov"
  | nop => "Nop"

theorem length_slots (s : Shape) : s.slots.length = s.operandCount := by
  simp [slots, operandCount]

end Shape

/-- The sixteen operations of the processor, in the order of their codes. -/
inductive Opcode
  | add | addi | sub | subi | and | or | xor | not
  | lsl | lsr | ldur | stor | cmp | b | mov1 | mov2
  deriving DecidableEq

namespace Opcode

def all : Vector Opcode 16 :=
  #v[add, addi, sub, subi, and, or, xor, not, lsl, lsr, ldur, stor, cmp, b, mov1, mov2]

def code : Opcode → Fin 16
  | add => 0
  | addi => 1
  | sub => 2
  | subi => 3
  | and => 4
  | or => 5
  | xor => 6
  | not => 7
  | lsl => 8
  | lsr => 9
  | ldur => 10
  | stor => 11
  | cmp => 12
  | b => 13
  | mov1 => 14
  | mov2 => 15

def slot : Slot := ⟨4, 4⟩

def codeByte (o : Opcode) : UInt8 := UInt8.ofNat o.code

def ofCode (c : Fin 16) : Opcode := all[c]

def ofByte (byte : UInt8) : Opcode := ofCode (Fin.ofNat 16 byte.toNat)

@[simp] theorem ofCode_code (o : Opcode) : ofCode o.code = o := by
  cases o <;> rfl

@[simp] theorem code_ofCode (c : Fin 16) : (ofCode c).code = c := by
  revert c
  decide

/-- Opcodes are ordered by their codes. -/
instance : Ord Opcode where
  compare x y := compare x.code y.code

def shape : Opcode → Shape
  | add | addi | sub | subi | and | or | xor | not | lsl | lsr => .alu
  | ldur | stor => .mem
  | cmp => .cmp
  | b => .branch
  | mov1 | mov2 => .mov

def ofShape (s : Shape) : List Opcode := all.toList.filter (·.shape = s)

def name : Opcode → String
  | add => "Add"
  | addi => "Addi"
  | sub => "Sub"
  | subi => "Subi"
  | and => "And"
  | or => "Or"
  | xor => "Xor"
  | not => "Not"
  | lsl => "Lsl"
  | lsr => "Lsr"
  | ldur => "Ldur"
  | stor => "Stor"
  | cmp => "Cmp"
  | b => "B"
  | mov1 => "Mov1"
  | mov2 => "Mov2"

end Opcode

/-- The words that begin a source line: one for each opcode, and `NOP`. -/
inductive Mnemonic
  | op (o : Opcode)
  | nop
  deriving DecidableEq

namespace Mnemonic

/-- Every mnemonic: those of the opcodes in the order of their codes, then `NOP`. -/
def all : List Mnemonic := Opcode.all.toList.map op ++ [nop]

def name : Mnemonic → String
  | op .add => "ADD"
  | op .addi => "ADDI"
  | op .sub => "SUB"
  | op .subi => "SUBI"
  | op .and => "AND"
  | op .or => "OR"
  | op .xor => "XOR"
  | op .not => "NOT"
  | op .lsl => "LSL"
  | op .lsr => "LSR"
  | op .ldur => "LDUR"
  | op .stor => "STOR"
  | op .cmp => "CMP"
  | op .b => "B"
  | op .mov1 => "MOV1"
  | op .mov2 => "MOV2"
  | nop => "NOP"

def opcode? : Mnemonic → Option Opcode
  | op o => some o
  | nop => none

def shape : Mnemonic → Shape
  | op o => o.shape
  | nop => .nop

def slots (m : Mnemonic) : List Slot := m.shape.slots

def operandCount (m : Mnemonic) : Nat := m.shape.operandCount

/-- The mnemonic that a word names. Case does not matter, but only ASCII letters have case here, so
that no letter of another script stands for one of them. -/
def lookup? (word : List Char) : Option Mnemonic :=
  all.find? fun m => m.name.toList = word.map Char.toUpper

theorem mem_all (m : Mnemonic) : m ∈ all := by
  rcases m with o | _
  · cases o <;> decide
  · decide

theorem length_slots (m : Mnemonic) : m.slots.length = m.operandCount :=
  m.shape.length_slots

/-- Every mnemonic is found by its name, so no two have the same one. -/
theorem lookup?_name (m : Mnemonic) : lookup? m.name.toList = some m := by
  rcases m with o | _
  · cases o <;> decide
  · decide

end Mnemonic

end ByteBench
