import ByteBench.Machine.Bus
import ByteBench.Proofs.Machine.Memory
import Mathlib.Data.List.Induction
import Mathlib.Logic.Function.Iterate

/-!
# What a memory holds

At power-on a memory holds the bytes of a source in their order, and after that what was written to
it last. Addresses that are alike modulo 256 stand for one byte, so that a write to one of them is
read at all of them. Main statement: `contents_editAll`, what is read at any address after any
writes and clears.
-/

namespace ByteBench

namespace ByteSource

variable {σ : Type} [ByteSource σ]

/-- A source from which one byte has been drawn. -/
def rest (s : σ) : σ := (next s).2

/-- The byte that is drawn after `n` others. -/
def nth (s : σ) (n : Nat) : UInt8 := (next (rest^[n] s)).1

theorem drop_eq (n : Nat) (s : σ) : drop n s = rest^[n] s := by
  induction n with
  | zero => rfl
  | succ n ih =>
    rw [Function.iterate_succ_apply', ← ih]
    rfl

theorem byteAt_eq (s : σ) (n : Nat) : byteAt s n = nth s n := by
  rw [byteAt, drop_eq, nth]

theorem nth_iterate (s : σ) (m n : Nat) : nth (rest^[m] s) n = nth s (m + n) := by
  rw [nth, nth, Nat.add_comm, Function.iterate_add_apply]

end ByteSource

namespace Memory

open ByteSource

inductive Edit
  | set (address : UInt16) (byte : UInt8)
  | clear
  deriving DecidableEq

/-- The byte that an edit writes, if it writes to this address or to one that is alike. -/
def Edit.written? (address : UInt16) : Edit → Option UInt8
  | set a byte => if a.toNat % 256 = address.toNat % 256 then some byte else none
  | clear => none

def edit (m : Memory) : Edit → Memory
  | .set address byte => m.set address byte
  | .clear => m.clear

def editAll (m : Memory) (edits : List Edit) : Memory := edits.foldl edit m

/-- The byte that was written to an address last, if one was since the last clear. -/
def lastWritten? (address : UInt16) (edits : List Edit) : Option UInt8 :=
  (edits.reverse.takeWhile (· ≠ .clear)).findSome? (Edit.written? address)

variable {σ : Type} [ByteSource σ] {address : UInt16} {edits : List Edit}

theorem lastWritten?_clear : lastWritten? address (edits ++ [.clear]) = none := by
  simp [lastWritten?]

theorem lastWritten?_set (a : UInt16) (byte : UInt8) :
    lastWritten? address (edits ++ [.set a byte]) =
      if a.toNat % 256 = address.toNat % 256 then some byte else lastWritten? address edits := by
  by_cases h : a.toNat % 256 = address.toNat % 256
  · simp [lastWritten?, Edit.written?, h]
  · simp [lastWritten?, Edit.written?, h]

theorem editAll_append (m : Memory) (e : Edit) :
    m.editAll (edits ++ [e]) = (m.editAll edits).edit e := by
  simp [editAll]

/-- One more edit shows at the addresses that it is about. -/
theorem get_editAll (m : Memory) (edits : List Edit) (address : UInt16) :
    (m.editAll edits).get address =
      (lastWritten? address edits).getD (if .clear ∈ edits then 0 else m.get address) := by
  induction edits using List.reverseRecOn with
  | nil => rfl
  | append_singleton edits e ih =>
    rw [editAll_append]
    cases e with
    | clear => simp [edit, lastWritten?_clear]
    | set a byte =>
      rw [edit, get_set, lastWritten?_set, ih]
      simp only [index_eq_iff]
      split <;> simp

theorem length_toList (m : Memory) : m.toList.length = 256 := by simp [toList]

theorem getElem?_toList (m : Memory) (address : UInt16) :
    m.toList[(index address).val]? = some (m.get address) := by
  simp [toList, get]

theorem toList_eq (m : Memory) : m.toList = (List.range 256).map fun i => m.get (.ofNat i) := by
  apply List.ext_getElem
  · simp [length_toList]
  · intro i hi _
    rw [length_toList] at hi
    simp [toList, get_ofNat, Nat.mod_eq_of_lt hi]

theorem fill_snd (s : σ) : (fill s).2 = rest^[256] s := by
  rw [← drop_eq, drop, fill, Prod.map_snd]
  rfl

theorem get_fill_eq (s : σ) (address : UInt16) :
    (fill s).1.get address = nth s (address.toNat % 256) := by
  rw [get_fill, byteAt_eq]
  rfl

theorem ofSource_eq (s : σ) :
    Bus.ofSource s = { program := (fill s).1, data := (fill (fill s).2).1 } := by
  -- the first fill is made a variable, so that none of its draws is unfolded
  unfold Bus.ofSource
  generalize fill s = first
  obtain ⟨program, left⟩ := first
  dsimp only

theorem get_ofSource (s : σ) (address : UInt16) :
    (Bus.ofSource s).program.get address = nth s (address.toNat % 256) ∧
      (Bus.ofSource s).data.get address = nth s (256 + address.toNat % 256) := by
  rw [ofSource_eq]
  dsimp only
  rw [get_fill_eq, get_fill_eq, fill_snd, nth_iterate]
  exact ⟨rfl, rfl⟩

/-- What can be read of a memory that was filled from `s` and edited. -/
structure Contents (s : σ) (edits : List Edit) (m : Memory) : Prop where
  get_eq : ∀ address, m.get address =
    (lastWritten? address edits).getD
      (if .clear ∈ edits then 0 else nth s (address.toNat % 256))
  /-- Every address stands for one of the bytes. -/
  index_lt : ∀ address, (index address).val < m.toList.length
  getElem?_index : ∀ address, m.toList[(index address).val]? = some (m.get address)
  toList_eq : m.toList = (List.range 256).map fun i => m.get (.ofNat i)

theorem contents_editAll :
    (∀ {σ : Type} [ByteSource σ] (s : σ),
      (fill s).2 = rest^[256] s ∧ ∀ edits, Contents s edits ((fill s).1.editAll edits)) ∧
    (∀ {G : Type} [SeededSource G] (noise : Nat → UInt8) (p : PowerOn) (address : UInt16),
      (Bus.powerOn (G := G) noise p).program.get address =
        nth (p.source noise : PowerOnSource G) (address.toNat % 256) ∧
      (Bus.powerOn (G := G) noise p).data.get address =
        nth (p.source noise : PowerOnSource G) (256 + address.toNat % 256)) := by
  constructor
  · intro σ _ s
    refine ⟨fill_snd s, ?_⟩
    intro edits
    refine ⟨?_, ?_, getElem?_toList _, toList_eq _⟩
    · intro address
      rw [get_editAll, get_fill_eq]
    · intro address
      rw [length_toList]
      exact (index address).isLt
  · intro G _ noise p address
    exact get_ofSource _ address

example (m : Memory) : (m.editAll [.set 0x0FF 1, .set 0x100 2, .set 0x1FF 3]).get 0xFFFF = 3 := by
  rw [get_editAll]
  rfl

end Memory

end ByteBench
