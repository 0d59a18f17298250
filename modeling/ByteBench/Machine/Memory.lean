/-!
# Memories

A memory holds 256 bytes. It is addressed with sixteen bits, of which the low eight count, so that
addresses repeat every 256 bytes. At power-on its bytes are drawn one after the other from a source.
Main statements: `get_set` and `get_clear`, what is read after a write and after a clear, and
`get_fill`, which byte of the source is at an address.
-/

namespace ByteBench

/-- Something that bytes can be drawn from. -/
class ByteSource (σ : Type) where
  next : σ → UInt8 × σ

namespace ByteSource

variable {σ : Type} [ByteSource σ]

def draw : (n : Nat) → σ → Vector UInt8 n × σ
  | 0, s => (#v[], s)
  | n + 1, s =>
    let (bytes, s) := draw n s
    let (byte, s) := next s
    (bytes.push byte, s)

def drop (n : Nat) (s : σ) : σ := (draw n s).2

def byteAt (s : σ) (n : Nat) : UInt8 := (next (drop n s)).1

theorem getElem_draw (n i : Nat) (s : σ) (h : i < n) : (draw n s).1[i] = byteAt s i := by
  -- the last byte drawn is the only one that is not covered by what is known of shorter draws
  induction n with
  | zero => omega
  | succ n ih =>
    have hd : (draw (n + 1) s).1 = (draw n s).1.push (next (draw n s).2).1 := rfl
    simp only [hd, Vector.getElem_push]
    by_cases hi : i < n
    · rw [dif_pos hi]
      exact ih hi
    · have he : i = n := by omega
      subst he
      rw [dif_neg hi]
      rfl

end ByteSource

structure Memory where
  bytes : Vector UInt8 256
  deriving DecidableEq

namespace Memory

def size : Nat := 256

/-- The byte that a sixteen-bit address stands for. -/
def index (address : UInt16) : Fin 256 := Fin.ofNat 256 address.toNat

def get (m : Memory) (address : UInt16) : UInt8 := m.bytes[index address]

def set (m : Memory) (address : UInt16) (byte : UInt8) : Memory :=
  ⟨m.bytes.set (index address) byte⟩

def zeros : Memory := ⟨Vector.replicate 256 0⟩

def clear (_ : Memory) : Memory := zeros

/-- A memory filled from a source, and what is left of the source. -/
def fill {σ : Type} [ByteSource σ] (s : σ) : Memory × σ :=
  (ByteSource.draw 256 s).map Memory.mk id

def toList (m : Memory) : List UInt8 := m.bytes.toList

/-- The bytes at the indices from `start` up to but not including `stop`. -/
def slice (m : Memory) (start stop : Nat) : List UInt8 :=
  (m.toList.take stop).drop start

theorem get_set (m : Memory) (a b : UInt16) (v : UInt8) :
    (m.set a v).get b = if index a = index b then v else m.get b := by
  simp only [get, set, Fin.getElem_fin, Vector.getElem_set, Fin.ext_iff]

@[simp] theorem get_clear (m : Memory) (a : UInt16) : m.clear.get a = 0 := by
  simp [get, clear, zeros]

theorem bytes_fill {σ : Type} [ByteSource σ] (s : σ) :
    (fill s).1.bytes = (ByteSource.draw 256 s).1 := by
  rw [fill, Prod.map_fst]

theorem get_fill {σ : Type} [ByteSource σ] (s : σ) (a : UInt16) :
    (fill s).1.get a = ByteSource.byteAt s (index a) := by
  have h := ByteSource.getElem_draw 256 (index a) s (index a).isLt
  rw [← bytes_fill] at h
  exact h

end Memory

end ByteBench
