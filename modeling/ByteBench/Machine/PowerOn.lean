import ByteBench.Machine.Keystream

/-!
# Power-on contents

What memories hold before anything is written: noise that differs from one model to the next, noise
that a seed reproduces, or one byte everywhere. Where the noise of the first kind comes from is left
to the caller, and any generator can make that of the second kind.
-/

namespace ByteBench

inductive PowerOn
  | unseeded
  | seeded (seed : UInt64)
  | known (value : UInt8)
  deriving DecidableEq

/-- Bytes that grow by the same step, modulo 256. -/
structure Ramp where
  current : UInt8
  step : UInt8

instance : ByteSource Ramp where
  next r := (r.current, { r with current := r.current + r.step })

/-- A generator of noise that starts from a seed. -/
class SeededSource (G : Type) extends ByteSource G where
  ofSeed : UInt64 → G

/-- Where nothing says which generator it is, it is the keystream. -/
@[default_instance] instance : SeededSource Keystream where
  ofSeed := Keystream.ofSeed

/-- Noise that somebody else provides, by its position. -/
structure Noise where
  byteAt : Nat → UInt8
  position : Nat := 0

instance : ByteSource Noise where
  next n := (n.byteAt n.position, { n with position := n.position + 1 })

inductive PowerOnSource (G : Type)
  | noise (n : Noise)
  | seeded (g : G)
  | constant (byte : UInt8)

namespace PowerOnSource

variable {G : Type}

def next [ByteSource G] : PowerOnSource G → UInt8 × PowerOnSource G
  | noise n =>
    let (byte, n) := ByteSource.next n
    (byte, noise n)
  | seeded g =>
    let (byte, g) := ByteSource.next g
    (byte, seeded g)
  | constant byte => (byte, constant byte)

instance [ByteSource G] : ByteSource (PowerOnSource G) where
  next := next

@[default_instance] instance : ByteSource (PowerOnSource Keystream) where
  next := next

end PowerOnSource

/-- The source of a kind of power-on. Only `unseeded` looks at the noise, and only `seeded` at the
generator. -/
def PowerOn.source {G : Type} [SeededSource G] (byteAt : Nat → UInt8) : PowerOn → PowerOnSource G
  | unseeded => .noise { byteAt }
  | seeded seed => .seeded (SeededSource.ofSeed seed)
  | known value => .constant value

end ByteBench
