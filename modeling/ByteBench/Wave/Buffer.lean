import ByteBench.Wave.Sample

/-!
# Sample buffers

A buffer collects samples from any number of handles. Somebody else may hold guards on the buffer,
to read it or to write it; a sample that comes while a guard is held, or through a handle that has
been closed, is lost.
Main statement: `samples_dump`, a buffer grows by exactly the samples that it takes.
-/

namespace ByteBench

inductive Guard
  | reading | writing
  deriving DecidableEq

structure Buffer where
  samples : Array Sample := #[]
  /-- The guards that are held, the newest first. -/
  guards : List Guard := []
  /-- For each handle whether it is open. -/
  handles : Array Bool := #[true]

namespace Buffer

def accepts (b : Buffer) (handle : Nat) : Bool :=
  b.handles.getD handle false && b.guards.isEmpty

def dump (handle : Nat) (s : Sample) (b : Buffer) : Buffer :=
  if b.accepts handle then { b with samples := b.samples.push s } else b

def close (handle : Nat) (b : Buffer) : Buffer :=
  { b with handles := b.handles.setIfInBounds handle false }

def connect (b : Buffer) : Buffer := { b with handles := b.handles.push true }

/-- Makes another handle, as open as the one that it is copied from. -/
def copy (handle : Nat) (b : Buffer) : Buffer :=
  { b with handles := b.handles.push (b.handles.getD handle false) }

/-- Whether a guard can be had: writing excludes every other guard. -/
def grants (b : Buffer) : Guard → Bool
  | .reading => !b.guards.contains .writing
  | .writing => b.guards.isEmpty

def hold (g : Guard) (b : Buffer) : Buffer :=
  if b.grants g then { b with guards := g :: b.guards } else b

def release (b : Buffer) : Buffer := { b with guards := b.guards.tail }

/-- The samples, unless somebody is writing. -/
def read? (b : Buffer) : Option (Array Sample) :=
  if b.grants .reading then some b.samples else none

theorem samples_dump (handle : Nat) (s : Sample) (b : Buffer) :
    (b.dump handle s).samples.toList =
      b.samples.toList ++ if b.accepts handle then [s] else [] := by
  unfold dump
  split <;> simp

@[simp] theorem guards_dump (handle : Nat) (s : Sample) (b : Buffer) :
    (b.dump handle s).guards = b.guards := by
  unfold dump
  split <;> rfl

@[simp] theorem handles_dump (handle : Nat) (s : Sample) (b : Buffer) :
    (b.dump handle s).handles = b.handles := by
  unfold dump
  split <;> rfl

end Buffer

end ByteBench
