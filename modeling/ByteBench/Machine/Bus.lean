import ByteBench.Machine.PowerOn
import ByteBench.Machine.Processor

/-!
# A model of the memory bus

The bus model answers as the processor's memories do, without running any instruction. Program
memory is written and cleared on rising edges of the clock, data memory is read at once, and rising
edges outside service mode are counted. It can be told to finish or to fail after a number of
evaluations; an evaluation that fails changes nothing. Closes are counted in a word of 32 bits. What
evaluations count are natural numbers, below 2 ^ 64 as long as there are fewer evaluations than that.
Main statements: `eval_of_refusal` and `eval_of_accepted`, the two ways in which an evaluation ends,
`data_advance`, evaluations leave data memory alone, and `closes_close`, closes are counted modulo
2 ^ 32.
-/

namespace ByteBench

structure Bus where
  program : Memory
  data : Memory
  lastClock : Bool := false
  evals : Nat := 0
  programWrites : Nat := 0
  /-- The number of rising edges outside service mode since the last reset. -/
  runEdges : Nat := 0
  closeCount : UInt32 := 0
  /-- The number of evaluations after which the model has finished. -/
  finishAfter : Option Nat := none
  /-- The number of evaluations after which all others fail. -/
  faultAfter : Option Nat := none

namespace Bus

/-- A model whose memories are filled from one source, program memory first. -/
def ofSource {σ : Type} [ByteSource σ] (s : σ) : Bus :=
  let (program, rest) := Memory.fill s
  let (data, _) := Memory.fill rest
  { program, data }

/-- A model that has just been powered on. -/
def powerOn {G : Type} [SeededSource G] (byteAt : Nat → UInt8) (p : PowerOn) : Bus :=
  ofSource (p.source byteAt : PowerOnSource G)

def closes (b : Bus) : Nat := b.closeCount.toNat

def isClosed (b : Bus) : Bool := decide (0 < b.closes)

def reached (limit : Option Nat) (evals : Nat) : Bool := limit.any (· ≤ evals)

def finished (b : Bus) : Bool := reached b.finishAfter b.evals

def refusal? (b : Bus) : Option ModelError :=
  -- a closed model says so even if it has finished, and a finished one even if it would fail
  if b.isClosed then some .closed
  else if b.finished then some .exhausted
  else (b.faultAfter.filter (· ≤ b.evals)).map fun n =>
    .fault ("injected fault after " ++ toString n ++ " evaluations")

def rises (b : Bus) (p : Pins) : Bool := p.clock && !b.lastClock

/-- What a rising edge does to program memory: clearing goes before writing. -/
def programEdge (p : Pins) (b : Bus) : Bus :=
  if p.programReset then { b with program := b.program.clear }
  else if p.serviceMode && p.writeEnable then
    { b with
      program := b.program.set p.programAddress p.programData
      programWrites := b.programWrites + 1 }
  else b

/-- What a rising edge does to the count of edges: resetting goes before counting. -/
def countEdge (p : Pins) (b : Bus) : Bus :=
  if p.reset then { b with runEdges := 0 }
  else if !p.serviceMode then { b with runEdges := b.runEdges + 1 }
  else b

def advance (p : Pins) (b : Bus) : Bus :=
  -- the clock of the last evaluation counts, so that a clock that stays high is one edge only
  let edge := if b.rises p then countEdge p (programEdge p b) else b
  { edge with lastClock := p.clock, evals := b.evals + 1 }

def outputs (p : Pins) (b : Bus) : Outputs := ⟨b.data.get p.dataAddress⟩

def eval (p : Pins) (b : Bus) : Except ModelError Outputs × Bus :=
  match b.refusal? with
  | some error => (.error error, b)
  | none => (.ok (b.outputs p), b.advance p)

/-- Counts one more close. The count is a word, and goes back to zero after 2 ^ 32 of them. -/
def close (b : Bus) : Bus := { b with closeCount := b.closeCount + 1 }

def setData (b : Bus) (address : UInt16) (byte : UInt8) : Bus :=
  { b with data := b.data.set address byte }

def clearData (b : Bus) : Bus := { b with data := b.data.clear }

theorem eval_of_refusal {p : Pins} {b : Bus} {error : ModelError} (h : b.refusal? = some error) :
    b.eval p = (.error error, b) := by
  rw [eval, h]

theorem eval_of_accepted {p : Pins} {b : Bus} (h : b.refusal? = none) :
    b.eval p = (.ok (b.outputs p), b.advance p) := by
  rw [eval, h]

theorem data_advance (p : Pins) (b : Bus) : (b.advance p).data = b.data := by
  simp only [advance, countEdge, programEdge]
  repeat' split
  all_goals rfl

theorem closes_close (b : Bus) : b.close.closes = (b.closes + 1) % UInt32.size := by
  simp [closes, close]

instance : Processor Bus where
  eval := eval
  finished := finished
  close := close

end Bus

end ByteBench
