import ByteBench.Session.Basic
import ByteBench.Session.Trace

/-!
# The phases of a session

A session resets the processor, loads a program, lets it run, and reads data memory back, in this
order and each at most once; or it lets a model run until it says that it has finished. A clock
period is two evaluations, one with the clock high and one with the clock low. What is called in the
wrong phase is refused and changes nothing; an evaluation that fails ends the session.
Main statements: `expectPhase_of_ne`, a refusal changes nothing, and `evaluate_of_ok` and
`evaluate_of_error`, the two ways in which an evaluation ends.
-/

namespace ByteBench

namespace Session

variable {M : Type}

/-- Something that a session does. An error keeps what was done before it. -/
abbrev Action (M α : Type) : Type := EStateM SessionError (Session M) α

def expectPhase (expected : Phase) : Action M Unit := do
  let s ← get
  if s.phase = expected then pure () else throw (.phaseOrder expected s.phase)

theorem expectPhase_of_eq {expected : Phase} {s : Session M} (h : s.phase = expected) :
    expectPhase expected s = .ok () s := by
  show (if s.phase = expected then pure () else throw (.phaseOrder expected s.phase) :
    Action M Unit) s = _
  rw [if_pos h]
  rfl

theorem expectPhase_of_ne {expected : Phase} {s : Session M} (h : s.phase ≠ expected) :
    expectPhase expected s = .error (.phaseOrder expected s.phase) s := by
  show (if s.phase = expected then pure () else throw (.phaseOrder expected s.phase) :
    Action M Unit) s = _
  rw [if_neg h]
  rfl

def enter (phase : Phase) : Action M Unit := modify fun s => { s with phase }

def setPins (f : Pins → Pins) : Action M Unit := modify fun s => { s with pins := f s.pins }

def evaluated (outputs : Outputs) (s : Session M) : Session M :=
  -- the sample bears the time before the evaluation
  let s := { s with outputs }.dumpSample
  { s with time := s.time + 1 }

variable [Processor M]

def evaluate : Action M Unit := do
  let s ← get
  -- asking is recorded whatever the answer, and a model that fails is closed as it is afterwards
  let (answer, model) := Processor.eval s.pins s.model
  let asked := { s with model, calls := .eval s.pins :: s.calls }
  match answer with
  | .ok outputs => set (asked.evaluated outputs)
  | .error cause =>
    set asked.abandon
    throw (.fatal s.phase s.time cause)

theorem evaluate_eq (s : Session M) :
    evaluate s =
      let asked := { s with
        model := (Processor.eval s.pins s.model).2, calls := .eval s.pins :: s.calls }
      (match (Processor.eval s.pins s.model).1 with
        | .ok outputs => set (asked.evaluated outputs)
        | .error cause => do
          set asked.abandon
          throw (.fatal s.phase s.time cause) : Action M Unit) s := rfl

theorem evaluate_of_ok {s : Session M} {outputs : Outputs} {model : M}
    (h : Processor.eval s.pins s.model = (.ok outputs, model)) :
    evaluate s = .ok ()
      (evaluated outputs { s with model, calls := .eval s.pins :: s.calls }) := by
  rw [evaluate_eq, h]
  rfl

theorem evaluate_of_error {s : Session M} {cause : ModelError} {model : M}
    (h : Processor.eval s.pins s.model = (.error cause, model)) :
    evaluate s = .error (.fatal s.phase s.time cause)
      (abandon { s with model, calls := .eval s.pins :: s.calls }) := by
  rw [evaluate_eq, h]
  rfl

def askFinished : Action M Bool := do
  let s ← get
  set { s with calls := .finished :: s.calls }
  pure (Processor.finished s.model)

def tick : Action M Unit := do
  setPins ({ · with clock := true })
  evaluate
  setPins ({ · with clock := false })
  evaluate
  modify fun s => { s with cycles := s.cycles + 1 }

def ticks : Nat → Action M Unit
  | 0 => pure ()
  | n + 1 => do
    tick
    ticks n

def complete : Action M Unit := modify fun s => { s with phase := .done }.release

def reset : Action M Unit := do
  expectPhase .idle
  enter .reset
  setPins ({ · with
    reset := true, serviceMode := true, programReset := true, writeEnable := false })
  tick
  -- service mode stays on for loading
  setPins ({ · with reset := false, programReset := false })

/-- Writes words into program memory from an address on, one in each clock period. -/
def loadFrom : UInt16 → List UInt8 → Action M Unit
  | _, [] => pure ()
  | address, word :: words => do
    setPins ({ · with programAddress := address, programData := word, writeEnable := true })
    tick
    loadFrom (address + 1) words

def programSpace : Nat := 65536

def load (p : Program) : Action M Unit := do
  expectPhase .reset
  -- a program that is too large is refused before anything changes, and another can be loaded
  if programSpace < p.size then throw (.programTooLarge p.size)
  enter .load
  loadFrom 0 p.words
  setPins ({ · with writeEnable := false })

/-- Takes the processor out of service mode and lets it run. -/
def run : Action M Unit := do
  expectPhase .load
  enter .run
  setPins ({ · with serviceMode := false })
  -- settings are looked at when the phase begins
  ticks (← get).flags.runCycles.toNat

/-- Reads back `n` more bytes of data memory, the next one in the given cycle, after those that have
been seen, the newest first. The address is set after the clock period, so that each cycle sees what
the cycle before it asked for. -/
def readFrom (cycle : UInt16) (seen : List TraceEntry) : Nat → Action M (List TraceEntry)
  | 0 => pure seen.reverse
  | n + 1 => do
    tick
    setPins ({ · with dataAddress := cycle })
    let value := (← get).outputs.dataOut
    readFrom (cycle + 1) (⟨cycle, value⟩ :: seen) n

/-- Halts the processor, reads back data memory, and completes the session. -/
def readback : Action M Trace := do
  expectPhase .run
  enter .readback
  setPins ({ · with serviceMode := true })
  let entries ← readFrom 0 [] (← get).flags.readbackCycles.toNat
  complete
  pure ⟨entries⟩

def execute (p : Program) : Action M Trace := do
  reset
  load p
  run
  readback

/-- Evaluates a model until it says that it has finished, but `n` times at most. -/
def finishWithin (limit : Nat) : Nat → Action M Unit
  | 0 => do
    -- a model that finishes with the last evaluation has finished in time
    if ← askFinished then pure ()
    else
      modify abandon
      throw (.noFinish limit)
  | n + 1 => do
    if ← askFinished then pure ()
    else
      evaluate
      finishWithin limit n

/-- Lets a model run until it says that it has finished, and completes the session. The result is
the number of evaluations. -/
def runUntilFinish : Action M Nat := do
  expectPhase .idle
  enter .run
  let s ← get
  finishWithin s.flags.finishLimit.toNat s.flags.finishLimit.toNat
  complete
  pure ((← get).time - s.time)

end Session

end ByteBench
