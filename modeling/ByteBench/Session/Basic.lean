import ByteBench.Machine.Processor
import ByteBench.Program.Basic
import ByteBench.Wave.Sample

/-!
# Sessions

A session drives one model through its phases. It owns the model, and at most one waveform sink at
a time, until it releases them. Everything that it asks of the model and everything that it tells a
sink is kept, the newest first, so that it can be said afterwards what a session did.
Main statements: `release_modelOpen` and `release_sink`, a released session holds nothing.
-/

namespace ByteBench

inductive Phase
  | idle | reset | load | run | readback | done | failed
  deriving DecidableEq

namespace Phase

def all : List Phase := [idle, reset, load, run, readback, done, failed]

def name : Phase → String
  | idle => "idle"
  | reset => "reset"
  | load => "load"
  | run => "run"
  | readback => "readback"
  | done => "done"
  | failed => "failed"

/-- A phase as it is named in a description of the state. -/
def title : Phase → String
  | idle => "Idle"
  | reset => "Reset"
  | load => "Load"
  | run => "Run"
  | readback => "Readback"
  | done => "Done"
  | failed => "Failed"

def ofName? (name : String) : Option Phase := all.find? (·.name = name)

end Phase

/-- Settings, which may be changed between two phases. -/
structure SessionFlags where
  runCycles : UInt32 := 256
  readbackCycles : UInt16 := 16
  /-- The number of evaluations within which a model has to finish by itself. -/
  finishLimit : UInt64 := 1000000
  deriving DecidableEq

inductive SessionError
  /-- The model failed; the session is over. -/
  | fatal (phase : Phase) (time : Nat) (cause : ModelError)
  /-- The model did not finish in time; the session is over. -/
  | noFinish (limit : Nat)
  | phaseOrder (expected found : Phase)
  | programTooLarge (size : Nat)
  deriving DecidableEq

namespace SessionError

def message : SessionError → String
  | fatal phase time cause =>
    "simulation failed in " ++ phase.name ++ " phase at time " ++ toString time ++ ": "
      ++ cause.message
  | noFinish limit => "model did not finish within " ++ toString limit ++ " evaluations"
  | phaseOrder expected found =>
    "expected session to be in " ++ expected.name ++ " phase, but it was in " ++ found.name
      ++ " phase"
  | programTooLarge size =>
    "program has " ++ toString size ++ " words, which does not fit in the program address space"

def source? : SessionError → Option String
  | fatal _ _ cause => some cause.message
  | _ => none

end SessionError

inductive Call
  | eval (pins : Pins)
  | finished
  | close
  deriving DecidableEq

namespace Call

def bit (level : Bool) : String := if level then "1" else "0"

/-- A call as it is written in a log. The control pins are given as one digit each, in the order
clock, reset, service mode, program memory reset, write enable. -/
def text : Call → String
  | eval p =>
    "eval " ++ bit p.clock ++ bit p.reset ++ bit p.serviceMode ++ bit p.programReset
      ++ bit p.writeEnable ++ " " ++ toString p.programAddress.toNat
      ++ " " ++ toString p.programData.toNat ++ " " ++ toString p.dataAddress.toNat
  | finished => "finished"
  | close => "close"

end Call

/-- Waveform sinks are told apart by numbers. -/
abbrev SinkId := Nat

inductive Post
  | dump (sink : SinkId) (s : Sample)
  | close (sink : SinkId)
  /-- That the session has let go of it without closing it. -/
  | discard (sink : SinkId)
  deriving DecidableEq

structure Session (M : Type) where
  model : M
  modelOpen : Bool := true
  sink : Option SinkId := none
  phase : Phase := .idle
  pins : Pins := {}
  outputs : Outputs := {}
  /-- The number of evaluations that succeeded so far. -/
  time : Nat := 0
  /-- The number of clock periods completed so far. -/
  cycles : Nat := 0
  flags : SessionFlags := {}
  /-- What was asked of the model, the newest first. -/
  calls : List Call := []
  posts : List Post := []

namespace Session

variable {M : Type}

def new (model : M) (flags : SessionFlags) : Session M := { model, flags }

/-- Attaches a sink. One that was attached before is let go of, but nobody closes it. -/
def attach (id : SinkId) (s : Session M) : Session M :=
  match s.sink with
  | some old => { s with sink := some id, posts := .discard old :: s.posts }
  | none => { s with sink := some id }

def sample (s : Session M) : Sample := ⟨s.time, s.pins, s.outputs⟩

def dumpSample (s : Session M) : Session M :=
  match s.sink with
  | some id => { s with posts := .dump id s.sample :: s.posts }
  | none => s

def releaseSink (s : Session M) : Session M :=
  match s.sink with
  | some id => { s with sink := none, posts := .close id :: s.posts }
  | none => s

@[simp] theorem releaseSink_modelOpen (s : Session M) : s.releaseSink.modelOpen = s.modelOpen := by
  unfold releaseSink
  split <;> rfl

variable [Processor M]

def releaseModel (s : Session M) : Session M :=
  if s.modelOpen then
    { s with model := Processor.close s.model, modelOpen := false, calls := .close :: s.calls }
  else s

/-- Releases what the session still holds, the model before the sink. This is also what becomes of a
session that is given up. -/
def release (s : Session M) : Session M := s.releaseModel.releaseSink

def abandon (s : Session M) : Session M := { s with phase := .failed }.release

@[simp] theorem release_modelOpen (s : Session M) : s.release.modelOpen = false := by
  rw [release, releaseSink_modelOpen, releaseModel]
  split
  · rfl
  · next h => simpa using h

@[simp] theorem release_sink (s : Session M) : s.release.sink = none := by
  rw [release, releaseSink]
  split
  · rfl
  · next h => exact h

end Session

end ByteBench
