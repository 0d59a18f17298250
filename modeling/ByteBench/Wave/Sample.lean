import ByteBench.Machine.Processor

/-!
# Samples

A waveform is a row of samples, one for each evaluation: the time, and the value of every pin.
-/

namespace ByteBench

/-- The value of every pin at one time: inputs as they were set, outputs as they were answered. -/
structure Sample where
  /-- The number of evaluations before this one. -/
  time : Nat
  inputs : Pins := {}
  outputs : Outputs := {}
  deriving DecidableEq

end ByteBench
