import ByteBench.Machine.Processor

/-!
# A model that follows a script

A model for trying out a session: it plays a list of output bytes over and over, says that it has
finished after a number of evaluations, and fails after another. Its outputs also show the data
address that they were read with.
-/

namespace ByteBench

structure Script where
  outs : Array UInt8 := #[]
  /-- The number of evaluations after which the model has finished. -/
  finishAt : Option Nat := none
  /-- The number of evaluations after which all others fail. -/
  faultAt : Option Nat := none
  fault : ModelError := .exhausted
  evals : Nat := 0

namespace Script

def playing (s : Script) : UInt8 :=
  -- with nothing to play the remainder is no index, and zeros are played
  s.outs.getD (s.evals % s.outs.size) 0

def eval (p : Pins) (s : Script) : Except ModelError Outputs × Script :=
  if s.faultAt.any (· ≤ s.evals) then (.error s.fault, s)
  else (.ok ⟨s.playing ^^^ p.dataAddress.toUInt8⟩, { s with evals := s.evals + 1 })

instance : Processor Script where
  eval := eval
  finished s := s.finishAt.any (· ≤ s.evals)
  close s := s

end Script

end ByteBench
