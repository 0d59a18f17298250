/-!
# Processor models and their pins

A model of the processor is known by its pins only: input pins are set, the model is evaluated, and
output pins are read. Any type with these operations is a model; an evaluation may fail, and may
change the model even then.
-/

namespace ByteBench

structure Pins where
  clock : Bool := false
  reset : Bool := false
  /-- Halts the processor and opens its memories to the outside. -/
  serviceMode : Bool := false
  programReset : Bool := false
  /-- Lets the program bus write, in service mode. -/
  writeEnable : Bool := false
  programAddress : UInt16 := 0
  programData : UInt8 := 0
  dataAddress : UInt16 := 0
  deriving DecidableEq

structure Outputs where
  dataOut : UInt8 := 0
  deriving DecidableEq

inductive ModelError
  | closed
  | exhausted
  | fault (text : String)
  deriving DecidableEq

def ModelError.message : ModelError → String
  | closed => "model is closed"
  | exhausted => "model has already finished"
  | fault text => "model fault: " ++ text

class Processor (M : Type) where
  /-- Evaluates the model with its pins set, and reads its outputs. The model that comes back is the
  model from then on, also after a failure. -/
  eval : Pins → M → Except ModelError Outputs × M
  finished : M → Bool
  close : M → M

end ByteBench
