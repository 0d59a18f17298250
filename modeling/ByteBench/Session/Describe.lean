import ByteBench.Session.Basic

/-!
# Descriptions of a session

The state of a session on one line, as nested records. The model is shown by a text that the caller
gives.
-/

namespace ByteBench

namespace Describe

def bool (b : Bool) : String := if b then "true" else "false"

def fields (fs : List (String × String)) : String :=
  ", ".intercalate (fs.map fun f => f.1 ++ ": " ++ f.2)

-- braces are written by their code points
/-- A record of which every field is shown. -/
def record (name : String) (fs : List (String × String)) : String :=
  name ++ " \x7b " ++ fields fs ++ " \x7d"

/-- A record that holds more than is shown. -/
def openRecord (name : String) (fs : List (String × String)) : String :=
  name ++ " \x7b " ++ fields fs ++ ", .. \x7d"

def pins (p : Pins) : String :=
  record "InputPins" [
    ("clock", bool p.clock),
    ("reset", bool p.reset),
    ("service_mode", bool p.serviceMode),
    ("program_memory_reset", bool p.programReset),
    ("program_memory_write_enable", bool p.writeEnable),
    ("program_memory_address", toString p.programAddress.toNat),
    ("program_memory_data_in", toString p.programData.toNat),
    ("data_memory_address", toString p.dataAddress.toNat)]

def outputs (o : Outputs) : String :=
  record "OutputPins" [("data_memory_data_out", toString o.dataOut.toNat)]

def flags (f : SessionFlags) : String :=
  record "SimFlags" [
    ("run_cycles", toString f.runCycles.toNat),
    ("readback_cycles", toString f.readbackCycles.toNat),
    ("finish_limit", toString f.finishLimit.toNat)]

def session {M : Type} (model : String) (s : Session M) : String :=
  openRecord "Simulator" [
    ("model", model),
    ("model_open", bool s.modelOpen),
    ("phase", s.phase.title),
    ("pins", pins s.pins),
    ("outputs", outputs s.outputs),
    ("time", toString s.time),
    ("cycles", toString s.cycles),
    ("flags", flags s.flags)]

end Describe

end ByteBench
