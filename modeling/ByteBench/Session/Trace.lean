import ByteBench.Text.Radix

/-!
# Traces

Reading back data memory gives a trace: for every cycle the byte that was seen.
-/

namespace ByteBench

structure TraceEntry where
  cycle : UInt16
  value : UInt8
  deriving DecidableEq

def TraceEntry.text (e : TraceEntry) : String :=
  "Cycle " ++ toString e.cycle.toNat ++ " DataMemOut=0x" ++ Text.hexLower e.value.toNat

/-- What was seen, in the order of the cycles. -/
structure Trace where
  entries : List TraceEntry
  deriving DecidableEq

namespace Trace

def size (t : Trace) : Nat := t.entries.length

def isEmpty (t : Trace) : Bool := t.entries.isEmpty

def values (t : Trace) : List UInt8 := t.entries.map TraceEntry.value

/-- A trace as it is written, one line for each entry. -/
def text (t : Trace) : String := String.join (t.entries.map fun e => e.text ++ "\n")

end Trace

end ByteBench
