import ByteBench.Program.Basic
import ByteBench.Source.Line
import ByteBench.Text.Lines

/-!
# Assembling a batch of lines

Every line is assembled by itself. A line that fails is reported with its index and does not stop
the others; it leaves either nothing, so that later words move down by one address, or a `NOP`, so
that every word stays at the address of its line.
-/

namespace ByteBench

open ByteBench.Source

/-- What a line that fails leaves in the program. -/
inductive OnError
  | skip
  /-- A `NOP` that came from no line. -/
  | placeholder
  deriving DecidableEq

namespace OnError

def all : List OnError := [skip, placeholder]

def name : OnError → String
  | skip => "Skip"
  | placeholder => "Placeholder"

def ofName? (name : String) : Option OnError := all.find? (·.name = name)

end OnError

structure AssemblerFlags where
  onError : OnError := .skip
  deriving DecidableEq

structure Assembly where
  program : Program
  errors : List Diagnostic

namespace Assembly

def isOk (a : Assembly) : Bool := a.errors.isEmpty

/-- What the line with a given index gives: a cell that remembers the line, or a diagnostic. -/
def lineOutcome (index : Nat) (line : String) : Except Diagnostic Cell :=
  match assembleLine line with
  | .ok word => .ok ⟨word, some index⟩
  | .error d => .error (d.atLine index)

/-- The cells that an outcome leaves in the program. -/
def cellsOf (policy : OnError) : Except Diagnostic Cell → List Cell
  | .ok cell => [cell]
  | .error _ =>
    match policy with
    | .skip => []
    | .placeholder => [⟨Instr.nopWord, none⟩]

def errorOf? : Except Diagnostic Cell → Option Diagnostic
  | .ok _ => none
  | .error d => some d

def ofLines (policy : OnError) (lines : List String) : Assembly :=
  -- the program and the diagnostics are two views of one row of outcomes
  let outcomes := lines.mapIdx lineOutcome
  ⟨⟨outcomes.flatMap (cellsOf policy)⟩, outcomes.filterMap errorOf?⟩

def ofText (policy : OnError) (text : String) : Assembly := ofLines policy (Text.lines text)

end Assembly

end ByteBench
