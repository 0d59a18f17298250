import ByteBench.Isa.Instr
import ByteBench.Source.Literal
import ByteBench.Text.Quoted
import ByteBench.Text.Span

/-!
# Diagnostics

A line that is not an instruction is answered with a diagnostic: what is wrong, where in the line it
is, and, within a text, which line it was. A diagnostic is shown as four lines: the message, the
line, a row of carets under the place, and how to put it right.
-/

namespace ByteBench.Source

open ByteBench.Text

inductive OperandFault
  | count (expected found : Nat)
  /-- A name stands where a number should. -/
  | notInteger (token : String)
  | lexical (error : LexError)
  deriving DecidableEq

namespace OperandFault

def message : OperandFault → String
  | count expected found =>
    "expected " ++ toString expected ++ " operand(s), found " ++ toString found
  | notInteger token => "expected integer operand, found " ++ quoted token
  | lexical error => error.message

def help (m : Mnemonic) : OperandFault → String
  | count _ _ =>
    if m.operandCount = 0 then m.name ++ " takes no operands"
    else m.name ++ " takes " ++ toString m.operandCount ++ " operand(s): "
      ++ " ".intercalate m.shape.operandNames
  | notInteger _ => "operands are decimal integers (registers are written without a prefix)"
  | lexical error => error.help

end OperandFault

inductive Fault
  | unknownInstruction (word : String)
  | malformedOperands (mnemonic : Mnemonic) (reason : OperandFault)
  deriving DecidableEq

namespace Fault

def message : Fault → String
  | unknownInstruction word => "unknown instruction " ++ quoted word
  | malformedOperands m reason => "malformed operands for " ++ m.name ++ ": " ++ reason.message

def help : Fault → String
  | unknownInstruction _ =>
    "valid instructions are " ++ ", ".intercalate (Mnemonic.all.map Mnemonic.name)
  | malformedOperands m reason => reason.help m

end Fault

structure Diagnostic where
  fault : Fault
  span : Span
  line : String
  lineIndex : Option Nat := none
  deriving DecidableEq

namespace Diagnostic

def atLine (d : Diagnostic) (index : Nat) : Diagnostic := { d with lineIndex := some index }

def message (d : Diagnostic) : String := d.fault.message

def help (d : Diagnostic) : String := d.fault.help

/-- The number of columns before the place that is meant; none if the span starts at no
character. -/
def indent (d : Diagnostic) : Nat := ((d.span.before? d.line.toList).getD []).length

/-- The number of columns of the place that is meant, at least one. -/
def caretCount (d : Diagnostic) : Nat := max 1 ((d.span.slice? d.line.toList).getD []).length

def heading (d : Diagnostic) : String :=
  match d.lineIndex with
  | some index => "error (line " ++ toString index ++ "): "
  | none => "error: "

def pointer (d : Diagnostic) : String :=
  String.ofList (List.replicate d.indent ' ' ++ List.replicate d.caretCount '^')

def report (d : Diagnostic) : String :=
  d.heading ++ d.message ++ "\n" ++
  "  | " ++ d.line ++ "\n" ++
  "  | " ++ d.pointer ++ "\n" ++
  "help: " ++ d.help ++ "\n"

end Diagnostic

end ByteBench.Source
