import ByteBench.Source.Diagnostic
import ByteBench.Source.Token

/-!
# Source lines

A line is a mnemonic and its operands. The mnemonic is everything up to the first blank, after
blanks at the front; what follows is scanned into tokens, all of which have to be numbers, as many
as the mnemonic takes. Of several faults the one about the mnemonic is reported, then the first
token that is no number, then the number of operands.
-/

namespace ByteBench.Source

open ByteBench.Text

/-- A line cut after its first word. -/
structure Cut where
  lead : List Char
  word : List Char
  rest : List Char

namespace Cut

def ofLine (cs : List Char) : Cut :=
  let body := cs.dropWhile isBlank
  ⟨cs.takeWhile isBlank, body.takeWhile (!isBlank ·), body.dropWhile (!isBlank ·)⟩

def span (c : Cut) : Span := spanFrom (byteLength c.lead) c.word

end Cut

/-- The values of a row of tokens, or what is wrong with the first one that is no number. -/
def operandValues : List Lexeme → Except (OperandFault × Span) (List Int64)
  | [] => .ok []
  | ⟨.int value, _⟩ :: rest => (operandValues rest).map (value :: ·)
  | ⟨.name text, span⟩ :: _ => .error (.notInteger text, span)
  | ⟨.invalid error, span⟩ :: _ => .error (.lexical error, span)

/-- Takes the operands that follow the mnemonic `m`, which lies at `word` in `line`. -/
def readOperands (m : Mnemonic) (word : Span) (line rest : List Char) :
    Except (OperandFault × Span) Instr := do
  -- tokens are looked at before they are counted
  let values ← operandValues (scanFrom word.stop rest)
  match Instr.ofOperands m values with
  | .ok instr => .ok instr
  | .error n => .error (.count n.expected n.found, ⟨word.start, byteLength (trimEnd line)⟩)

def parseLine (line : String) : Except Diagnostic Instr :=
  let cs := line.toList
  let cut := Cut.ofLine cs
  match Mnemonic.lookup? cut.word with
  | none => .error { fault := .unknownInstruction (String.ofList cut.word), span := cut.span, line }
  | some m =>
    match readOperands m cut.span cs cut.rest with
    | .ok instr => .ok instr
    | .error (reason, span) => .error { fault := .malformedOperands m reason, span, line }

def assembleLine (line : String) : Except Diagnostic UInt8 := (parseLine line).map Instr.encode

end ByteBench.Source
