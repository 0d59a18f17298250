import ByteBench.Isa.Instr
import ByteBench.Text.Radix

/-!
# Programs

A program is a row of instruction words; the index of a word is its address. Each word may remember
the source line that it came from.
-/

namespace ByteBench

structure Cell where
  word : UInt8
  /-- The index of the source line that it came from, if it came from one. -/
  line : Option Nat := none
  deriving DecidableEq

structure Program where
  cells : List Cell := []
  deriving DecidableEq

namespace Program

/-- The program of some words that came from no source. -/
def ofWords (words : List UInt8) : Program := ⟨words.map fun word => { word }⟩

def words (p : Program) : List UInt8 := p.cells.map Cell.word

def lines (p : Program) : List (Option Nat) := p.cells.map Cell.line

def size (p : Program) : Nat := p.cells.length

def isEmpty (p : Program) : Bool := p.cells.isEmpty

def get? (p : Program) (address : Nat) : Option UInt8 := p.words[address]?

def sourceLine? (p : Program) (address : Nat) : Option Nat := p.lines[address]?.join

/-- The address of the first word that came from a source line. -/
def addressOfLine? (p : Program) (line : Nat) : Option Nat :=
  p.lines.findIdx? (· == some line)

def instrs (p : Program) : List Instr := p.words.map Instr.decode

/-- One line of the listing: the address, the word and the instruction. -/
def listingLine (address : Nat) (word : UInt8) : String :=
  Text.hexUpper2 address ++ ": " ++ Text.hexUpper2 word.toNat ++ "  " ++ (Instr.decode word).text

def listingLines (p : Program) : List String := p.words.mapIdx listingLine

def listing (p : Program) : String := String.join (p.listingLines.map (· ++ "\n"))

@[simp] theorem words_ofWords (words : List UInt8) : (ofWords words).words = words := by
  simp [ofWords, Program.words, Function.comp_def]

@[simp] theorem length_words (p : Program) : p.words.length = p.size := by
  simp [words, size]

@[simp] theorem length_lines (p : Program) : p.lines.length = p.size := by
  simp [lines, size]

end Program

end ByteBench
