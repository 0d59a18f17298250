import ByteBench.Source.Literal
import ByteBench.Text.Blank
import ByteBench.Text.Span
import ByteBench.Text.WordChar

/-!
# Tokens of an operand list

After its mnemonic a line is a row of tokens. A number is begun by a sign or a digit, a name by an
ASCII letter or an underscore, and each goes on as long as word characters follow, so that `12ab` is
one token, to be reported as a whole. Blanks are passed over, and every other character is a token
by itself, and an error. Scanning goes on after an error.
Main statements: `scanFrom_blank`, `scanFrom_symbol`, `scanFrom_number` and `scanFrom_name`, one
step of scanning for each thing that a character can begin.
-/

namespace ByteBench.Source

open ByteBench.Text

inductive Token
  | int (value : Int64)
  | name (text : String)
  /-- Something that is neither, or a number that could not be read. -/
  | invalid (error : LexError)
  deriving DecidableEq

structure Lexeme where
  token : Token
  span : Span
  deriving DecidableEq

/-- What a character begins, if it is not part of a token already. -/
inductive Start
  | blank | number | name | symbol
  deriving DecidableEq

/-- Told by the character alone: no two kinds share a first character. -/
def startOf (c : Char) : Start :=
  if isBlank c then .blank
  else if isSign c || isDigit c then .number
  else if c.isAlpha || c == '_' then .name
  else .symbol

def numberToken (cs : List Char) : Token :=
  match readLiteral cs with
  | .ok value => .int value
  | .error error => .invalid error

/-- The place of a stretch of characters, the first of which is at byte `start`. -/
def spanFrom (start : Nat) (cs : List Char) : Span := ⟨start, start + byteLength cs⟩

theorem length_dropWhile_le (p : Char → Bool) (cs : List Char) :
    (cs.dropWhile p).length ≤ cs.length := by
  induction cs with
  | nil => exact Nat.le_refl _
  | cons c cs ih =>
    rw [List.dropWhile_cons]
    split
    · exact Nat.le_succ_of_le ih
    · exact Nat.le_refl _

/-- The tokens of a text of which the first character is at byte `start`. -/
def scanFrom (start : Nat) : List Char → List Lexeme
  | [] => []
  | c :: cs =>
    match startOf c with
    | .blank => scanFrom (start + c.utf8Size) cs
    | .symbol => ⟨.invalid .symbol, spanFrom start [c]⟩ :: scanFrom (start + c.utf8Size) cs
    | .number =>
      let word := c :: cs.takeWhile isWordChar
      ⟨numberToken word, spanFrom start word⟩ ::
        scanFrom (start + byteLength word) (cs.dropWhile isWordChar)
    | .name =>
      let word := c :: cs.takeWhile isWordChar
      ⟨.name (String.ofList word), spanFrom start word⟩ ::
        scanFrom (start + byteLength word) (cs.dropWhile isWordChar)
termination_by cs => cs.length
decreasing_by
  -- at least `c` is gone, and what follows a word is no longer than what followed `c`
  all_goals
    have h := length_dropWhile_le isWordChar cs
    simp only [List.length_cons]
    omega

theorem scanFrom_blank {c : Char} (start : Nat) (cs : List Char) (h : startOf c = .blank) :
    scanFrom start (c :: cs) = scanFrom (start + c.utf8Size) cs := by
  rw [scanFrom, h]

theorem scanFrom_symbol {c : Char} (start : Nat) (cs : List Char) (h : startOf c = .symbol) :
    scanFrom start (c :: cs) =
      ⟨.invalid .symbol, spanFrom start [c]⟩ :: scanFrom (start + c.utf8Size) cs := by
  rw [scanFrom, h]

theorem scanFrom_number {c : Char} (start : Nat) (cs : List Char) (h : startOf c = .number) :
    scanFrom start (c :: cs) =
      ⟨numberToken (c :: cs.takeWhile isWordChar), spanFrom start (c :: cs.takeWhile isWordChar)⟩ ::
        scanFrom (start + byteLength (c :: cs.takeWhile isWordChar)) (cs.dropWhile isWordChar) := by
  rw [scanFrom, h]

theorem scanFrom_name {c : Char} (start : Nat) (cs : List Char) (h : startOf c = .name) :
    scanFrom start (c :: cs) =
      ⟨.name (String.ofList (c :: cs.takeWhile isWordChar)),
          spanFrom start (c :: cs.takeWhile isWordChar)⟩ ::
        scanFrom (start + byteLength (c :: cs.takeWhile isWordChar)) (cs.dropWhile isWordChar) := by
  rw [scanFrom, h]

def scan (text : String) : List Lexeme := scanFrom 0 text.toList

end ByteBench.Source
