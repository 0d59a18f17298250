/-!
# Decimal literals

A literal is an optional sign and decimal digits, and has to lie in the range of a signed 64-bit
integer. It is read from left to right, and the first thing wrong with it is reported: a literal
that leaves the range is not looked at further.
-/

namespace ByteBench.Source

/-- What can be wrong with a token. -/
inductive LexError
  | outOfRange
  | notDecimal
  /-- A sign is followed by nothing. -/
  | noDigits
  /-- The character begins no token. -/
  | symbol
  deriving DecidableEq

namespace LexError

def all : List LexError := [outOfRange, notDecimal, noDigits, symbol]

def message : LexError → String
  | outOfRange => "integer literal does not fit 64-bit signed integer"
  | notDecimal => "invalid decimal literal"
  | noDigits => "invalid decimal literal"
  | symbol => "unrecognized symbol"

def help : LexError → String
  | outOfRange => "the range for a 64-bit signed integer is [" ++ toString Int64.minValue ++ ", "
      ++ toString Int64.maxValue ++ "]"
  | notDecimal => "a decimal literal only consists of digits 0-9"
  | noDigits => "there should be digits (0-9) here"
  | symbol => "operands are whitespace-separated decimal integers"

end LexError

def InRange (v : Int) : Prop := Int64.minValue.toInt ≤ v ∧ v ≤ Int64.maxValue.toInt

instance (v : Int) : Decidable (InRange v) := inferInstanceAs (Decidable (_ ∧ _))

def isSign (c : Char) : Bool := c == '+' || c == '-'

def digitValue (c : Char) : Int := c.toNat - '0'.toNat

/-- Reads digits after what has been read so far. With `sign = -1` every digit counts downwards, so
that the lower end of the range is reached without passing the upper one. -/
def readDigits (sign : Int) (sofar : Int) : List Char → Except LexError Int64
  | [] => .ok (Int64.ofInt sofar)
  | c :: cs =>
    if c.isDigit then
      -- the range is looked at after every digit, so that the first fault in reading order wins
      let next := 10 * sofar + sign * digitValue c
      if InRange next then readDigits sign next cs else .error .outOfRange
    else .error .notDecimal

def readLiteral : List Char → Except LexError Int64
  -- only a sign by itself has no digits; after a sign the first thing that is no digit is reported
  | ['+'] => .error .noDigits
  | ['-'] => .error .noDigits
  | '+' :: cs => readDigits 1 0 cs
  | '-' :: cs => readDigits (-1) 0 cs
  | cs => readDigits 1 0 cs

end ByteBench.Source
