/-!
# The shortest decimal of a floating-point number

A number is written with the fewest digits that still single it out among the floating-point
numbers, and of the decimals with so few digits the nearest one is taken. A number that is neither
very large nor very small is written positionally, always with a point; any other with an exponent,
always with a sign.
-/

namespace ByteBench.Text

/-- A number above zero and the range of numbers that round to it, all over one denominator. -/
structure Rounding where
  low : Nat
  value : Nat
  high : Nat
  denominator : Nat
  /-- Whether the ends of the range round to the number too. -/
  closed : Bool

namespace Rounding

def powerOfTen (n : Nat) : Nat := Nat.pow 10 n

/-- The range of a binary number `mantissa * 2 ^ exponent`. Below a power of two the numbers lie
twice as close. -/
def ofBinary (mantissa : Nat) (exponent : Int) (powerOfTwo : Bool) : Rounding :=
  let up := 1 <<< (exponent - 2).toNat
  { low := (4 * mantissa - if powerOfTwo then 1 else 2) * up
    value := 4 * mantissa * up
    high := (4 * mantissa + 2) * up
    denominator := 1 <<< (2 - exponent).toNat
    closed := mantissa % 2 = 0 }

/-- The range in units of `10 ^ unit`. -/
def scaled (r : Rounding) (unit : Int) : Rounding :=
  let up := powerOfTen (-unit).toNat
  { r with
    low := r.low * up
    value := r.value * up
    high := r.high * up
    denominator := r.denominator * powerOfTen unit.toNat }

def holds (r : Rounding) (units : Nat) : Bool :=
  let n := units * r.denominator
  if r.closed then decide (r.low ≤ n) && decide (n ≤ r.high)
  else decide (r.low < n) && decide (n < r.high)

/-- The whole number of units in the range that is nearest to the number; of two that are equally
near, the even one. -/
def nearest? (r : Rounding) : Option Nat :=
  let below := r.value / r.denominator
  let rest := r.value % r.denominator
  let upward := r.denominator < 2 * rest || (r.denominator = 2 * rest && below % 2 = 1)
  let (first, second) := if upward then (below + 1, below) else (below, below + 1)
  if r.holds first then some first else if r.holds second then some second else none

/-- The position of the first digit of the number: `0` for the units, `-1` for the tenths. -/
def leadingPosition (r : Rounding) : Int :=
  -- the smallest floating-point number has its first digit at position -324
  if r.denominator ≤ r.value then (Nat.toDigits 10 (r.value / r.denominator)).length - 1
  else -(((List.range 400).find? fun n => r.denominator ≤ r.value * powerOfTen n).getD 0 : Nat)

/-- The shortest decimal in the range, as a whole number and the position of its last digit. -/
def shortest (r : Rounding) : Nat × Int :=
  -- rounding up may reach the position above the first digit, which is therefore tried first; there
  -- the only other candidate is zero, which rounds to no number above it
  let top := r.leadingPosition + 1
  let tries := (List.range 18).findSome? fun (n : Nat) =>
    let unit := top - (n : Int)
    ((r.scaled unit).nearest?).map fun units => (units, unit)
  -- seventeen digits always suffice, so one of the tries has succeeded
  tries.getD (0, 0)

end Rounding

/-- A whole number of units of `10 ^ unit`, written with a point. -/
def positional (units : Nat) (unit : Int) : String :=
  let digits := Nat.toDigits 10 units
  if 0 ≤ unit then
    String.ofList (digits ++ List.replicate unit.toNat '0') ++ ".0"
  else
    let places := (-unit).toNat
    let padded := List.replicate (places + 1 - digits.length) '0' ++ digits
    let whole := padded.length - places
    String.ofList (padded.take whole) ++ "." ++ String.ofList (padded.drop whole)

/-- A whole number of units of `10 ^ unit`, written with one digit before the point and an exponent.
A single digit has no point after it. -/
def scientific (units : Nat) (unit : Int) : String :=
  let digits := Nat.toDigits 10 units
  let exponent := unit + digits.length - 1
  let point := if digits.length = 1 then "" else "."
  let sign := if exponent < 0 then "-" else "+"
  String.ofList (digits.take 1) ++ point ++ String.ofList (digits.drop 1) ++ "e" ++ sign
    ++ toString exponent.natAbs

/-- Whether a number is written positionally, told by the position of its first digit. -/
def isPositional (lead : Int) : Bool := decide (-5 ≤ lead) && decide (lead ≤ 15)

def decimal (units : Nat) (unit : Int) : String :=
  if isPositional (unit + (Nat.toDigits 10 units).length - 1) then positional units unit
  else scientific units unit

/-- A floating-point number in the shortest decimal that is read back as the same number. -/
def shortestDecimal (x : Float) : String :=
  let bits := x.toBits.toNat
  let sign := if bits >>> 63 = 1 then "-" else ""
  let field := (bits >>> 52) % (1 <<< 11)
  let fraction := bits % (1 <<< 52)
  if field == 0 && fraction == 0 then sign ++ "0.0"
  else
    let range :=
      -- without an exponent field there is no leading one
      if field = 0 then Rounding.ofBinary fraction (-1074) false
      else Rounding.ofBinary ((1 <<< 52) + fraction) (Int.ofNat field - 1075)
        (fraction == 0 && decide (1 < field))
    let (units, unit) := range.shortest
    sign ++ decimal units unit

end ByteBench.Text
