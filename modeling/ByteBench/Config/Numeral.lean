import ByteBench.Config.Value

/-!
# Numerals of a document

Digits are gathered into a significand for as long as it fits 64 bits. Digits that no longer
fit are passed over, and those before the point still count for the size of the number. A numeral
without a point and an exponent, all of whose digits fit, is a whole number; any other is its
significand as a floating-point number, multiplied or divided by a power of ten. Each of these steps
rounds by itself, so that of many digits the last one need not be the nearest.
-/

namespace ByteBench.Config

/-- A numeral as it is written. Digits are listed with the most significant one first. -/
structure Numeral where
  negative : Bool := false
  whole : List Nat
  fraction : List Nat := []
  exponent : Option Int := none
  deriving DecidableEq

namespace Numeral

/-- Appends digits to a significand while it fits 64 bits, and gives what is left of them. -/
def gather (significand : Nat) : List Nat → Nat × List Nat
  | [] => (significand, [])
  | d :: ds =>
    if 10 * significand + d < UInt64.size then gather (10 * significand + d) ds
    else (significand, d :: ds)

def powerOfTen (n : Nat) : Float := Float.ofScientific 1 false n

/-- A number times `10 ^ exponent`, unless that is beyond every floating-point number. -/
def scale? (x : Float) (exponent : Int) : Option Float :=
  if exponent < -308 then
    -- the power itself would be no floating-point number, so the division is made in steps
    if x == 0 then some x else scale? (x / powerOfTen 308) (exponent + 308)
  else if exponent < 0 then some (x / powerOfTen exponent.natAbs)
  else if exponent ≤ 308 then
    let product := x * powerOfTen exponent.natAbs
    if product.isInf then none else some product
  else if x == 0 then some x
  else none
termination_by exponent.natAbs
decreasing_by omega

/-- The value of a whole number of 64 bits. Minus zero, and what lies below every signed 64-bit
integer, are floating-point numbers. -/
def ofWhole (negative : Bool) (n : Nat) : Value :=
  if negative then
    if n = 0 || decide (-(n : Int) < Int64.minValue.toInt) then .float (-(Float.ofNat n))
    else .int (-n)
  else .int n

/-- The value that a numeral stands for, unless it is too large for every kind of number. -/
def value? (n : Numeral) : Option Value :=
  let (front, passed) := gather 0 n.whole
  let (significand, left) := gather front n.fraction
  if n.fraction.isEmpty && n.exponent.isNone && passed.isEmpty then
    some (ofWhole n.negative significand)
  else
    let places : Int := n.fraction.length - left.length
    let exponent := passed.length - places + n.exponent.getD 0
    (scale? (Float.ofNat significand) exponent).map fun x =>
      .float (if n.negative then -x else x)

end Numeral

end ByteBench.Config
