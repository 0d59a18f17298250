/-!
# Numbers in hexadecimal

Digits beyond nine are written with the letters `a` to `f`, or with capitals.
-/

namespace ByteBench.Text

/-- A number in lowercase hexadecimal, without leading zeros. -/
def hexLower (n : Nat) : String := String.ofList (Nat.toDigits 16 n)

/-- A number in uppercase hexadecimal, filled with zeros to at least two digits. -/
def hexUpper2 (n : Nat) : String :=
  let digits := (Nat.toDigits 16 n).map Char.toUpper
  String.ofList (List.replicate (2 - digits.length) '0' ++ digits)

end ByteBench.Text
