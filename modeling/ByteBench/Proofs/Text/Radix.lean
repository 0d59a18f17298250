import ByteBench.Text.Radix
import Mathlib.Data.Nat.Digits.Defs

/-!
# Digits of a number

Main statements: `toDigits_eq`, the digits that are written are those of the number, the highest
first, and `hexUpper2_eq`, what a number in hexadecimal is.
-/

namespace ByteBench.Text

def capitals : List Char :=
  ['0', '1', '2', '3', '4', '5', '6', '7', '8', '9', 'A', 'B', 'C', 'D', 'E', 'F']

def capital (d : Nat) : Char := capitals[d]?.getD '0'

theorem toDigits_eq {b n : Nat} (hb : 1 < b) (hn : 0 < n) :
    Nat.toDigits b n = (b.digits n).reverse.map Nat.digitChar := by
  induction n using Nat.strongRecOn with
  | _ n ih =>
    rw [Nat.digits_def' hb hn, List.reverse_cons, List.map_append]
    by_cases hlt : n < b
    · have hzero : n / b = 0 := Nat.div_eq_of_lt hlt
      rw [Nat.toDigits_of_lt_base hlt, hzero, Nat.digits_zero, Nat.mod_eq_of_lt hlt]
      rfl
    · have hpos : 0 < n / b := Nat.div_pos (Nat.le_of_not_lt hlt) (by omega)
      rw [Nat.toDigits_of_base_le hb (Nat.le_of_not_lt hlt),
        ih (n / b) (Nat.div_lt_self hn hb) hpos]
      rfl

theorem toUpper_digitChar {d : Nat} (h : d < 16) : (Nat.digitChar d).toUpper = capital d := by
  have hall : ∀ d : Fin 16, (Nat.digitChar d).toUpper = capital d := by decide
  exact hall ⟨d, h⟩

theorem isAlphanum_capital (d : Nat) : (capital d).isAlphanum = true := by
  by_cases h : d < 16
  · have hall : ∀ d : Fin 16, (capital d).isAlphanum = true := by decide
    exact hall ⟨d, h⟩
  · have hnone : capitals[d]? = none := List.getElem?_eq_none (Nat.le_of_not_lt h)
    rw [capital, hnone]
    rfl

/-- The digits of a number to base 16, filled with zeros to two places. -/
def places (n : Nat) : List Char := ((Nat.digits 16 n).reverse.map capital).leftpad 2 '0'

theorem toList_hexUpper2 (n : Nat) : (hexUpper2 n).toList = places n := by
  rcases Nat.eq_zero_or_pos n with rfl | hn
  · decide
  · have hbase : ∀ d ∈ (Nat.digits 16 n).reverse, (Nat.digitChar d).toUpper = capital d := by
      intro d hd
      exact toUpper_digitChar (Nat.digits_lt_base (by decide) (List.mem_reverse.mp hd))
    have hdigits : (Nat.toDigits 16 n).map Char.toUpper =
        (Nat.digits 16 n).reverse.map capital := by
      rw [toDigits_eq (by decide) hn, List.map_map]
      exact List.map_congr_left hbase
    rw [hexUpper2, hdigits, String.toList_ofList]
    rfl

theorem hexUpper2_eq (n : Nat) : hexUpper2 n = String.ofList (places n) := by
  rw [← toList_hexUpper2, String.ofList_toList]

theorem isAlphanum_hexUpper2 (n : Nat) : ∀ c ∈ (hexUpper2 n).toList, c.isAlphanum = true := by
  intro c hc
  rw [toList_hexUpper2, places, List.leftpad, List.mem_append, List.mem_replicate,
    List.mem_map] at hc
  rcases hc with ⟨-, rfl⟩ | ⟨d, -, rfl⟩
  · rfl
  · exact isAlphanum_capital d

end ByteBench.Text
