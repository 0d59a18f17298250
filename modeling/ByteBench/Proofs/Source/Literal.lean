import ByteBench.Proofs.Text.Runs
import ByteBench.Source.Literal

/-!
# What literals are read as

A literal is read digit by digit, and its range is looked at after each of them. Main statements:
`readDigits_eq`, this gives what reading all digits at once would give, and `readLiteral_eq_ok_iff`,
the numbers that are read are those that are written and lie in the range.
-/

namespace ByteBench.Source

open ByteBench.Text

/-- By what the digits after a sign are multiplied. -/
def signUnit (sign : Option Char) : Int := if sign = some '-' then -1 else 1

/-- A number as it is written. -/
structure Numeral where
  sign : Option Char
  digits : List Char
  isSign_sign : ∀ c ∈ sign, isSign c = true
  digits_ne_nil : digits ≠ []
  isDigit_digits : ∀ c ∈ digits, c.isDigit = true

namespace Numeral

def text (n : Numeral) : List Char := n.sign.toList ++ n.digits

def value (n : Numeral) : Int := signUnit n.sign * Nat.ofDigitChars 10 n.digits 0

end Numeral

theorem signUnit_cases (sign : Option Char) : signUnit sign = 1 ∨ signUnit sign = -1 := by
  rw [signUnit]
  split
  · exact Or.inr rfl
  · exact Or.inl rfl

theorem isSign_cases {c : Char} (h : isSign c = true) : c = '+' ∨ c = '-' := by
  rw [isSign, Bool.or_eq_true, beq_iff_eq, beq_iff_eq] at h
  exact h

theorem inRange_of_le {u : Int} {m n : Nat} (hu : u = 1 ∨ u = -1) (hmn : m ≤ n)
    (h : InRange (u * n)) : InRange (u * m) := by
  have hmin : Int64.minValue.toInt ≤ 0 := by decide
  have hmax : 0 ≤ Int64.maxValue.toInt := by decide
  obtain ⟨hlow, hhigh⟩ := h
  rcases hu with rfl | rfl
  · exact ⟨by omega, by omega⟩
  · exact ⟨by omega, by omega⟩

theorem le_ofDigitChars (cs : List Char) (m : Nat) : m ≤ Nat.ofDigitChars 10 cs m := by
  induction cs generalizing m with
  | nil => exact Nat.le_of_eq Nat.ofDigitChars_nil.symm
  | cons c cs ih =>
    have hnext := ih (10 * m + (c.toNat - '0'.toNat))
    rw [Nat.ofDigitChars_cons]
    omega

theorem ten_mul_add_digitValue {c : Char} (u : Int) (m : Nat) (h : c.isDigit = true) :
    10 * (u * (m : Int)) + u * digitValue c =
      u * ((10 * m + (c.toNat - '0'.toNat) : Nat) : Int) := by
  have hzero : '0'.toNat ≤ c.toNat := by
    rw [Char.isDigit_iff_toNat] at h
    exact h.1
  have hvalue : ((c.toNat - '0'.toNat : Nat) : Int) = digitValue c := by
    rw [digitValue, Int.ofNat_sub hzero]
  have hten : 10 * (u * (m : Int)) = u * (10 * (m : Int)) := Int.mul_left_comm 10 u m
  rw [Int.natCast_add, Int.natCast_mul, hvalue, Int.mul_add, hten]
  rfl

/-- Reading digit by digit gives what the whole run of digits says: it is out of range if the number
of the run is, and only otherwise it matters what follows. -/
theorem readDigits_eq {u : Int} (cs : List Char) (m : Nat) (hu : u = 1 ∨ u = -1)
    (hm : InRange (u * m)) :
    readDigits u (u * m) cs =
      if InRange (u * Nat.ofDigitChars 10 (cs.takeWhile Char.isDigit) m) then
        if cs.all Char.isDigit then .ok (Int64.ofInt (u * Nat.ofDigitChars 10 cs m))
        else .error .notDecimal
      else .error .outOfRange := by
  induction cs generalizing m with
  | nil =>
    rw [readDigits, List.takeWhile_nil, Nat.ofDigitChars_nil, if_pos hm]
    rfl
  | cons c cs ih =>
    rw [readDigits]
    cases hc : c.isDigit with
    | false =>
      have hstop : (c :: cs).takeWhile Char.isDigit = [] :=
        List.takeWhile_cons_of_neg (by simp [hc])
      have hall : (c :: cs).all Char.isDigit = false := by rw [List.all_cons, hc]; rfl
      rw [hstop, Nat.ofDigitChars_nil, if_pos hm, hall]
      rfl
    | true =>
      have htake : (c :: cs).takeWhile Char.isDigit = c :: cs.takeWhile Char.isDigit :=
        List.takeWhile_cons_of_pos hc
      have hall : (c :: cs).all Char.isDigit = cs.all Char.isDigit := by
        rw [List.all_cons, hc, Bool.true_and]
      rw [htake, hall, Nat.ofDigitChars_cons, Nat.ofDigitChars_cons]
      simp only [ten_mul_add_digitValue u m hc, if_true]
      by_cases hnext : InRange (u * ((10 * m + (c.toNat - '0'.toNat) : Nat) : Int))
      · rw [if_pos hnext]
        exact ih _ hnext
      · have hlast : ¬ InRange (u * (Nat.ofDigitChars 10 (cs.takeWhile Char.isDigit)
            (10 * m + (c.toNat - '0'.toNat)) : Int)) := by
          intro h
          exact hnext (inRange_of_le hu (le_ofDigitChars _ _) h)
        rw [if_neg hnext, if_neg hlast]

theorem readDigits_eq_ok_iff {u : Int} {cs : List Char} {v : Int64} (hu : u = 1 ∨ u = -1) :
    readDigits u 0 cs = .ok v ↔
      (∀ c ∈ cs, c.isDigit = true) ∧ InRange (u * Nat.ofDigitChars 10 cs 0) ∧
        v = Int64.ofInt (u * Nat.ofDigitChars 10 cs 0) := by
  have hzero : u * ((0 : Nat) : Int) = 0 := Int.mul_zero u
  have hread := readDigits_eq cs 0 hu (by rw [hzero]; decide)
  rw [hzero] at hread
  rw [hread]
  constructor
  · intro h
    split at h
    · next hrange =>
      split at h
      · next hall =>
        rw [List.all_eq_true] at hall
        rw [takeWhile_of_all hall] at hrange
        cases h
        exact ⟨hall, hrange, rfl⟩
      · cases h
    · cases h
  · rintro ⟨hall, hrange, rfl⟩
    rw [takeWhile_of_all hall, if_pos hrange, if_pos (List.all_eq_true.mpr hall)]

theorem readLiteral_unsigned {c : Char} (ds : List Char) (h : isSign c = false) :
    readLiteral (c :: ds) = readDigits 1 0 (c :: ds) := by
  have hplus : c ≠ '+' := by
    rintro rfl
    cases h
  have hminus : c ≠ '-' := by
    rintro rfl
    cases h
  rw [readLiteral] <;> simp [hplus, hminus]

theorem readLiteral_signed {c : Char} {ds : List Char} (hc : isSign c = true) (h : ds ≠ []) :
    readLiteral (c :: ds) = readDigits (signUnit (some c)) 0 ds := by
  cases ds with
  | nil => exact absurd rfl h
  | cons d ds => rcases isSign_cases hc with rfl | rfl <;> rfl

theorem readLiteral_sign {c : Char} (hc : isSign c = true) :
    readLiteral [c] = .error .noDigits := by
  rcases isSign_cases hc with rfl | rfl <;> rfl

theorem not_isSign_of_isDigit {c : Char} (h : c.isDigit = true) : isSign c = false := by
  cases hs : isSign c with
  | false => rfl
  | true => rcases isSign_cases hs with rfl | rfl <;> cases h

theorem Numeral.readLiteral_text (n : Numeral) :
    readLiteral n.text = readDigits (signUnit n.sign) 0 n.digits := by
  obtain ⟨sign, digits, hsign, hne, hdigits⟩ := n
  cases sign with
  | some c => exact readLiteral_signed (hsign c rfl) hne
  | none =>
    cases digits with
    | nil => exact absurd rfl hne
    | cons d ds =>
      have hd : d.isDigit = true := hdigits d List.mem_cons_self
      exact readLiteral_unsigned ds (not_isSign_of_isDigit hd)

theorem readLiteral_eq_ok_iff {cs : List Char} {v : Int64} (hne : cs ≠ []) :
    readLiteral cs = .ok v ↔
      ∃ n : Numeral, n.text = cs ∧ InRange n.value ∧ v = Int64.ofInt n.value := by
  constructor
  · intro h
    obtain ⟨c, ds, rfl⟩ := List.exists_cons_of_ne_nil hne
    cases hc : isSign c with
    | false =>
      rw [readLiteral_unsigned ds hc] at h
      obtain ⟨hdigits, hrange, hv⟩ := (readDigits_eq_ok_iff (Or.inl rfl)).mp h
      exact ⟨⟨none, c :: ds, by simp, hne, hdigits⟩, rfl, hrange, hv⟩
    | true =>
      by_cases hds : ds = []
      · rw [hds, readLiteral_sign hc] at h
        cases h
      · rw [readLiteral_signed hc hds] at h
        obtain ⟨hdigits, hrange, hv⟩ := (readDigits_eq_ok_iff (signUnit_cases _)).mp h
        exact ⟨⟨some c, ds, by simp [hc], hds, hdigits⟩, rfl, hrange, hv⟩
  · rintro ⟨n, rfl, hrange, hv⟩
    rw [n.readLiteral_text]
    exact (readDigits_eq_ok_iff (signUnit_cases _)).mpr ⟨n.isDigit_digits, hrange, hv⟩

end ByteBench.Source
