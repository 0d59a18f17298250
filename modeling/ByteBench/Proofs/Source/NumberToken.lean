import ByteBench.Proofs.Source.Rejection
import Mathlib.Data.List.TakeWhile

/-!
# What the token of a number says

A number is read in 64 bits, digit by digit, and both the multiplication and the addition that a
digit takes are checked. Main statements: `foldlM_accumulate?`, the checks along a run of digits come
to one check of its value, and `numberToken_verdict`, what each text that is scanned as a number is
read as.
-/

namespace ByteBench.Source

open ByteBench.Text

/-- The texts that are scanned as one number: a sign, or a digit of any script, and then word
characters. -/
def IsNumberText : List Char → Prop
  | [] => False
  | c :: ws => (isSign c = true ∨ isDigit c = true) ∧ ∀ w ∈ ws, isWordChar w = true

def signOf : List Char → Option Char
  | [] => none
  | c :: _ => if isSign c then some c else none

def behindSign : List Char → List Char
  | [] => []
  | c :: cs => if isSign c then cs else c :: cs

/-- The longest run of digits after the sign. -/
def digitRun (cs : List Char) : List Char := (behindSign cs).takeWhile Char.isDigit

def behindDigits (cs : List Char) : List Char := (behindSign cs).dropWhile Char.isDigit

def runValue (cs : List Char) : Int := signUnit (signOf cs) * Nat.ofDigitChars 10 (digitRun cs) 0

/-- A number in 64 bits, if there is room for it. -/
def checked? (v : Int) : Option Int64 := if InRange v then some (Int64.ofInt v) else none

/-- Takes one digit more, unless the multiplication or the addition overflows. -/
def accumulate? (sign : Int) (sofar : Int64) (digit : Char) : Option Int64 := do
  let tens ← checked? (10 * sofar.toInt)
  checked? (tens.toInt + sign * digitValue digit)

/-- Reading digits in 64 bits. Whether a character is a digit is asked before anything is computed
with it. -/
def readChecked (sign : Int) (sofar : Int64) : List Char → Except LexError Int64
  | [] => .ok sofar
  | c :: cs =>
    if c.isDigit then
      match accumulate? sign sofar c with
      | some next => readChecked sign next cs
      | none => .error .outOfRange
    else .error .notDecimal

/-- What the number token with the text `cs` is. -/
structure Verdict (cs : List Char) : Prop where
  scanned : ∀ start, scanFrom start cs = [⟨numberToken cs, spanFrom start cs⟩]
  int_iff : ∀ v : Int64, numberToken cs = .int v ↔
    ∃ n : Numeral, n.text = cs ∧ InRange n.value ∧ v.toInt = n.value
  noDigits_iff : numberToken cs = .invalid .noDigits ↔ ∃ c, isSign c = true ∧ cs = [c]
  outOfRange_iff : numberToken cs = .invalid .outOfRange ↔ ¬ InRange (runValue cs)
  notDecimal_iff : numberToken cs = .invalid .notDecimal ↔
    InRange (runValue cs) ∧ behindDigits cs ≠ []
  readLiteral_eq : behindSign cs ≠ [] →
    readLiteral cs = readChecked (signUnit (signOf cs)) 0 (behindSign cs)
  /-- Some digits of the run overflow if and only if all of them do. -/
  overflows_iff : (∃ ds, ds <+: digitRun cs ∧
      ds.foldlM (accumulate? (signUnit (signOf cs))) 0 = none) ↔ ¬ InRange (runValue cs)

variable {u : Int} {c : Char} {cs ds : List Char} {m : Nat} {sofar : Int64}

theorem inRange_iff {v : Int} : InRange v ↔ -2 ^ 63 ≤ v ∧ v < 2 ^ 63 := by
  have hmin : Int64.minValue.toInt = -2 ^ 63 := by decide
  have hmax : Int64.maxValue.toInt = 2 ^ 63 - 1 := by decide
  rw [InRange, hmin, hmax]
  omega

theorem toInt_ofInt {v : Int} (h : InRange v) : (Int64.ofInt v).toInt = v := by
  obtain ⟨hlow, hhigh⟩ := inRange_iff.mp h
  exact Int64.toInt_ofInt_of_le hlow hhigh

theorem eq_ofInt_iff {v : Int} {w : Int64} (h : InRange v) : w = Int64.ofInt v ↔ w.toInt = v := by
  rw [← Int64.toInt_inj, toInt_ofInt h]

theorem checked?_eq_none_iff {v : Int} : checked? v = none ↔ ¬ InRange v := by
  rw [checked?]
  split <;> simp_all

/-- No number is larger without its last digit, so that the multiplication needs no check of its
own. -/
theorem accumulate?_eq (hu : u = 1 ∨ u = -1) (hc : c.isDigit = true) (hs : sofar.toInt = u * m) :
    accumulate? u sofar c = checked? (u * ((10 * m + (c.toNat - '0'.toNat) : Nat) : Int)) := by
  have hten : 10 * sofar.toInt = u * ((10 * m : Nat) : Int) := by
    rw [hs, Int.natCast_mul]
    exact Int.mul_left_comm 10 u m
  have hnext := ten_mul_add_digitValue u m hc
  rw [← hs] at hnext
  rw [accumulate?, ← hnext]
  by_cases hrange : InRange (10 * sofar.toInt)
  · have htens : checked? (10 * sofar.toInt) = some (Int64.ofInt (10 * sofar.toInt)) := if_pos hrange
    rw [htens, Option.bind_eq_bind, Option.bind_some, toInt_ofInt hrange]
  · have hlarger : ¬ InRange (10 * sofar.toInt + u * digitValue c) := by
      rw [hnext]
      rw [hten] at hrange
      exact fun h => hrange (inRange_of_le hu (Nat.le_add_right _ _) h)
    rw [checked?_eq_none_iff.mpr hrange, checked?_eq_none_iff.mpr hlarger]
    rfl

theorem foldlM_accumulate? (hu : u = 1 ∨ u = -1) (hds : ∀ d ∈ ds, d.isDigit = true)
    (hs : sofar.toInt = u * m) :
    ds.foldlM (accumulate? u) sofar = checked? (u * Nat.ofDigitChars 10 ds m) := by
  induction ds generalizing sofar m with
  | nil =>
    have hrange : InRange (u * m) := by
      rw [← hs]
      exact ⟨sofar.minValue_le_toInt, sofar.toInt_le⟩
    rw [List.foldlM_nil, Nat.ofDigitChars_nil, checked?, if_pos hrange, ← hs, Int64.ofInt_toInt]
    rfl
  | cons d ds ih =>
    have hd : d.isDigit = true := hds d List.mem_cons_self
    have hrest : ∀ x ∈ ds, x.isDigit = true := fun x hx => hds x (List.mem_cons_of_mem d hx)
    rw [List.foldlM_cons, accumulate?_eq hu hd hs, Nat.ofDigitChars_cons]
    by_cases hnext : InRange (u * ((10 * m + (d.toNat - '0'.toNat) : Nat) : Int))
    · rw [checked?, if_pos hnext, Option.bind_eq_bind, Option.bind_some]
      exact ih hrest (toInt_ofInt hnext)
    · have hlast : ¬ InRange (u * Nat.ofDigitChars 10 ds (10 * m + (d.toNat - '0'.toNat))) :=
        fun h => hnext (inRange_of_le hu (le_ofDigitChars _ _) h)
      rw [checked?_eq_none_iff.mpr hnext, checked?_eq_none_iff.mpr hlast]
      rfl

theorem readDigits_eq_readChecked (hu : u = 1 ∨ u = -1) (hs : sofar.toInt = u * m) :
    readDigits u sofar.toInt cs = readChecked u sofar cs := by
  induction cs generalizing sofar m with
  | nil => rw [readDigits, readChecked, Int64.ofInt_toInt]
  | cons c cs ih =>
    rw [readDigits, readChecked]
    by_cases hc : c.isDigit = true
    · have hnext := ten_mul_add_digitValue u m hc
      rw [if_pos hc, if_pos hc, accumulate?_eq hu hc hs, ← hnext, ← hs, checked?]
      by_cases hrange : InRange (10 * sofar.toInt + u * digitValue c)
      · have hint := toInt_ofInt hrange
        have hrest := ih (hint.trans (by rw [hs, hnext]))
        rw [hint] at hrest
        rw [if_pos hrange, if_pos hrange]
        exact hrest
      · rw [if_neg hrange, if_neg hrange]
    · rw [if_neg hc, if_neg hc]

theorem behindSign_eq_nil_iff (hne : cs ≠ []) :
    behindSign cs = [] ↔ ∃ c, isSign c = true ∧ cs = [c] := by
  obtain ⟨c, ws, rfl⟩ := List.exists_cons_of_ne_nil hne
  rw [behindSign]
  by_cases hc : isSign c = true
  · simp [hc]
  · simp only [if_neg hc, reduceCtorEq, false_iff]
    rintro ⟨d, hd, heq⟩
    cases heq
    exact hc hd

theorem readLiteral_eq_readDigits (h : behindSign cs ≠ []) :
    readLiteral cs = readDigits (signUnit (signOf cs)) 0 (behindSign cs) := by
  cases cs with
  | nil => exact absurd rfl h
  | cons c ws =>
    rw [behindSign, signOf] at *
    cases hc : isSign c with
    | true =>
      rw [hc] at h
      exact readLiteral_signed hc h
    | false => exact readLiteral_unsigned ws hc

theorem behindDigits_eq_nil_iff :
    behindDigits cs = [] ↔ ∀ c ∈ behindSign cs, c.isDigit = true :=
  List.dropWhile_eq_nil_iff

/-- A text is read as the value of its digits, unless there are none, or the value has no room, or
something is behind them, in this order. -/
theorem readLiteral_eq (hne : cs ≠ []) :
    readLiteral cs =
      if behindSign cs = [] then .error .noDigits
      else if InRange (runValue cs) then
        if behindDigits cs = [] then .ok (Int64.ofInt (runValue cs)) else .error .notDecimal
      else .error .outOfRange := by
  by_cases hsign : behindSign cs = []
  · obtain ⟨c, hc, rfl⟩ := (behindSign_eq_nil_iff hne).mp hsign
    rw [if_pos hsign, readLiteral_sign hc]
  · have hzero : signUnit (signOf cs) * ((0 : Nat) : Int) = 0 := Int.mul_zero _
    have hread := readDigits_eq (behindSign cs) 0 (signUnit_cases (signOf cs))
      (by rw [hzero]; decide)
    rw [hzero] at hread
    rw [if_neg hsign, readLiteral_eq_readDigits hsign, hread]
    by_cases hall : ∀ c ∈ behindSign cs, c.isDigit = true
    · have hrun : digitRun cs = behindSign cs := takeWhile_of_all hall
      rw [if_pos (behindDigits_eq_nil_iff.mpr hall), if_pos (List.all_eq_true.mpr hall), runValue,
        hrun, takeWhile_of_all hall]
    · rw [if_neg (mt behindDigits_eq_nil_iff.mp hall), if_neg (mt List.all_eq_true.mp hall)]
      rfl

theorem inRange_runValue (h : behindSign cs = []) : InRange (runValue cs) := by
  have hrun : digitRun cs = [] := by rw [digitRun, h]; rfl
  rw [runValue, hrun, Nat.ofDigitChars_nil, Int.natCast_zero, Int.mul_zero]
  decide

theorem overflows_iff (cs : List Char) :
    (∃ ds, ds <+: digitRun cs ∧ ds.foldlM (accumulate? (signUnit (signOf cs))) 0 = none) ↔
      ¬ InRange (runValue cs) := by
  have hu := signUnit_cases (signOf cs)
  have hdigits : ∀ d ∈ digitRun cs, d.isDigit = true := fun d => of_mem_takeWhile
  have hzero : (0 : Int64).toInt = signUnit (signOf cs) * ((0 : Nat) : Int) :=
    (Int.mul_zero _).symm
  constructor
  · rintro ⟨ds, ⟨rest, hrest⟩, hnone⟩ hrange
    have hds : ∀ d ∈ ds, d.isDigit = true := by
      intro d hd
      apply hdigits
      rw [← hrest]
      exact List.mem_append_left rest hd
    rw [foldlM_accumulate? hu hds hzero, checked?_eq_none_iff] at hnone
    -- the digits that come after them only make the number larger
    rw [runValue, ← hrest, Nat.ofDigitChars_append] at hrange
    exact hnone (inRange_of_le hu (le_ofDigitChars _ _) hrange)
  · intro hrange
    refine ⟨digitRun cs, List.prefix_rfl, ?_⟩
    rw [foldlM_accumulate? hu hdigits hzero, checked?_eq_none_iff]
    exact hrange

theorem isBlank_of_isDigit (h : isDigit c = true) : isBlank c = false := by
  cases hb : isBlank c with
  | false => rfl
  | true =>
    rw [isBlank_iff_mem] at hb
    simp only [blanks, List.mem_cons, List.not_mem_nil, or_false] at hb
    rcases hb with rfl | rfl | rfl | rfl | rfl | rfl <;> cases h

theorem startOf_of_number (h : isSign c = true ∨ isDigit c = true) : startOf c = .number := by
  rcases h with h | h
  · exact startOf_of_isSign h
  · rw [startOf, isBlank_of_isDigit h, if_neg Bool.false_ne_true, h, Bool.or_true, if_pos rfl]

theorem IsNumberText.ne_nil (h : IsNumberText cs) : cs ≠ [] := by
  rintro rfl
  exact h

theorem IsNumberText.scanFrom_eq (h : IsNumberText cs) (start : Nat) :
    scanFrom start cs = [⟨numberToken cs, spanFrom start cs⟩] := by
  obtain ⟨c, ws, rfl⟩ := List.exists_cons_of_ne_nil h.ne_nil
  obtain ⟨hc, hws⟩ := h
  have hdrop : ws.dropWhile isWordChar = [] := List.dropWhile_eq_nil_iff.mpr hws
  rw [scanFrom_number start ws (startOf_of_number hc), takeWhile_of_all hws, hdrop, scanFrom]

theorem numberToken_verdict {t : List Char} (h : IsNumberText t) : Verdict t := by
  have hne := h.ne_nil
  have hread := readLiteral_eq hne
  constructor
  case scanned => exact h.scanFrom_eq
  case int_iff =>
    intro v
    obtain ⟨c, ws, rfl⟩ := List.exists_cons_of_ne_nil hne
    rw [numberToken_eq_int_iff]
    refine exists_congr fun n => and_congr_right fun _ => and_congr_right fun hrange => ?_
    exact eq_ofInt_iff hrange
  case noDigits_iff =>
    rw [numberToken_eq_invalid_iff, hread, ← behindSign_eq_nil_iff hne]
    split_ifs <;> simp_all
  case outOfRange_iff =>
    rw [numberToken_eq_invalid_iff, hread]
    split_ifs with hsign <;> simp_all [inRange_runValue]
  case notDecimal_iff =>
    have hbehind : behindSign t = [] → behindDigits t = [] := by
      intro hsign
      rw [behindDigits, hsign]
      rfl
    rw [numberToken_eq_invalid_iff, hread]
    split_ifs <;> simp_all
  case readLiteral_eq =>
    intro hsign
    rw [readLiteral_eq_readDigits hsign]
    have hzero : (0 : Int64).toInt = signUnit (signOf t) * ((0 : Nat) : Int) :=
      (Int.mul_zero _).symm
    exact readDigits_eq_readChecked (signUnit_cases _) hzero
  case overflows_iff => exact overflows_iff t

/-- One more than there is room for, and a digit of another script behind it. -/
theorem numberToken_verdict_beyond :
    IsNumberText "9223372036854775808٣".toList ∧ Verdict "9223372036854775808٣".toList ∧
      numberToken "9223372036854775808٣".toList = .invalid .outOfRange := by
  have htext : IsNumberText "9223372036854775808٣".toList := ⟨Or.inr rfl, List.all_eq_true.mp rfl⟩
  have hverdict := numberToken_verdict htext
  exact ⟨htext, hverdict, hverdict.outOfRange_iff.mpr (by decide)⟩

end ByteBench.Source
