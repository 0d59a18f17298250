import ByteBench.Proofs.Source.Literal
import ByteBench.Source.Line

/-!
# Rows of operands

What follows a mnemonic has to be a row of numbers. Main statement: `operandValues_eq_ok_iff`, a
text is such a row exactly if it can be written as numbers with blanks before them, where the blanks
can be left out before a sign.
-/

namespace ByteBench.Source

open ByteBench.Text

/-- A number and the blanks before it. -/
structure Operand where
  gap : List Char
  numeral : Numeral
  blank_gap : ∀ c ∈ gap, c ∈ blanks

namespace Operand

def text (o : Operand) : List Char := o.gap ++ o.numeral.text

def value (o : Operand) : Int64 := Int64.ofInt o.numeral.value

/-- Whether an operand can follow another one. -/
def Apart (o : Operand) : Prop := o.gap ≠ [] ∨ o.numeral.sign ≠ none

end Operand

/-- The text `cs` is a row of operands, and then blanks. -/
structure IsRow (cs : List Char) (ops : List Operand) (trail : List Char) : Prop where
  text_eq : ops.flatMap Operand.text ++ trail = cs
  blank_trail : ∀ c ∈ trail, c ∈ blanks
  apart : ∀ o ∈ ops.tail, o.Apart
  inRange : ∀ o ∈ ops, InRange o.numeral.value

theorem startOf_of_isBlank {c : Char} (h : isBlank c = true) : startOf c = .blank := by
  rw [startOf, if_pos h]

theorem isBlank_of_startOf {c : Char} (h : startOf c = .blank) : isBlank c = true := by
  unfold startOf at h
  split at h
  · next hb => exact hb
  · split at h
    · cases h
    · split at h <;> cases h

theorem startOf_of_isSign {c : Char} (h : isSign c = true) : startOf c = .number := by
  rcases isSign_cases h with rfl | rfl <;> rfl

theorem startOf_of_isDigit {c : Char} (h : c.isDigit = true) : startOf c = .number := by
  have hblank : isBlank c = false := isBlank_of_isWordChar (isWordChar_of_isDigit h)
  have hnumber : (isSign c || isDigit c) = true := by rw [isDigit_of_ascii h, Bool.or_true]
  rw [startOf, if_neg (by rw [hblank]; decide), if_pos hnumber]

theorem isWordChar_of_isSign {c : Char} (h : isSign c = true) : isWordChar c = false := by
  rcases isSign_cases h with rfl | rfl <;> rfl

theorem numberToken_eq_int_iff {c : Char} {cs : List Char} {v : Int64} :
    numberToken (c :: cs) = .int v ↔
      ∃ n : Numeral, n.text = c :: cs ∧ InRange n.value ∧ v = Int64.ofInt n.value := by
  have hne : c :: cs ≠ [] := List.cons_ne_nil c cs
  rw [← readLiteral_eq_ok_iff hne, numberToken]
  cases readLiteral (c :: cs) with
  | ok value => simp
  | error error => simp

/-- The first character of a number begins it, and the others go on with it. -/
theorem Numeral.text_eq_cons (n : Numeral) :
    ∃ c cs, n.text = c :: cs ∧ startOf c = .number ∧ ∀ x ∈ cs, isWordChar x = true := by
  obtain ⟨sign, digits, hsign, hne, hdigits⟩ := n
  have hword : ∀ x ∈ digits, isWordChar x = true := by
    intro x hx
    exact isWordChar_of_isDigit (hdigits x hx)
  cases sign with
  | some c => exact ⟨c, digits, rfl, startOf_of_isSign (hsign c rfl), hword⟩
  | none =>
    obtain ⟨d, ds, rfl⟩ := List.exists_cons_of_ne_nil hne
    refine ⟨d, ds, rfl, startOf_of_isDigit (hdigits d List.mem_cons_self), ?_⟩
    intro x hx
    exact hword x (List.mem_cons_of_mem d hx)

/-- A number is cut out of a text as a whole, if no more of it can follow. -/
theorem scanFrom_numeral (start : Nat) (n : Numeral) {rest : List Char}
    (h : ∀ c ∈ rest.head?, isWordChar c = false) :
    scanFrom start (n.text ++ rest) =
      ⟨numberToken n.text, spanFrom start n.text⟩ :: scanFrom (start + byteLength n.text) rest := by
  obtain ⟨c, cs, htext, hstart, hword⟩ := n.text_eq_cons
  rw [htext, List.cons_append, scanFrom_number start _ hstart, takeWhile_run hword h,
    dropWhile_run hword h]

theorem scanFrom_blanks (start : Nat) {gap : List Char} (cs : List Char)
    (h : ∀ c ∈ gap, c ∈ blanks) :
    scanFrom start (gap ++ cs) = scanFrom (start + byteLength gap) cs := by
  induction gap generalizing start with
  | nil => rfl
  | cons c gap ih =>
    have hc : startOf c = .blank :=
      startOf_of_isBlank (isBlank_iff_mem.mpr (h c List.mem_cons_self))
    have hgap : ∀ x ∈ gap, x ∈ blanks := by
      intro x hx
      exact h x (List.mem_cons_of_mem c hx)
    rw [List.cons_append, scanFrom_blank start _ hc, ih _ hgap, byteLength_cons, Nat.add_assoc]

namespace IsRow

variable {cs : List Char} {o : Operand} {ops : List Operand} {trail : List Char}

theorem tail_apart (h : IsRow cs (o :: ops) trail) : ∀ x ∈ ops.tail, x.Apart := by
  intro x hx
  exact h.apart x (List.mem_of_mem_tail hx)

theorem isWordChar_head? (hapart : ∀ x ∈ ops.head?, x.Apart) (htrail : ∀ c ∈ trail, c ∈ blanks) :
    ∀ c ∈ (ops.flatMap Operand.text ++ trail).head?, isWordChar c = false := by
  have hblank : ∀ {c : Char}, c ∈ blanks → isWordChar c = false := by
    intro c hc
    exact isWordChar_of_isBlank (isBlank_iff_mem.mpr hc)
  cases ops with
  | nil =>
    intro c hc
    exact hblank (htrail c (List.mem_of_mem_head? hc))
  | cons o ops =>
    obtain ⟨gap, ⟨sign, digits, hsign, hne, hdigits⟩, hgap⟩ := o
    intro c hc
    cases gap with
    | cons b gap =>
      cases hc
      exact hblank (hgap c List.mem_cons_self)
    | nil =>
      cases sign with
      | some s =>
        cases hc
        exact isWordChar_of_isSign (hsign c rfl)
      | none =>
        have happart := hapart _ rfl
        simp [Operand.Apart] at happart

end IsRow

theorem IsRow.operandValues_eq {cs : List Char} {ops : List Operand} {trail : List Char}
    (h : IsRow cs ops trail) (start : Nat) :
    operandValues (scanFrom start cs) = .ok (ops.map Operand.value) := by
  induction ops generalizing cs start with
  | nil =>
    obtain ⟨rfl, htrail, -, -⟩ := h
    have hscan := scanFrom_blanks start [] htrail
    rw [List.append_nil] at hscan
    rw [List.flatMap_nil, List.nil_append, hscan, scanFrom]
    rfl
  | cons o ops ih =>
    have htail : IsRow (ops.flatMap Operand.text ++ trail) ops trail :=
      ⟨rfl, h.blank_trail, h.tail_apart, fun x hx => h.inRange x (List.mem_cons_of_mem o hx)⟩
    have hhead : ∀ x ∈ ops.head?, x.Apart := by
      intro x hx
      exact h.apart x (List.mem_of_mem_head? hx)
    have hstop := IsRow.isWordChar_head? hhead h.blank_trail
    have hnumber : numberToken o.numeral.text = .int o.value := by
      obtain ⟨c, ds, hc, -, -⟩ := o.numeral.text_eq_cons
      rw [hc]
      exact numberToken_eq_int_iff.mpr ⟨o.numeral, hc, h.inRange o List.mem_cons_self, rfl⟩
    rw [← h.text_eq, List.flatMap_cons, Operand.text, List.append_assoc, List.append_assoc,
      scanFrom_blanks start _ o.blank_gap, scanFrom_numeral _ _ hstop, hnumber, operandValues,
      ih htail]
    rfl

theorem operandValues_cons_eq_ok_iff {token : Token} {span : Span} {rest : List Lexeme}
    {vs : List Int64} :
    operandValues (⟨token, span⟩ :: rest) = .ok vs ↔
      ∃ v ws, token = .int v ∧ operandValues rest = .ok ws ∧ vs = v :: ws := by
  cases token with
  | int value =>
    rw [operandValues]
    cases operandValues rest with
    | ok ws => simp [Except.map, eq_comm]
    | error e => simp [Except.map]
  | name text => simp [operandValues]
  | invalid error => simp [operandValues]

/-- A blank before a row belongs to its first operand, or to what follows the last one. -/
theorem IsRow.cons_blank {c : Char} {cs : List Char} {ops : List Operand} {trail : List Char}
    (h : IsRow cs ops trail) (hc : c ∈ blanks) :
    ∃ ops' trail', IsRow (c :: cs) ops' trail' ∧
      ops'.map Operand.value = ops.map Operand.value := by
  obtain ⟨rfl, htrail, hapart, hrange⟩ := h
  cases ops with
  | nil =>
    refine ⟨[], c :: trail, ⟨rfl, ?_, hapart, hrange⟩, rfl⟩
    intro x hx
    rcases List.mem_cons.mp hx with rfl | hx
    · exact hc
    · exact htrail x hx
  | cons o ops =>
    have hgap : ∀ x ∈ c :: o.gap, x ∈ blanks := by
      intro x hx
      rcases List.mem_cons.mp hx with rfl | hx
      · exact hc
      · exact o.blank_gap x hx
    refine ⟨⟨c :: o.gap, o.numeral, hgap⟩ :: ops, trail, ⟨rfl, htrail, hapart, ?_⟩, rfl⟩
    intro x hx
    rcases List.mem_cons.mp hx with rfl | hx
    · exact hrange o List.mem_cons_self
    · exact hrange x (List.mem_cons_of_mem o hx)

/-- A number before a row is one more operand, if the row does not go on with a word character. -/
theorem IsRow.cons_numeral {n : Numeral} {cs : List Char} {ops : List Operand} {trail : List Char}
    (h : IsRow cs ops trail) (hn : InRange n.value) (hstop : ∀ c ∈ cs.head?, isWordChar c = false) :
    IsRow (n.text ++ cs) (⟨[], n, List.forall_mem_nil _⟩ :: ops) trail := by
  obtain ⟨rfl, htrail, hapart, hrange⟩ := h
  refine ⟨?_, htrail, ?_, ?_⟩
  · rw [List.flatMap_cons, List.append_assoc]
    rfl
  · intro x hx
    cases ops with
    | nil => cases hx
    | cons o ops =>
      rcases List.mem_cons.mp hx with rfl | hx
      · obtain ⟨gap, ⟨sign, digits, hsign, hne, hdigits⟩, hgap⟩ := x
        cases gap with
        | cons b gap => exact Or.inl (List.cons_ne_nil b gap)
        | nil =>
          cases sign with
          | some s => exact Or.inr (Option.some_ne_none s)
          | none =>
            obtain ⟨d, ds, rfl⟩ := List.exists_cons_of_ne_nil hne
            have hword := isWordChar_of_isDigit (hdigits d List.mem_cons_self)
            have hnone : isWordChar d = false := hstop d rfl
            rw [hnone] at hword
            cases hword
      · exact hapart x hx
  · intro x hx
    rcases List.mem_cons.mp hx with rfl | hx
    · exact hn
    · exact hrange x hx

/-- Whatever text is read without a fault is a row of operands. -/
theorem exists_isRow {start : Nat} {cs : List Char} {vs : List Int64}
    (h : operandValues (scanFrom start cs) = .ok vs) :
    ∃ ops trail, IsRow cs ops trail ∧ vs = ops.map Operand.value := by
  fun_induction scanFrom start cs generalizing vs with
  | case1 start =>
    cases h
    exact ⟨[], [], ⟨rfl, by simp, by simp, by simp⟩, rfl⟩
  | case2 start c cs hc ih =>
    obtain ⟨ops, trail, hrow, hvs⟩ := ih h
    have hblank : c ∈ blanks := isBlank_iff_mem.mp (isBlank_of_startOf hc)
    obtain ⟨ops', trail', hrow', hvalues⟩ := hrow.cons_blank hblank
    exact ⟨ops', trail', hrow', hvs.trans hvalues.symm⟩
  | case3 start c cs hc ih =>
    obtain ⟨v, ws, htoken, -, -⟩ := operandValues_cons_eq_ok_iff.mp h
    cases htoken
  | case4 start c cs hc word =>
    rename_i ih
    obtain ⟨v, ws, htoken, hrest, hvs⟩ := operandValues_cons_eq_ok_iff.mp h
    obtain ⟨n, htext, hrange, hv⟩ := numberToken_eq_int_iff.mp htoken
    obtain ⟨ops, trail, hrow, hws⟩ := ih hrest
    have hall := hrow.cons_numeral hrange (head?_dropWhile isWordChar cs)
    rw [htext, List.cons_append, List.takeWhile_append_dropWhile] at hall
    refine ⟨_, trail, hall, ?_⟩
    rw [hvs, hws, hv]
    rfl
  | case5 start c cs hc word =>
    obtain ⟨v, ws, htoken, -, -⟩ := operandValues_cons_eq_ok_iff.mp h
    cases htoken

theorem operandValues_eq_ok_iff {start : Nat} {cs : List Char} {vs : List Int64} :
    operandValues (scanFrom start cs) = .ok vs ↔
      ∃ ops trail, IsRow cs ops trail ∧ vs = ops.map Operand.value := by
  constructor
  · exact exists_isRow
  · rintro ⟨ops, trail, hrow, rfl⟩
    exact hrow.operandValues_eq start

end ByteBench.Source
