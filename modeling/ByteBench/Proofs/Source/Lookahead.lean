import ByteBench.Proofs.Source.Rejection

/-!
# What is behind a token does not matter

A token that is no operand is found by reading up to its end. Main statements: `BreaksOff.retext`,
it is found again if blanks or nothing stand behind it, and `parseLine_settled`, the line is refused
for the same token then, and without the token only the number of operands can be wrong.
-/

namespace ByteBench

namespace Text

/-- The text up to a byte, if it can be cut there. -/
def upTo? (n : Nat) (text : String) : Option String :=
  (cutAtByte? n text.toList).map fun parts => String.ofList parts.1

theorem upTo?_byteLength {text : String} {before after : List Char}
    (h : before ++ after = text.toList) :
    upTo? (byteLength before) text = some (String.ofList before) := by
  simp only [upTo?, ← h, cutAtByte?_append, Option.map_some]

theorem head?_append_left {xs : List Char} (h : xs ≠ []) (ys : List Char) :
    (xs ++ ys).head? = xs.head? := by
  cases xs with
  | nil => exact absurd rfl h
  | cons x xs => rfl

end Text

namespace Source

open ByteBench.Text

/-- Whether a fault lies in a token, and not in the number of operands. -/
def OperandFault.InToken (reason : OperandFault) : Prop :=
  ∀ expected found, reason ≠ .count expected found

variable {cs lead word rest before text after tail : List Char} {reason : OperandFault}
  {line : String} {d : Diagnostic} {m : Mnemonic}

theorem Faulty.ne_nil (h : Faulty text after reason) : text ≠ [] := by
  cases h <;> simp

theorem Faulty.retext (h : Faulty text after reason) (ht : ∀ c ∈ tail.head?, c ∈ blanks) :
    Faulty text tail reason := by
  have hstop : ∀ c ∈ tail.head?, isWordChar c = false := by
    intro c hc
    exact isWordChar_of_isBlank (isBlank_iff_mem.mpr (ht c hc))
  cases h with
  | name hc hcs hafter => exact .name hc hcs hstop
  | number hc hcs hafter herror => exact .number hc hcs hstop herror
  | symbol hc => exact .symbol hc

theorem BreaksOff.retext (h : BreaksOff cs before text after reason)
    (ht : ∀ c ∈ tail.head?, c ∈ blanks) :
    BreaksOff (before ++ (text ++ tail)) before text tail reason := by
  obtain ⟨-, hrow, hparted, hfaulty⟩ := h
  refine ⟨rfl, hrow, ?_, hfaulty.retext ht⟩
  -- whether a cut can be made depends on how the token begins only
  unfold Parted at hparted ⊢
  rw [head?_append_left hfaulty.ne_nil] at hparted ⊢
  exact hparted

theorem FirstWord.retext (h : FirstWord cs lead word rest) (hne : word ≠ [])
    (ht : ∀ c ∈ tail.head?, c ∈ blanks) : FirstWord (lead ++ (word ++ tail)) lead word tail :=
  ⟨rfl, h.blank_lead, h.not_blank, ht, fun hnil => absurd hnil hne⟩

theorem exists_breaksOff_of_error (h : parseLine line = .error d)
    (hfault : d.fault = .malformedOperands m reason) (htoken : reason.InToken) :
    d.lineIndex = none ∧ ∃ lead word rest before text after,
      FirstWord line.toList lead word rest ∧ word.map Char.toUpper = m.name.toList ∧
        BreaksOff rest before text after reason ∧
          d.span.Covers line.toList (lead ++ word ++ before) text := by
  have hcut := firstWord_ofLine line.toList
  rcases parseLine_eq_error_iff_lookup.mp h with ⟨-, rfl⟩ | ⟨m', hm, reason', span, hread, rfl⟩
  · cases hfault
  · cases hfault
    rcases readOperands_eq_error_iff.mp hread with hvalues | ⟨vs, -, -, hcount, -⟩
    · obtain ⟨before, text, after, hbreaks, hspan⟩ := operandValues_eq_error_iff.mp hvalues
      exact ⟨rfl, _, _, _, before, text, after, hcut, lookup?_eq_some_iff.mp hm, hbreaks,
        (hcut.covers_token_iff hbreaks).mpr hspan⟩
    · exact absurd hcount (htoken _ _)

/-- A mnemonic and a row of numbers make up an instruction, unless they are too few or too many. -/
theorem parseLine_of_row {ops : List Operand} {trail : List Char}
    (hcut : FirstWord line.toList lead word rest) (hname : word.map Char.toUpper = m.name.toList)
    (hrow : IsRow rest ops trail) :
    (∃ i, parseLine line = .ok i ∧ i.mnemonic = m) ∨
      ∃ d expected found, parseLine line = .error d ∧
        d.fault = .malformedOperands m (.count expected found) := by
  cases hi : Instr.ofOperands m (ops.map Operand.value) with
  | ok i =>
    left
    refine ⟨i, ?_, Instr.mnemonic_of_ofOperands hi⟩
    rw [parseLine_eq_ok_iff_lookup, hcut.ofLine_eq]
    exact ⟨m, lookup?_eq_some_iff.mpr hname,
      readOperands_eq_ok_iff.mpr ⟨_, hrow.operandValues_eq _, hi⟩⟩
  | error n =>
    right
    obtain ⟨hcount, -⟩ := Instr.ofOperands_eq_error_iff.mp hi
    rw [List.length_map] at hcount
    have hrejects := Rejects.count hcut hname hrow hcount
      ((hcut.covers_operands_iff hname hrow).mpr rfl)
    exact ⟨_, _, _, hrejects.parseLine_eq, rfl⟩

/-- What is said of a token does not depend on what follows it, and nothing is wrong with the line
before it but perhaps the number of operands. -/
structure Settled (line : String) (d : Diagnostic) (m : Mnemonic) : Prop where
  through_stop : ∃ front, upTo? d.span.stop line = some front ∧
    ∀ tail : String, (∀ c ∈ tail.toList.head?, c ∈ blanks) →
      parseLine (front ++ tail) = .error { d with line := front ++ tail }
  before_start : ∃ front, upTo? d.span.start line = some front ∧
    ((∃ i, parseLine front = .ok i ∧ i.mnemonic = m) ∨
      ∃ d' expected found, parseLine front = .error d' ∧
        d'.fault = .malformedOperands m (.count expected found))

theorem FirstWord.blank_before (h : FirstWord cs lead word rest)
    (hbreaks : BreaksOff rest before text after reason) : ∀ c ∈ before.head?, c ∈ blanks := by
  intro c hc
  apply h.blank_rest c
  rw [← hbreaks.text_eq, head?_append_left (by rintro rfl; cases hc)]
  exact hc

theorem BreaksOff.head?_eq (h : BreaksOff cs before text after reason) (tail : List Char) :
    (before ++ (text ++ tail)).head? = cs.head? := by
  have hne : before ++ text ≠ [] := by simp [h.faulty.ne_nil]
  rw [← h.text_eq, ← List.append_assoc, ← List.append_assoc, head?_append_left hne,
    head?_append_left hne]

/-- The token after the mnemonic and its first operands is no operand, so that the line is refused,
whatever stands behind the token. -/
theorem BreaksOff.parseLine_eq {front : List Char} {tail : String}
    (hbreaks : BreaksOff rest before text after reason) (hcut : FirstWord cs lead word rest)
    (hname : word.map Char.toUpper = m.name.toList) (ht : ∀ c ∈ tail.toList.head?, c ∈ blanks)
    (hfront : front = lead ++ (word ++ (before ++ text))) :
    parseLine (String.ofList front ++ tail) =
      .error ⟨.malformedOperands m reason,
          spanFrom (byteLength (lead ++ word ++ before)) text, String.ofList front ++ tail,
          none⟩ := by
  have htail := hbreaks.retext ht
  have hblank : ∀ c ∈ (before ++ (text ++ tail.toList)).head?, c ∈ blanks := by
    rw [hbreaks.head?_eq]
    exact hcut.blank_rest
  have hcut' := hcut.retext (word_ne_nil hname) hblank
  have hline : (String.ofList front ++ tail).toList =
      lead ++ (word ++ (before ++ (text ++ tail.toList))) := by
    simp [hfront]
  rw [← hline] at hcut'
  refine (Rejects.token hcut' hname htail ?_).parseLine_eq
  rw [hcut'.covers_token_iff htail]
  simp [spanFrom, Nat.add_assoc]

theorem parseLine_settled (h : parseLine line = .error d)
    (hfault : d.fault = .malformedOperands m reason) (htoken : reason.InToken) :
    Settled line d m := by
  obtain ⟨hindex, lead, word, rest, before, text, after, hcut, hname, hbreaks, hcovers⟩ :=
    exists_breaksOff_of_error h hfault htoken
  have hline : lead ++ word ++ before ++ (text ++ after) = line.toList := by
    rw [List.append_assoc, hbreaks.text_eq, List.append_assoc, hcut.text_eq]
  obtain ⟨fault, span, line', index⟩ := d
  have hspan := (Span.covers_iff_of_text hline).mp hcovers
  cases hfault
  cases hindex
  cases hspan
  constructor
  · have hfront : lead ++ word ++ before ++ text ++ after = line.toList := by
      rw [← hline, List.append_assoc (lead ++ word ++ before)]
    have hcutoff := upTo?_byteLength hfront
    rw [byteLength_append] at hcutoff
    refine ⟨_, hcutoff, fun tail ht => ?_⟩
    exact hbreaks.parseLine_eq hcut hname ht (by simp)
  · refine ⟨_, upTo?_byteLength hline, ?_⟩
    obtain ⟨ops, trail, hrow⟩ := hbreaks.row
    have hbefore := hcut.retext (word_ne_nil hname) (hcut.blank_before hbreaks)
    have hline' : (String.ofList (lead ++ word ++ before)).toList = lead ++ (word ++ before) := by
      simp
    rw [← hline'] at hbefore
    exact parseLine_of_row hbefore hname hrow

theorem parseLine_settled_cmp :
    parseLine "\tcmp 12-7é 3" =
        .error ⟨.malformedOperands (.op .cmp) (.lexical .notDecimal), ⟨7, 11⟩, "\tcmp 12-7é 3",
          none⟩ ∧
      OperandFault.InToken (.lexical .notDecimal) ∧
      Settled "\tcmp 12-7é 3"
        ⟨.malformedOperands (.op .cmp) (.lexical .notDecimal), ⟨7, 11⟩, "\tcmp 12-7é 3", none⟩
        (.op .cmp) := by
  have h : parseLine "\tcmp 12-7é 3" =
      .error ⟨.malformedOperands (.op .cmp) (.lexical .notDecimal), ⟨7, 11⟩, "\tcmp 12-7é 3",
        none⟩ := by
    with_unfolding_all rfl
  have htoken : OperandFault.InToken (.lexical .notDecimal) := nofun
  exact ⟨h, htoken, parseLine_settled h rfl htoken⟩

end Source

end ByteBench
