import ByteBench.Proofs.Source.Scanning
import ByteBench.Proofs.Source.Separation
import ByteBench.Proofs.Text.Span

/-!
# Why a line is refused

Main statement: `parseLine_eq_error_iff`, the diagnostics of the lines that are no instruction: the
first word is looked at first, then the tokens after it in their order, then their number, and the
span covers the characters that the fault is about.
-/

namespace ByteBench.Source

open ByteBench.Text

/-- The text `text`, with `after` behind it, is one token, and not a number that can be read: what
is wrong with it. -/
inductive Faulty : List Char → List Char → OperandFault → Prop
  | name {c : Char} {cs after : List Char} (hc : startOf c = .name)
      (hcs : ∀ x ∈ cs, isWordChar x = true) (hafter : ∀ x ∈ after.head?, isWordChar x = false) :
      Faulty (c :: cs) after (.notInteger (String.ofList (c :: cs)))
  | number {c : Char} {cs after : List Char} {error : LexError} (hc : startOf c = .number)
      (hcs : ∀ x ∈ cs, isWordChar x = true) (hafter : ∀ x ∈ after.head?, isWordChar x = false)
      (herror : readLiteral (c :: cs) = .error error) : Faulty (c :: cs) after (.lexical error)
  | symbol {c : Char} {after : List Char} (hc : startOf c = .symbol) :
      Faulty [c] after (.lexical .symbol)

/-- The text `cs` is a row of operands up to the token `text`, which is no operand. -/
structure BreaksOff (cs before text after : List Char) (reason : OperandFault) : Prop where
  text_eq : before ++ (text ++ after) = cs
  row : ∃ ops trail, IsRow before ops trail
  parted : Parted before (text ++ after)
  faulty : Faulty text after reason

variable {c : Char} {cs before text after : List Char} {reason : OperandFault} {start : Nat}
  {span : Span}

theorem numberToken_eq_invalid_iff {error : LexError} :
    numberToken cs = .invalid error ↔ readLiteral cs = .error error := by
  rw [numberToken]
  cases readLiteral cs with
  | ok value => simp
  | error error' => simp

theorem numberToken_ne_name (cs : List Char) (text : String) : numberToken cs ≠ .name text := by
  intro h
  rw [numberToken] at h
  cases hread : readLiteral cs with
  | ok value =>
    rw [hread] at h
    cases h
  | error error =>
    rw [hread] at h
    cases h

theorem operandValues_append {ls : List Lexeme} {vs : List Int64} (ls' : List Lexeme)
    (h : operandValues ls = .ok vs) :
    operandValues (ls ++ ls') = (operandValues ls').map (vs ++ ·) := by
  induction ls generalizing vs with
  | nil =>
    cases h
    cases hrest : operandValues ls' with
    | ok ws => rw [List.nil_append, hrest]; rfl
    | error e => rw [List.nil_append, hrest]; rfl
  | cons l ls ih =>
    obtain ⟨token, span⟩ := l
    obtain ⟨v, ws, rfl, hws, rfl⟩ := operandValues_cons_eq_ok_iff.mp h
    rw [List.cons_append, operandValues, ih hws]
    cases operandValues ls' <;> rfl

theorem operandValues_int_eq_error {v : Int64} {rest : List Lexeme} {e : OperandFault × Span}
    (h : operandValues (⟨.int v, span⟩ :: rest) = .error e) : operandValues rest = .error e := by
  rw [operandValues] at h
  cases hrest : operandValues rest with
  | ok vs =>
    rw [hrest] at h
    cases h
  | error e' =>
    rw [hrest] at h
    cases h
    rfl

/-- A token that is no operand is found where it begins. -/
theorem Faulty.operandValues_eq (h : Faulty text after reason) (start : Nat) :
    operandValues (scanFrom start (text ++ after)) = .error (reason, spanFrom start text) := by
  cases h with
  | @name c cs _ hc hcs hafter =>
    rw [List.cons_append, scanFrom_name start _ hc, takeWhile_run hcs hafter]
    rfl
  | @number c cs _ error hc hcs hafter herror =>
    have htoken := numberToken_eq_invalid_iff.mpr herror
    rw [List.cons_append, scanFrom_number start _ hc, takeWhile_run hcs hafter, htoken]
    rfl
  | symbol hc =>
    rw [List.cons_append, scanFrom_symbol start _ hc]
    rfl

theorem BreaksOff.operandValues_eq (h : BreaksOff cs before text after reason) (start : Nat) :
    operandValues (scanFrom start cs) =
      .error (reason, spanFrom (start + byteLength before) text) := by
  obtain ⟨rfl, ⟨ops, trail, hrow⟩, hparted, hfaulty⟩ := h
  rw [scanFrom_append start hparted, operandValues_append _ (hrow.operandValues_eq start),
    hfaulty.operandValues_eq]
  rfl

theorem isRow_nil : IsRow [] [] [] := ⟨rfl, nofun, nofun, nofun⟩

theorem Faulty.breaksOff (h : Faulty text after reason) :
    BreaksOff (text ++ after) [] text after reason :=
  ⟨rfl, ⟨[], [], isRow_nil⟩, nofun, h⟩

theorem BreaksOff.cons_blank (h : BreaksOff cs before text after reason) (hc : c ∈ blanks) :
    BreaksOff (c :: cs) (c :: before) text after reason := by
  obtain ⟨rfl, ⟨ops, trail, hrow⟩, hparted, hfaulty⟩ := h
  obtain ⟨ops', trail', hrow', -⟩ := hrow.cons_blank hc
  refine ⟨rfl, ⟨ops', trail', hrow'⟩, ?_, hfaulty⟩
  apply hparted.append [c]
  rintro - d hd hword b ⟨⟩
  exact hc

theorem BreaksOff.append_numeral {n : Numeral} (h : BreaksOff cs before text after reason)
    (hn : InRange n.value) (hstop : ∀ x ∈ cs.head?, isWordChar x = false) :
    BreaksOff (n.text ++ cs) (n.text ++ before) text after reason := by
  obtain ⟨rfl, ⟨ops, trail, hrow⟩, hparted, hfaulty⟩ := h
  have hbefore : ∀ x ∈ before.head?, isWordChar x = false := by
    intro x hx
    apply hstop x
    rw [Option.mem_def] at hx ⊢
    rw [List.head?_append, hx]
    rfl
  refine ⟨List.append_assoc _ _ _, ⟨_, trail, hrow.cons_numeral hn hbefore⟩, ?_, hfaulty⟩
  apply hparted.append n.text
  rintro rfl
  exact parted_of_head? hstop

/-- A text that is no row of operands breaks off at the first token that is none. -/
theorem exists_breaksOff (h : operandValues (scanFrom start cs) = .error (reason, span)) :
    ∃ before text after, BreaksOff cs before text after reason ∧
      span = spanFrom (start + byteLength before) text := by
  fun_induction scanFrom start cs with
  | case1 => cases h
  | case2 start c cs hc ih =>
    obtain ⟨before, text, after, hbreaks, hspan⟩ := ih h
    have hblank : c ∈ blanks := isBlank_iff_mem.mp (isBlank_of_startOf hc)
    refine ⟨c :: before, text, after, hbreaks.cons_blank hblank, ?_⟩
    rw [hspan, byteLength_cons, Nat.add_assoc]
  | case3 start c cs hc =>
    cases h
    exact ⟨[], [c], cs, (Faulty.symbol hc).breaksOff, rfl⟩
  | case4 start c cs hc word ih =>
    have htext : word ++ cs.dropWhile isWordChar = c :: cs := word_append_rest isWordChar c cs
    have hstop := head?_dropWhile isWordChar cs
    cases htoken : numberToken word with
    | int v =>
      obtain ⟨n, hn, hrange, -⟩ := numberToken_eq_int_iff.mp htoken
      rw [htoken] at h
      obtain ⟨before, text, after, hbreaks, hspan⟩ := ih (operandValues_int_eq_error h)
      have hall := hbreaks.append_numeral hrange hstop
      rw [hn, htext] at hall
      refine ⟨_, text, after, hall, ?_⟩
      rw [hspan, byteLength_append, Nat.add_assoc]
    | name text => exact absurd htoken (numberToken_ne_name word text)
    | invalid error =>
      have hfaulty : Faulty word (cs.dropWhile isWordChar) (.lexical error) :=
        .number hc (fun _ => of_mem_takeWhile) hstop (numberToken_eq_invalid_iff.mp htoken)
      have hall := hfaulty.breaksOff
      rw [htext] at hall
      rw [htoken] at h
      cases h
      exact ⟨[], word, _, hall, rfl⟩
  | case5 start c cs hc word =>
    have htext : word ++ cs.dropWhile isWordChar = c :: cs := word_append_rest isWordChar c cs
    have hfaulty : Faulty word (cs.dropWhile isWordChar) (.notInteger (String.ofList word)) :=
      .name hc (fun _ => of_mem_takeWhile) (head?_dropWhile isWordChar cs)
    have hall := hfaulty.breaksOff
    rw [htext] at hall
    cases h
    exact ⟨[], word, _, hall, rfl⟩

theorem operandValues_eq_error_iff :
    operandValues (scanFrom start cs) = .error (reason, span) ↔
      ∃ before text after, BreaksOff cs before text after reason ∧
        span = spanFrom (start + byteLength before) text := by
  constructor
  · exact exists_breaksOff
  · rintro ⟨before, text, after, hbreaks, rfl⟩
    exact hbreaks.operandValues_eq start

/-- Why a text is no instruction, and the characters that this is about. -/
inductive Rejects (cs : List Char) : Fault → Span → Prop
  | unknown {lead word rest : List Char} {span : Span} (hcut : FirstWord cs lead word rest)
      (hname : ∀ m : Mnemonic, word.map Char.toUpper ≠ m.name.toList)
      (hspan : span.Covers cs lead word) :
      Rejects cs (.unknownInstruction (String.ofList word)) span
  | token {lead word rest before text after : List Char} {m : Mnemonic} {reason : OperandFault}
      {span : Span} (hcut : FirstWord cs lead word rest)
      (hname : word.map Char.toUpper = m.name.toList)
      (hbreaks : BreaksOff rest before text after reason)
      (hspan : span.Covers cs (lead ++ word ++ before) text) :
      Rejects cs (.malformedOperands m reason) span
  | count {lead word rest : List Char} {m : Mnemonic} {ops : List Operand} {trail : List Char}
      {span : Span} (hcut : FirstWord cs lead word rest)
      (hname : word.map Char.toUpper = m.name.toList) (hrow : IsRow rest ops trail)
      (hcount : m.operandCount ≠ ops.length)
      (hspan : span.Covers cs lead (word ++ ops.flatMap Operand.text)) :
      Rejects cs (.malformedOperands m (.count m.operandCount ops.length)) span

theorem lookup?_eq_none_iff {word : List Char} :
    Mnemonic.lookup? word = none ↔ ∀ m : Mnemonic, word.map Char.toUpper ≠ m.name.toList := by
  constructor
  · intro h m hm
    rw [lookup?_eq_some_iff.mpr hm] at h
    cases h
  · intro h
    cases hfound : Mnemonic.lookup? word with
    | none => rfl
    | some m => exact absurd (lookup?_eq_some_iff.mp hfound) (h m)

theorem readOperands_eq_error_iff {m : Mnemonic} {word : Span} {line rest : List Char}
    {reason : OperandFault} {span : Span} :
    readOperands m word line rest = .error (reason, span) ↔
      operandValues (scanFrom word.stop rest) = .error (reason, span) ∨
        ∃ vs, operandValues (scanFrom word.stop rest) = .ok vs ∧ m.operandCount ≠ vs.length ∧
          reason = .count m.operandCount vs.length ∧
            span = ⟨word.start, byteLength (trimEnd line)⟩ := by
  rw [readOperands]
  cases hvs : operandValues (scanFrom word.stop rest) with
  | error e => simp [bind, Except.bind]
  | ok vs =>
    simp only [bind, Except.bind, Except.ok.injEq, exists_eq_left', reduceCtorEq, false_or]
    cases hi : Instr.ofOperands m vs with
    | ok instr =>
      have hcount := Instr.length_of_ofOperands hi
      simp [hcount]
    | error n =>
      obtain ⟨hcount, rfl⟩ := Instr.ofOperands_eq_error_iff.mp hi
      simp [hcount, eq_comm]

theorem trimEnd_append {xs trail : List Char} (htrail : ∀ c ∈ trail, c ∈ blanks)
    (hxs : ∀ c ∈ xs.getLast?, c ∉ blanks) : trimEnd (xs ++ trail) = xs := by
  have hblank : ∀ c ∈ trail.reverse, isBlank c = true := by
    intro c hc
    exact isBlank_iff_mem.mpr (htrail c (List.mem_reverse.mp hc))
  have hsolid : ∀ c ∈ xs.reverse.head?, isBlank c = false := by
    intro c hc
    rw [List.head?_reverse] at hc
    exact isBlank_of_not_mem (hxs c hc)
  rw [trimEnd, List.reverse_append, dropWhile_run hblank hsolid, List.reverse_reverse]

theorem not_blank_getLast?_append (xs : List Char) {ys : List Char} (hne : ys ≠ [])
    (hys : ∀ c ∈ ys, c ∉ blanks) : ∀ c ∈ (xs ++ ys).getLast?, c ∉ blanks := by
  intro c hc
  rw [List.getLast?_append_of_ne_nil xs hne] at hc
  exact hys c (List.mem_of_getLast? hc)

/-- Operands end in a digit, so that a text does not end in a blank for the operands after it. -/
theorem not_blank_getLast?_operands {xs : List Char} (hxs : ∀ c ∈ xs.getLast?, c ∉ blanks)
    (ops : List Operand) : ∀ c ∈ (xs ++ ops.flatMap Operand.text).getLast?, c ∉ blanks := by
  induction ops generalizing xs with
  | nil =>
    rw [List.flatMap_nil, List.append_nil]
    exact hxs
  | cons o ops ih =>
    have ho := not_blank_getLast?_append (xs ++ o.gap) o.numeral.text_ne_nil o.numeral.not_blank
    have hall := ih ho
    rw [List.append_assoc, List.append_assoc, ← List.append_assoc o.gap] at hall
    rw [List.flatMap_cons]
    exact hall

theorem word_ne_nil {word : List Char} {m : Mnemonic}
    (hname : word.map Char.toUpper = m.name.toList) : word ≠ [] := by
  rintro rfl
  exact name_ne_nil m hname.symm

/-- Without the blanks at its end a line goes up to its last operand, or its mnemonic if there is
none. -/
theorem FirstWord.trimEnd_eq {lead word rest trail : List Char} {m : Mnemonic} {ops : List Operand}
    (h : FirstWord cs lead word rest) (hname : word.map Char.toUpper = m.name.toList)
    (hrow : IsRow rest ops trail) :
    trimEnd cs = lead ++ (word ++ ops.flatMap Operand.text) := by
  have hword := not_blank_getLast?_append lead (word_ne_nil hname) h.not_blank
  have hend := not_blank_getLast?_operands hword ops
  rw [← h.text_eq, ← hrow.text_eq, ← List.append_assoc, ← List.append_assoc,
    trimEnd_append hrow.blank_trail hend, List.append_assoc]

theorem FirstWord.covers_token_iff {lead word rest before text after : List Char}
    {reason : OperandFault} (h : FirstWord cs lead word rest)
    (hbreaks : BreaksOff rest before text after reason) :
    span.Covers cs (lead ++ word ++ before) text ↔
      span = spanFrom ((spanFrom (byteLength lead) word).stop + byteLength before) text := by
  have htext : lead ++ word ++ before ++ (text ++ after) = cs := by
    rw [List.append_assoc, hbreaks.text_eq, List.append_assoc, h.text_eq]
  rw [Span.covers_iff_of_text htext, byteLength_append, byteLength_append]
  rfl

theorem FirstWord.covers_operands_iff {lead word rest trail : List Char} {m : Mnemonic}
    {ops : List Operand} (h : FirstWord cs lead word rest)
    (hname : word.map Char.toUpper = m.name.toList) (hrow : IsRow rest ops trail) :
    span.Covers cs lead (word ++ ops.flatMap Operand.text) ↔
      span = ⟨byteLength lead, byteLength (trimEnd cs)⟩ := by
  have htext : lead ++ (word ++ ops.flatMap Operand.text ++ trail) = cs := by
    rw [List.append_assoc, hrow.text_eq, h.text_eq]
  rw [Span.covers_iff_of_text htext, h.trimEnd_eq hname hrow, byteLength_append lead]

theorem parseLine_eq_error_iff_lookup {line : String} {d : Diagnostic} :
    parseLine line = .error d ↔
      (Mnemonic.lookup? (Cut.ofLine line.toList).word = none ∧
        d = ⟨.unknownInstruction (String.ofList (Cut.ofLine line.toList).word),
          (Cut.ofLine line.toList).span, line, none⟩) ∨
      ∃ m, Mnemonic.lookup? (Cut.ofLine line.toList).word = some m ∧ ∃ reason span,
        readOperands m (Cut.ofLine line.toList).span line.toList (Cut.ofLine line.toList).rest =
          .error (reason, span) ∧ d = ⟨.malformedOperands m reason, span, line, none⟩ := by
  rw [parseLine]
  cases hm : Mnemonic.lookup? (Cut.ofLine line.toList).word with
  | none => simp [eq_comm]
  | some m =>
    simp only [reduceCtorEq, false_and, false_or, Option.some.injEq, exists_eq_left']
    cases readOperands m (Cut.ofLine line.toList).span line.toList
        (Cut.ofLine line.toList).rest with
    | ok instr => simp
    | error e =>
      obtain ⟨reason, span⟩ := e
      simp [eq_comm]

theorem Rejects.parseLine_eq {line : String} {fault : Fault} (h : Rejects line.toList fault span) :
    parseLine line = .error ⟨fault, span, line, none⟩ := by
  rw [parseLine_eq_error_iff_lookup]
  cases h with
  | unknown hcut hname hspan =>
    left
    rw [hcut.ofLine_eq, (Span.covers_iff_of_text hcut.text_eq).mp hspan]
    exact ⟨lookup?_eq_none_iff.mpr hname, rfl⟩
  | @token lead word rest before text after m reason _ hcut hname hbreaks hspan =>
    right
    have hvalues := hbreaks.operandValues_eq (spanFrom (byteLength lead) word).stop
    rw [hcut.ofLine_eq, (hcut.covers_token_iff hbreaks).mp hspan]
    exact ⟨m, lookup?_eq_some_iff.mpr hname, reason, _,
      readOperands_eq_error_iff.mpr (.inl hvalues), rfl⟩
  | @count lead word rest m ops trail _ hcut hname hrow hcount hspan =>
    right
    have hvalues := hrow.operandValues_eq (spanFrom (byteLength lead) word).stop
    rw [hcut.ofLine_eq, (hcut.covers_operands_iff hname hrow).mp hspan]
    rw [← List.length_map Operand.value] at hcount ⊢
    exact ⟨m, lookup?_eq_some_iff.mpr hname, _, _,
      readOperands_eq_error_iff.mpr (.inr ⟨_, hvalues, hcount, rfl, rfl⟩), rfl⟩

/-- Lines that are refused: what is reported, and where. -/
theorem parseLine_eq_error_iff (line : String) (d : Diagnostic) :
    parseLine line = .error d ↔
      d.line = line ∧ d.lineIndex = none ∧ Rejects line.toList d.fault d.span := by
  constructor
  · intro h
    have hcut := firstWord_ofLine line.toList
    rcases parseLine_eq_error_iff_lookup.mp h with ⟨hm, rfl⟩ | ⟨m, hm, reason, span, hread, rfl⟩
    · have hspan := (Span.covers_iff_of_text hcut.text_eq).mpr rfl
      exact ⟨rfl, rfl, .unknown hcut (lookup?_eq_none_iff.mp hm) hspan⟩
    · have hname := lookup?_eq_some_iff.mp hm
      refine ⟨rfl, rfl, ?_⟩
      rcases readOperands_eq_error_iff.mp hread with htoken | ⟨vs, hvs, hcount, rfl, rfl⟩
      · obtain ⟨before, text, after, hbreaks, rfl⟩ := operandValues_eq_error_iff.mp htoken
        exact .token hcut hname hbreaks ((hcut.covers_token_iff hbreaks).mpr rfl)
      · obtain ⟨ops, trail, hrow, rfl⟩ := operandValues_eq_ok_iff.mp hvs
        rw [List.length_map] at hcount ⊢
        exact .count hcut hname hrow hcount ((hcut.covers_operands_iff hname hrow).mpr rfl)
  · obtain ⟨fault, span, line', index⟩ := d
    rintro ⟨rfl, rfl, hrejects⟩
    exact hrejects.parseLine_eq

end ByteBench.Source
