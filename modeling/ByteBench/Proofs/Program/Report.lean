import ByteBench.Proofs.Program.SourceMap
import ByteBench.Proofs.Source.Lookahead
import ByteBench.Proofs.Text.Unbroken

/-!
# What a report shows

Main statement: `points_of_mem_errors`, the report of a line of a text that is refused has four
lines, of which the second one is that line and the third one underlines the place that is meant,
column by column.
-/

namespace ByteBench

open ByteBench.Text

namespace Source

variable {cs lead word rest before inside : List Char} {line text : String} {d : Diagnostic}

/-! ## No line feed in what is said -/

theorem unbroken_name (m : Mnemonic) : Unbroken m.name := by
  intro hmem
  have hletter := List.all_eq_true.mp (isAlphanum_name m) '\n' hmem
  cases hletter

theorem unbroken_reason (reason : OperandFault) : Unbroken reason.message := by
  cases reason with
  | count expected found =>
    have hexpected : Unbroken ("expected " ++ toString expected) :=
      .append (by decide) (unbroken_toString expected)
    have hfound : Unbroken " operand(s), found " := unbroken_ofList (by decide)
    exact (hexpected.append hfound).append (unbroken_toString found)
  | notInteger token => exact .append (unbroken_ofList (by decide)) (unbroken_quoted token)
  | lexical error => cases error <;> exact unbroken_ofList (by decide)

theorem unbroken_message (fault : Fault) : Unbroken fault.message := by
  cases fault with
  | unknownInstruction word => exact .append (unbroken_ofList (by decide)) (unbroken_quoted word)
  | malformedOperands m reason =>
    have hname : Unbroken ("malformed operands for " ++ m.name) :=
      .append (unbroken_ofList (by decide)) (unbroken_name m)
    exact (hname.append (by decide)).append (unbroken_reason reason)

theorem unbroken_lexical_help (error : LexError) : Unbroken error.help := by
  cases error with
  | outOfRange =>
    have hmin : Unbroken (toString Int64.minValue) := by decide
    have hmax : Unbroken (toString Int64.maxValue) := by decide
    have hrange : Unbroken "the range for a 64-bit signed integer is [" :=
      unbroken_ofList (by decide)
    exact (((hrange.append hmin).append (by decide)).append hmax).append (by decide)
  | notDecimal => exact unbroken_ofList (by decide)
  | noDigits => exact unbroken_ofList (by decide)
  | symbol => exact unbroken_ofList (by decide)

theorem unbroken_operandNames (s : Shape) : ∀ name ∈ s.operandNames, Unbroken name := by
  cases s <;> decide

theorem unbroken_reason_help (m : Mnemonic) (reason : OperandFault) : Unbroken (reason.help m) := by
  cases reason with
  | count expected found =>
    unfold OperandFault.help
    split_ifs
    · exact (unbroken_name m).append (unbroken_ofList (by decide))
    · have htakes : Unbroken (m.name ++ " takes ") := .append (unbroken_name m) (by decide)
      have hcount := htakes.append (unbroken_toString m.operandCount)
      have hnames : Unbroken (" ".intercalate m.shape.operandNames) :=
        unbroken_intercalate (by decide) (unbroken_operandNames m.shape)
      exact (hcount.append (by decide)).append hnames
  | notInteger token => exact unbroken_ofList (by decide)
  | lexical error => exact unbroken_lexical_help error

theorem unbroken_help (fault : Fault) : Unbroken fault.help := by
  cases fault with
  | unknownInstruction word =>
    have hnames : Unbroken (", ".intercalate (Mnemonic.all.map Mnemonic.name)) :=
      unbroken_intercalate (by decide) (List.forall_mem_map.mpr fun m _ => unbroken_name m)
    exact .append (unbroken_ofList (by decide)) hnames
  | malformedOperands m reason => exact unbroken_reason_help m reason

/-! ## The place that is meant -/

theorem FirstWord.word_eq_nil_iff (h : FirstWord cs lead word rest) :
    word = [] ↔ ∀ c ∈ cs, c ∈ blanks := by
  constructor
  · intro hnil
    rw [← h.text_eq, h.rest_eq_nil hnil, hnil]
    simpa using h.blank_lead
  · intro hblank
    rw [List.eq_nil_iff_forall_not_mem]
    intro c hc
    apply h.not_blank c hc
    apply hblank
    simp [← h.text_eq, hc]

/-- A line that is refused is refused for some of its characters, unless all of them are blanks. -/
theorem exists_covers_of_error (h : parseLine line = .error d) :
    d.line = line ∧ ∃ before inside, d.span.Covers line.toList before inside ∧
      (inside = [] ↔ ∀ c ∈ line.toList, c ∈ blanks) := by
  have hcut := firstWord_ofLine line.toList
  rcases parseLine_eq_error_iff_lookup.mp h with ⟨-, rfl⟩ | ⟨m, hm, reason, span, hread, rfl⟩
  · exact ⟨rfl, _, _, (Span.covers_iff_of_text hcut.text_eq).mpr rfl, hcut.word_eq_nil_iff⟩
  · have hname := lookup?_eq_some_iff.mp hm
    have hword := word_ne_nil hname
    have hsolid : ¬ ∀ c ∈ line.toList, c ∈ blanks := by
      rwa [← hcut.word_eq_nil_iff]
    refine ⟨rfl, ?_⟩
    rcases readOperands_eq_error_iff.mp hread with htoken | ⟨vs, hvs, -, -, rfl⟩
    · obtain ⟨before, text, after, hbreaks, hspan⟩ := operandValues_eq_error_iff.mp htoken
      refine ⟨_, text, (hcut.covers_token_iff hbreaks).mpr hspan, ?_⟩
      exact iff_of_false hbreaks.faulty.ne_nil hsolid
    · obtain ⟨ops, trail, hrow, rfl⟩ := operandValues_eq_ok_iff.mp hvs
      refine ⟨_, _, (hcut.covers_operands_iff hname hrow).mpr rfl, ?_⟩
      exact iff_of_false (by simp [hword]) hsolid

/-- Where a diagnostic of a text points: to the characters `inside` of one of its lines. -/
structure Points (text : String) (d : Diagnostic) (index : Nat) (line : String)
    (before inside : List Char) : Prop where
  line_eq : (lines text)[index]? = some line
  refused : ∃ d₀, parseLine line = .error d₀ ∧ d = d₀.atLine index
  covers : d.span.Covers line.toList before inside
  report_rows : IsRows d.report
    ["error (line " ++ toString index ++ "): " ++ d.message,
      "  | " ++ line,
      "  | " ++ String.ofList
        (List.replicate before.length ' ' ++ List.replicate (max 1 inside.length) '^'),
      "help: " ++ d.help]
  inside_eq_nil_iff : inside = [] ↔ ∀ c ∈ line.toList, c ∈ blanks
  width_le : inside ≠ [] → before.length + max 1 inside.length ≤ line.length

theorem Diagnostic.pointer_eq (h : d.span.Covers d.line.toList before inside) :
    d.pointer = String.ofList
      (List.replicate before.length ' ' ++ List.replicate (max 1 inside.length) '^') := by
  unfold pointer indent caretCount
  rw [h.before?_eq, h.slice?_eq]
  rfl

theorem Diagnostic.isRows_report (hline : Unbroken d.line) :
    IsRows d.report
      [d.heading ++ d.message, "  | " ++ d.line, "  | " ++ d.pointer, "help: " ++ d.help] := by
  have hheading : Unbroken d.heading := by
    unfold heading
    split
    · exact .append (.append (by decide) (unbroken_toString _)) (by decide)
    · decide
  have hpointer : Unbroken d.pointer := unbroken_ofList (by simp)
  have hmargin : Unbroken "  | " := by decide
  have hhelp : Unbroken "help: " := by decide
  constructor
  · simp only [report, List.map, String.join_cons, String.join_nil, String.append_empty,
      String.append_assoc]
  · simp only [List.forall_mem_cons]
    exact ⟨hheading.append (unbroken_message _), hmargin.append hline, hmargin.append hpointer,
      hhelp.append (unbroken_help _), List.forall_mem_nil _⟩

end Source

namespace Assembly

open ByteBench.Source

variable {text : String} {policy : OnError} {d : Diagnostic}

theorem points_of_mem_errors (h : d ∈ (ofText policy text).errors) :
    ∃ index line before inside, Points text d index line before inside := by
  rw [ofText, ofLines_eq] at h
  obtain ⟨index, line, d₀, hline, hparse, rfl⟩ := mem_errorsFrom_iff.mp h
  obtain ⟨rfl, before, inside, hcovers, hnil⟩ := exists_covers_of_error hparse
  have hunbroken : Unbroken d₀.line := unbroken_lines (List.mem_of_getElem? hline)
  have hrows := Diagnostic.isRows_report (d := d₀.atLine index) hunbroken
  rw [Diagnostic.pointer_eq (d := d₀.atLine index) hcovers] at hrows
  refine ⟨index, d₀.line, before, inside, hline, ⟨d₀, hparse, rfl⟩, hcovers, hrows, hnil, ?_⟩
  intro hne
  have hpos := List.length_pos_iff.mpr hne
  have hle := hcovers.length_le
  rw [String.length_toList] at hle
  omega

theorem points_of_mem_errors_mov1 :
    ⟨.malformedOperands (.op .mov1) (.lexical .notDecimal), ⟨6, 9⟩, "\tMOV1 7é", some 1⟩ ∈
        (ofText .placeholder "NOP\n\tMOV1 7é\r\n").errors ∧
      ∃ index line before inside,
        Points "NOP\n\tMOV1 7é\r\n"
          ⟨.malformedOperands (.op .mov1) (.lexical .notDecimal), ⟨6, 9⟩, "\tMOV1 7é", some 1⟩
          index line before inside := by
  have herrors : (ofText .placeholder "NOP\n\tMOV1 7é\r\n").errors =
      [⟨.malformedOperands (.op .mov1) (.lexical .notDecimal), ⟨6, 9⟩, "\tMOV1 7é", some 1⟩] := by
    with_unfolding_all rfl
  have hmem : ⟨.malformedOperands (.op .mov1) (.lexical .notDecimal), ⟨6, 9⟩, "\tMOV1 7é", some 1⟩ ∈
      (ofText .placeholder "NOP\n\tMOV1 7é\r\n").errors := by
    rw [herrors]
    exact List.mem_singleton_self _
  exact ⟨hmem, points_of_mem_errors hmem⟩

end Assembly

end ByteBench
