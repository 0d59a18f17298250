import ByteBench.Proofs.Source.Grammar
import ByteBench.Proofs.Text.Pieces

/-!
# How operands are set apart

The operands of a line should be separated by blanks, but a sign separates them too. Main
statement: `parseLine_pieces`, the pieces of a line that is an instruction are its mnemonic and its
operands, in groups of one or more numbers; they are the operands one by one exactly if signs stand
in front of pieces only.
-/

namespace ByteBench.Source

open ByteBench.Text

/-- Numbers that make up one piece: a sign sets each of them but the first apart. -/
structure Joined (group : List Numeral) : Prop where
  ne_nil : group ≠ []
  signed_tail : ∀ n ∈ group.tail, n.sign ≠ none

/-- The pieces of `cs` are the mnemonic of `i`, in any case, and its operands in groups. -/
structure Grouped (cs : List Char) (i : Instr) (groups : List (List Numeral)) : Prop where
  pieces_eq : ∃ word : List Char, word.map Char.toUpper = i.mnemonic.name.toList ∧
    pieces cs = word :: groups.map (·.flatMap Numeral.text)
  joined : ∀ group ∈ groups, Joined group
  length_flatten : groups.flatten.length = i.mnemonic.operandCount
  ofOperands_eq :
    Instr.ofOperands i.mnemonic (groups.flatten.map fun n => Int64.ofInt n.value) = .ok i

/-- The pieces of `cs` are the mnemonic of `i`, in any case, and its operands one by one. -/
structure Separated (cs : List Char) (i : Instr) : Prop where
  length_pieces : (pieces cs).length = 1 + i.mnemonic.operandCount
  pieces_eq : ∃ (word : List Char) (ns : List Numeral),
    word.map Char.toUpper = i.mnemonic.name.toList ∧ pieces cs = word :: ns.map Numeral.text ∧
      Instr.ofOperands i.mnemonic (ns.map fun n => Int64.ofInt n.value) = .ok i

/-- Signs stand in front of pieces only. -/
def SignsInFront (cs : List Char) : Prop := ∀ p ∈ pieces cs, ∀ c ∈ p.tail, isSign c = false

namespace Numeral

theorem text_ne_nil (n : Numeral) : n.text ≠ [] := by
  obtain ⟨c, cs, htext, -, -⟩ := n.text_eq_cons
  rw [htext]
  exact List.cons_ne_nil c cs

theorem not_blank (n : Numeral) : ∀ c ∈ n.text, c ∉ blanks := by
  obtain ⟨c, cs, htext, hstart, hword⟩ := n.text_eq_cons
  intro x hx hblank
  rw [htext] at hx
  rw [← isBlank_iff_mem] at hblank
  rcases List.mem_cons.mp hx with rfl | hx
  · rw [startOf_of_isBlank hblank] at hstart
    cases hstart
  · rw [isBlank_of_isWordChar (hword x hx)] at hblank
    cases hblank

theorem not_isSign_tail (n : Numeral) : ∀ c ∈ n.text.tail, isSign c = false := by
  obtain ⟨c, cs, htext, -, hword⟩ := n.text_eq_cons
  intro x hx
  rw [htext] at hx
  rw [← Bool.not_eq_true]
  intro hsign
  have hnone := hword x hx
  rw [isWordChar_of_isSign hsign] at hnone
  cases hnone

end Numeral

theorem Joined.cons {group : List Numeral} (n : Numeral) (h : Joined group)
    (hhead : ∀ m ∈ group.head?, m.sign ≠ none) : Joined (n :: group) := by
  obtain ⟨m, ms, rfl⟩ := List.exists_cons_of_ne_nil h.ne_nil
  exact ⟨List.cons_ne_nil _ _, List.forall_mem_cons.mpr ⟨hhead m rfl, h.signed_tail⟩⟩

/-- Only an operand with a sign can follow at once, with no blank before it. -/
theorem signed_of_solid {ops : List Operand} {trail cs : List Char} {c : Char}
    (htrail : ∀ c ∈ trail, c ∈ blanks) (hapart : ∀ o ∈ ops.head?, o.Apart)
    (htext : ops.flatMap Operand.text ++ trail = c :: cs) (hc : c ∉ blanks) :
    ∃ o ops', ops = o :: ops' ∧ o.numeral.sign ≠ none := by
  cases ops with
  | nil =>
    rw [List.flatMap_nil, List.nil_append] at htext
    exact absurd (htrail c (htext ▸ List.mem_cons_self)) hc
  | cons o ops =>
    refine ⟨o, ops, rfl, ?_⟩
    rcases hapart o rfl with hgap | hsign
    · obtain ⟨b, gap, hb⟩ := List.exists_cons_of_ne_nil hgap
      rw [List.flatMap_cons, Operand.text, hb] at htext
      obtain ⟨rfl, -⟩ := List.cons.inj htext
      exact absurd (o.blank_gap b (hb ▸ List.mem_cons_self)) hc
    · exact hsign

/-- A row of operands falls into pieces, of which each is one number or several. -/
theorem exists_groups {ops : List Operand} {trail : List Char} (htrail : ∀ c ∈ trail, c ∈ blanks)
    (hapart : ∀ o ∈ ops.tail, o.Apart) :
    ∃ groups : List (List Numeral),
      pieces (ops.flatMap Operand.text ++ trail) = groups.map (·.flatMap Numeral.text) ∧
        (∀ group ∈ groups, Joined group) ∧ groups.flatten = ops.map Operand.numeral := by
  induction ops with
  | nil => exact ⟨[], pieces_of_blanks htrail, by simp, rfl⟩
  | cons o ops ih =>
    have htail : ∀ x ∈ ops.tail, x.Apart := fun x hx => hapart x (List.mem_of_mem_tail hx)
    have hhead : ∀ x ∈ ops.head?, x.Apart := fun x hx => hapart x (List.mem_of_mem_head? hx)
    obtain ⟨groups, hpieces, hjoined, hflatten⟩ := ih htail
    rw [List.flatMap_cons, Operand.text, List.append_assoc, List.append_assoc,
      pieces_append_of_blanks o.blank_gap]
    rcases head?_blank_or_solid (ops.flatMap Operand.text ++ trail) with
      hstop | ⟨c, cs, htext, hc⟩
    · -- the number is a piece by itself
      refine ⟨[o.numeral] :: groups, ?_, ?_, ?_⟩
      · rw [pieces_run o.numeral.text_ne_nil o.numeral.not_blank hstop, hpieces]
        simp
      · exact List.forall_mem_cons.mpr ⟨⟨List.cons_ne_nil _ _, List.forall_mem_nil _⟩, hjoined⟩
      · simp [hflatten]
    · -- the piece goes on, and what comes next in it has a sign
      obtain ⟨next, ops, rfl, hsign⟩ := signed_of_solid htrail hhead htext hc
      obtain ⟨p, ps, hp, hall⟩ := pieces_append_of_solid cs o.numeral.not_blank hc
      rw [htext, hp] at hpieces
      rw [htext, hall]
      cases groups with
      | nil => cases hpieces
      | cons group groups =>
        obtain ⟨rfl, rfl⟩ := List.cons.inj hpieces
        obtain ⟨hgroup, hgroups⟩ := List.forall_mem_cons.mp hjoined
        refine ⟨(o.numeral :: group) :: groups, ?_, ?_, ?_⟩
        · simp
        · refine List.forall_mem_cons.mpr ⟨hgroup.cons o.numeral ?_, hgroups⟩
          intro m hm
          obtain ⟨ms, rfl⟩ := List.head?_eq_some_iff.mp hm
          obtain ⟨rfl, -⟩ := List.cons.inj hflatten
          exact hsign
        · rw [List.flatten_cons, List.cons_append, ← List.flatten_cons, hflatten]
          rfl

theorem Sentence.pieces_text (s : Sentence) :
    pieces s.text = s.word :: pieces (s.operands.flatMap Operand.text ++ s.trail) := by
  rw [text, List.append_assoc, List.append_assoc, pieces_append_of_blanks s.blank_lead,
    pieces_run s.word_ne_nil s.word_not_blank s.blank_rest]

theorem exists_grouped {line : String} {i : Instr} (h : parseLine line = .ok i) :
    ∃ groups, Grouped line.toList i groups := by
  obtain ⟨s, htext, hi⟩ := exists_sentence h
  obtain ⟨groups, hpieces, hjoined, hflatten⟩ := exists_groups s.blank_trail s.apart_tail
  have hvalues : (groups.flatten.map fun n => Int64.ofInt n.value) = s.values := by
    rw [hflatten, List.map_map]
    rfl
  refine ⟨groups, ⟨s.word, ?_, ?_⟩, hjoined, ?_, ?_⟩
  · rw [Instr.mnemonic_of_ofOperands hi, s.upper_word]
  · rw [← htext, s.pieces_text, hpieces]
  · rw [hflatten, List.length_map, Instr.mnemonic_of_ofOperands hi, s.length_operands]
  · rw [Instr.mnemonic_of_ofOperands hi, hvalues, hi]

theorem not_isSign_of_upper {m : Mnemonic} {word : List Char}
    (h : word.map Char.toUpper = m.name.toList) : ∀ c ∈ word, isSign c = false := by
  intro c hc
  rw [← Bool.not_eq_true]
  intro hsign
  have hmem : c.toUpper ∈ m.name.toList := h ▸ List.mem_map_of_mem hc
  have hletter := List.all_eq_true.mp (isAlphanum_name m) c.toUpper hmem
  rcases isSign_cases hsign with rfl | rfl <;> cases hletter

theorem Separated.signsInFront {cs : List Char} {i : Instr} (h : Separated cs i) :
    SignsInFront cs := by
  obtain ⟨-, word, ns, hword, hpieces, -⟩ := h
  intro p hp c hc
  rw [hpieces] at hp
  rcases List.mem_cons.mp hp with rfl | hp
  · exact not_isSign_of_upper hword c (List.mem_of_mem_tail hc)
  · obtain ⟨n, -, rfl⟩ := List.mem_map.mp hp
    exact n.not_isSign_tail c hc

theorem Joined.eq_singleton {group : List Numeral} (h : Joined group)
    (hfront : ∀ c ∈ (group.flatMap Numeral.text).tail, isSign c = false) : ∃ n, group = [n] := by
  obtain ⟨n, ns, rfl⟩ := List.exists_cons_of_ne_nil h.ne_nil
  cases ns with
  | nil => exact ⟨n, rfl⟩
  | cons m ms =>
    obtain ⟨c, hc⟩ := Option.ne_none_iff_exists'.mp (h.signed_tail m List.mem_cons_self)
    obtain ⟨d, ds, htext, -, -⟩ := n.text_eq_cons
    have hmem : c ∈ (List.flatMap Numeral.text (n :: m :: ms)).tail := by
      rw [List.flatMap_cons, List.flatMap_cons, htext, Numeral.text, hc]
      simp
    have hsign := m.isSign_sign c hc
    rw [hfront c hmem] at hsign
    cases hsign

theorem exists_map_singleton {α : Type} {groups : List (List α)}
    (h : ∀ group ∈ groups, ∃ a, group = [a]) : ∃ as : List α, groups = as.map ([·]) := by
  induction groups with
  | nil => exact ⟨[], rfl⟩
  | cons group groups ih =>
    obtain ⟨⟨a, rfl⟩, hrest⟩ := List.forall_mem_cons.mp h
    obtain ⟨as, rfl⟩ := ih hrest
    exact ⟨a :: as, rfl⟩

theorem Grouped.separated {cs : List Char} {i : Instr} {groups : List (List Numeral)}
    (h : Grouped cs i groups) (hfront : SignsInFront cs) : Separated cs i := by
  obtain ⟨⟨word, hword, hpieces⟩, hjoined, hlength, hi⟩ := h
  have hsingle : ∀ group ∈ groups, ∃ n, group = [n] := by
    intro group hgroup
    refine (hjoined group hgroup).eq_singleton (hfront _ ?_)
    rw [hpieces]
    exact List.mem_cons_of_mem word (List.mem_map_of_mem hgroup)
  obtain ⟨ns, rfl⟩ := exists_map_singleton hsingle
  have htexts : (ns.map ([·])).map (·.flatMap Numeral.text) = ns.map Numeral.text := by simp
  have hnumbers : (ns.map ([·])).flatten = ns := by
    rw [← List.flatMap_def, List.flatMap_singleton']
  rw [htexts] at hpieces
  rw [hnumbers] at hlength hi
  refine ⟨?_, word, ns, hword, hpieces, hi⟩
  rw [hpieces, List.length_cons, List.length_map, hlength, Nat.add_comm]

/-- What a line that is an instruction looks like. A blank may be missing before an operand with a
sign, and if it is not, each operand is a piece by itself. -/
theorem parseLine_pieces {line : String} {i : Instr} (h : parseLine line = .ok i) :
    (∃ groups, Grouped line.toList i groups) ∧
      (Separated line.toList i ↔ SignsInFront line.toList) := by
  obtain ⟨groups, hgroups⟩ := exists_grouped h
  exact ⟨⟨groups, hgroups⟩, Separated.signsInFront, hgroups.separated⟩

theorem parseLine_pieces_addi :
    parseLine "ADDI 0 -0 3" = .ok (.decode 0x13) ∧
      Separated "ADDI 0 -0 3".toList (.decode 0x13) := by
  have h : parseLine "ADDI 0 -0 3" = .ok (.decode 0x13) := by with_unfolding_all rfl
  have hpieces : pieces "ADDI 0 -0 3".toList = ["ADDI".toList, ['0'], ['-', '0'], ['3']] := rfl
  refine ⟨h, (parseLine_pieces h).2.mpr ?_⟩
  rw [SignsInFront, hpieces]
  simp [isSign]

/-- Three operands in two pieces. -/
theorem not_separated_add :
    parseLine "ADD 1+2 3" = .ok (.decode 0x0b) ∧
      ¬ Separated "ADD 1+2 3".toList (.decode 0x0b) := by
  refine ⟨by with_unfolding_all rfl, ?_⟩
  intro h
  exact absurd h.length_pieces (by decide)

end ByteBench.Source
