import ByteBench.Proofs.Program.SourceMap

/-!
# Editing a batch

Lines are assembled each by itself, so that an edit changes what its own lines give and moves what
comes after them. Main statements: `joined_append`, two batches in a row give what each of them
gives; `edited`, what an edit leaves as it was; and `ofLines_skip_eq`, the policy decides about the
words that came from no line, and about nothing else.
-/

namespace ByteBench

open ByteBench.Source

def Cell.later (n : Nat) (c : Cell) : Cell := { c with line := c.line.map (· + n) }

def Source.Diagnostic.later (n : Nat) (d : Diagnostic) : Diagnostic :=
  { d with lineIndex := d.lineIndex.map (· + n) }

theorem Source.Diagnostic.later_later (m n : Nat) (d : Diagnostic) :
    (d.later m).later n = d.later (m + n) := by
  obtain ⟨fault, span, line, index⟩ := d
  cases index with
  | none => rfl
  | some k => simp [Diagnostic.later, Nat.add_assoc]

namespace Assembly

theorem cellsOf_later (policy : OnError) (start n : Nat) (line : String) :
    cellsOf policy (lineOutcome (start + n) line) =
      (cellsOf policy (lineOutcome start line)).map (Cell.later n) := by
  cases h : parseLine line with
  | ok i =>
    rw [lineOutcome_of_ok _ h, lineOutcome_of_ok _ h]
    rfl
  | error d =>
    rw [lineOutcome_of_error _ h, lineOutcome_of_error _ h]
    cases policy <;> rfl

theorem cellsFrom_later (policy : OnError) (start n : Nat) (lines : List String) :
    cellsFrom policy (start + n) lines = (cellsFrom policy start lines).map (Cell.later n) := by
  induction lines generalizing start with
  | nil => rfl
  | cons line lines ih =>
    have hnext : start + n + 1 = start + 1 + n := by omega
    rw [cellsFrom_cons, cellsFrom_cons, List.map_append, cellsOf_later, hnext, ih]

theorem errorsFrom_later (start n : Nat) (lines : List String) :
    errorsFrom (start + n) lines = (errorsFrom start lines).map (Diagnostic.later n) := by
  induction lines generalizing start with
  | nil => rfl
  | cons line lines ih =>
    have hnext : start + n + 1 = start + 1 + n := by omega
    cases h : parseLine line with
    | ok i => rw [errorsFrom_cons_of_ok _ _ h, errorsFrom_cons_of_ok _ _ h, hnext, ih]
    | error d =>
      rw [errorsFrom_cons_of_error _ _ h, errorsFrom_cons_of_error _ _ h, hnext, ih]
      rfl

def wordCount (policy : OnError) (lines : List String) : Nat :=
  (ofLines policy lines).program.size

/-- The assembly of two batches in a row, made of those of the two. -/
structure Joined (policy : OnError) (xs ys : List String) (a : Assembly) : Prop where
  size_eq : a.program.size = wordCount policy xs + wordCount policy ys
  get?_left : ∀ x, x < wordCount policy xs →
    a.program.get? x = (ofLines policy xs).program.get? x
  sourceLine?_left : ∀ x, x < wordCount policy xs →
    a.program.sourceLine? x = (ofLines policy xs).program.sourceLine? x
  get?_right : ∀ x,
    a.program.get? (wordCount policy xs + x) = (ofLines policy ys).program.get? x
  sourceLine?_right : ∀ x, a.program.sourceLine? (wordCount policy xs + x) =
    ((ofLines policy ys).program.sourceLine? x).map (· + xs.length)
  errors_eq : a.errors =
    (ofLines policy xs).errors ++ (ofLines policy ys).errors.map (Diagnostic.later xs.length)

theorem joined_append (policy : OnError) (xs ys : List String) :
    Joined policy xs ys (ofLines policy (xs ++ ys)) := by
  have hcells : (ofLines policy (xs ++ ys)).program.cells =
      (ofLines policy xs).program.cells ++
        (ofLines policy ys).program.cells.map (Cell.later xs.length) := by
    simp only [cells_ofLines, cellsFrom_append, cellsFrom_later]
  have hright : ∀ x, (ofLines policy (xs ++ ys)).program.cells[wordCount policy xs + x]? =
      (ofLines policy ys).program.cells[x]?.map (Cell.later xs.length) := by
    intro x
    rw [hcells, wordCount, Program.size, List.getElem?_append_right (Nat.le_add_right _ x),
      Nat.add_sub_cancel_left, List.getElem?_map]
  refine ⟨?_, ?_, ?_, ?_, ?_, ?_⟩
  · rw [Program.size, hcells, List.length_append, List.length_map]
    rfl
  · intro x hx
    rw [Program.get?_eq, Program.get?_eq, hcells, List.getElem?_append_left hx]
  · intro x hx
    rw [Program.sourceLine?_eq, Program.sourceLine?_eq, hcells, List.getElem?_append_left hx]
  · intro x
    rw [Program.get?_eq, Program.get?_eq, hright, Option.map_map]
    rfl
  · intro x
    rw [Program.sourceLine?_eq, Program.sourceLine?_eq, hright]
    cases (ofLines policy ys).program.cells[x]? <;> rfl
  · simp only [ofLines_eq, errorsFrom_append, errorsFrom_later]

/-- What becomes of the assembly `a` of a batch if the lines `mid` in it are replaced by `mid'`. -/
structure Edited (policy : OnError) (pre mid mid' post : List String) (a a' : Assembly) : Prop where
  size_eq : a'.program.size + wordCount policy mid = a.program.size + wordCount policy mid'
  get?_before : ∀ x, x < wordCount policy pre → a'.program.get? x = a.program.get? x
  sourceLine?_before : ∀ x, x < wordCount policy pre →
    a'.program.sourceLine? x = a.program.sourceLine? x
  errors_before : a'.errors.take (ofLines policy pre).errors.length =
    a.errors.take (ofLines policy pre).errors.length
  get?_after : ∀ x, a'.program.get? (wordCount policy pre + wordCount policy mid' + x) =
    a.program.get? (wordCount policy pre + wordCount policy mid + x)
  sourceLine?_after : ∀ x,
    (a'.program.sourceLine? (wordCount policy pre + wordCount policy mid' + x)).map
        (· + mid.length) =
      (a.program.sourceLine? (wordCount policy pre + wordCount policy mid + x)).map
        (· + mid'.length)
  errors_after :
    (a'.errors.drop ((ofLines policy pre).errors.length +
        (ofLines policy mid').errors.length)).map (Diagnostic.later mid.length) =
      (a.errors.drop ((ofLines policy pre).errors.length +
        (ofLines policy mid).errors.length)).map (Diagnostic.later mid'.length)

theorem wordCount_append (policy : OnError) (xs ys : List String) :
    wordCount policy (xs ++ ys) = wordCount policy xs + wordCount policy ys :=
  (joined_append policy xs ys).size_eq

theorem length_errors_append (policy : OnError) (xs ys : List String) :
    (ofLines policy (xs ++ ys)).errors.length =
      (ofLines policy xs).errors.length + (ofLines policy ys).errors.length := by
  rw [(joined_append policy xs ys).errors_eq, List.length_append, List.length_map]

theorem edited (policy : OnError) (pre mid mid' post : List String) :
    Edited policy pre mid mid' post (ofLines policy (pre ++ mid ++ post))
      (ofLines policy (pre ++ mid' ++ post)) := by
  -- what stands before `post` is one batch with the edit, what stands after `pre` is another
  have hpost := joined_append policy (pre ++ mid) post
  have hpost' := joined_append policy (pre ++ mid') post
  have hpre := joined_append policy pre (mid ++ post)
  have hpre' := joined_append policy pre (mid' ++ post)
  rw [← List.append_assoc] at hpre hpre'
  have hwords := wordCount_append policy pre mid
  have hwords' := wordCount_append policy pre mid'
  have herrors := length_errors_append policy pre mid
  have herrors' := length_errors_append policy pre mid'
  have hswap : pre.length + mid.length + mid'.length = pre.length + mid'.length + mid.length := by
    omega
  refine ⟨?_, ?_, ?_, ?_, ?_, ?_, ?_⟩
  · rw [hpost.size_eq, hpost'.size_eq]
    omega
  · intro x hx
    rw [hpre.get?_left x hx, hpre'.get?_left x hx]
  · intro x hx
    rw [hpre.sourceLine?_left x hx, hpre'.sourceLine?_left x hx]
  · rw [hpre.errors_eq, hpre'.errors_eq, List.take_left, List.take_left]
  · intro x
    rw [← hwords, ← hwords', hpost.get?_right, hpost'.get?_right]
  · intro x
    rw [← hwords, ← hwords', hpost.sourceLine?_right, hpost'.sourceLine?_right, Option.map_map,
      Option.map_map]
    simp only [Function.comp_def, List.length_append, Nat.add_assoc, Nat.add_comm mid.length]
  · rw [← herrors, ← herrors', hpost.errors_eq, hpost'.errors_eq, List.drop_left, List.drop_left,
      List.map_map, List.map_map]
    simp only [Function.comp_def, Diagnostic.later_later, List.length_append, hswap]

theorem wordCount_placeholder (lines : List String) :
    wordCount .placeholder lines = lines.length := (placed lines).size_eq

theorem wordCount_skip (line : String) :
    wordCount .skip [line] = if fails line then 0 else 1 := by
  have h := length_cellsFrom_skip 0 [line]
  rw [wordCount, Program.size, cells_ofLines]
  rw [List.countP_singleton, List.length_singleton] at h
  split
  · next hfails =>
    rw [if_pos hfails] at h
    omega
  · next hfine =>
    rw [if_neg hfine] at h
    omega

/-- Under one policy the batch leaves what it leaves under the other, but for the words that came
from no line. -/
theorem cellsFrom_skip_eq (start : Nat) (lines : List String) :
    cellsFrom .skip start lines =
      (cellsFrom .placeholder start lines).filter fun c => c.line.isSome := by
  induction lines generalizing start with
  | nil => rfl
  | cons line lines ih =>
    have hline : cellsOf .skip (lineOutcome start line) =
        (cellsOf .placeholder (lineOutcome start line)).filter fun c => c.line.isSome := by
      cases h : parseLine line with
      | ok i =>
        rw [lineOutcome_of_ok start h]
        rfl
      | error d =>
        rw [lineOutcome_of_error start h]
        rfl
    rw [cellsFrom_cons, cellsFrom_cons, List.filter_append, hline, ih]

theorem ofLines_skip_eq (lines : List String) :
    (ofLines .skip lines).errors = (ofLines .placeholder lines).errors ∧
      (ofLines .skip lines).program =
        ⟨(ofLines .placeholder lines).program.cells.filter fun c => c.line.isSome⟩ := by
  rw [ofLines_eq, ofLines_eq]
  exact ⟨rfl, congrArg Program.mk (cellsFrom_skip_eq 0 lines)⟩

/-- What becomes of the assembly `a` of a batch if a line that was fine, the first after the lines
`pre`, comes to fail, where lines that fail leave nothing: each later word moves down by one. -/
structure Broken (pre : List String) (a a' : Assembly) : Prop where
  size_eq : a'.program.size + 1 = a.program.size
  get?_after : ∀ x, a'.program.get? (wordCount .skip pre + x) =
    a.program.get? (wordCount .skip pre + x + 1)
  sourceLine?_after : ∀ x, a'.program.sourceLine? (wordCount .skip pre + x) =
    a.program.sourceLine? (wordCount .skip pre + x + 1)

theorem broken {pre post : List String} {good bad : String} (hgood : fails good = false)
    (hbad : fails bad = true) :
    Broken pre (ofLines .skip (pre ++ [good] ++ post)) (ofLines .skip (pre ++ [bad] ++ post)) := by
  have h := edited .skip pre [good] [bad] post
  have hone : wordCount .skip [good] = 1 := by rw [wordCount_skip, hgood, if_neg Bool.false_ne_true]
  have hnone : wordCount .skip [bad] = 0 := by rw [wordCount_skip, hbad, if_pos rfl]
  refine ⟨?_, ?_, ?_⟩
  · have hsize := h.size_eq
    rw [hone, hnone] at hsize
    exact hsize
  · intro x
    have hword := h.get?_after x
    rw [hone, hnone, Nat.add_zero, Nat.add_right_comm] at hword
    exact hword
  · intro x
    have hline := h.sourceLine?_after x
    rw [hone, hnone, Nat.add_zero, Nat.add_right_comm] at hline
    -- the line is replaced by one other, so that those after it keep their indices
    exact (Option.map_inj_right fun _ _ => Nat.add_right_cancel).mp hline

/-- A batch is assembled line by line: an edit is felt by its own lines alone, other than that what
follows is moved, and the policy decides about the words of the lines that fail alone. -/
theorem edit_local :
    (∀ policy xs ys, Joined policy xs ys (ofLines policy (xs ++ ys))) ∧
      (∀ policy pre mid mid' post, Edited policy pre mid mid' post
        (ofLines policy (pre ++ mid ++ post)) (ofLines policy (pre ++ mid' ++ post))) ∧
      (∀ lines, wordCount .placeholder lines = lines.length) ∧
      (∀ pre good bad post, fails good = false → fails bad = true →
        Broken pre (ofLines .skip (pre ++ [good] ++ post))
          (ofLines .skip (pre ++ [bad] ++ post))) ∧
      ∀ lines, (ofLines .skip lines).errors = (ofLines .placeholder lines).errors ∧
        (ofLines .skip lines).program =
          ⟨(ofLines .placeholder lines).program.cells.filter fun c => c.line.isSome⟩ :=
  ⟨joined_append, edited, wordCount_placeholder,
    fun _ _ _ _ hgood hbad => broken hgood hbad, ofLines_skip_eq⟩

end Assembly

end ByteBench
