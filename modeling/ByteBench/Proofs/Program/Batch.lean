import ByteBench.Program.Assembly

/-!
# Assembling a batch line by line

Main statements: `cellsFrom_append` and `errorsFrom_append`, what a batch gives is made of what its
parts give, and `length_cellsFrom_skip` and `length_cellsFrom_placeholder`, how many words it gives.
-/

namespace ByteBench.Assembly

open ByteBench.Source

/-- Whether a line is no instruction. -/
def fails (line : String) : Bool := (parseLine line).toOption.isNone

/-- What lines leave in the program, of which the first one has the index `start`. -/
def cellsFrom (policy : OnError) (start : Nat) (lines : List String) : List Cell :=
  (lines.mapIdx fun i line => lineOutcome (start + i) line).flatMap (cellsOf policy)

def errorsFrom (start : Nat) (lines : List String) : List Diagnostic :=
  (lines.mapIdx fun i line => lineOutcome (start + i) line).filterMap errorOf?

theorem ofLines_eq (policy : OnError) (lines : List String) :
    ofLines policy lines = ⟨⟨cellsFrom policy 0 lines⟩, errorsFrom 0 lines⟩ := by
  have hstart : (fun i line => lineOutcome (0 + i) line) = lineOutcome := by
    funext i line
    rw [Nat.zero_add]
  rw [cellsFrom, errorsFrom, hstart]
  rfl

theorem lineOutcome_of_ok {line : String} {i : Instr} (index : Nat) (h : parseLine line = .ok i) :
    lineOutcome index line = .ok ⟨i.encode, some index⟩ := by
  have hword : assembleLine line = .ok i.encode := by rw [assembleLine, h]; rfl
  rw [lineOutcome, hword]

theorem lineOutcome_of_error {line : String} {d : Diagnostic} (index : Nat)
    (h : parseLine line = .error d) : lineOutcome index line = .error (d.atLine index) := by
  have hword : assembleLine line = .error d := by rw [assembleLine, h]; rfl
  rw [lineOutcome, hword]

theorem fails_of_ok {line : String} {i : Instr} (h : parseLine line = .ok i) :
    fails line = false := by
  rw [fails, h]
  rfl

theorem fails_of_error {line : String} {d : Diagnostic} (h : parseLine line = .error d) :
    fails line = true := by
  rw [fails, h]
  rfl

/-- A line leaves its own cell, or one that remembers no line. -/
theorem mem_cellsOf {policy : OnError} {index : Nat} {line : String} {c : Cell}
    (hc : c ∈ cellsOf policy (lineOutcome index line)) :
    (fails line = false ∧ c.line = some index) ∨
      (fails line = true ∧ policy = .placeholder ∧ c.line = none) := by
  cases h : parseLine line with
  | ok i =>
    rw [lineOutcome_of_ok index h, cellsOf, List.mem_singleton] at hc
    rw [hc]
    exact Or.inl ⟨fails_of_ok h, rfl⟩
  | error d =>
    rw [lineOutcome_of_error index h] at hc
    cases policy with
    | skip => cases hc
    | placeholder =>
      rw [cellsOf, List.mem_singleton] at hc
      rw [hc]
      exact Or.inr ⟨fails_of_error h, rfl, rfl⟩

variable (policy : OnError) (start : Nat)

theorem cellsFrom_append (xs ys : List String) :
    cellsFrom policy start (xs ++ ys) =
      cellsFrom policy start xs ++ cellsFrom policy (start + xs.length) ys := by
  have hindex : ∀ i, start + (i + xs.length) = start + xs.length + i := by
    intro i
    omega
  simp only [cellsFrom, List.mapIdx_append, List.flatMap_append, hindex]

theorem errorsFrom_append (xs ys : List String) :
    errorsFrom start (xs ++ ys) = errorsFrom start xs ++ errorsFrom (start + xs.length) ys := by
  have hindex : ∀ i, start + (i + xs.length) = start + xs.length + i := by
    intro i
    omega
  simp only [errorsFrom, List.mapIdx_append, List.filterMap_append, hindex]

theorem cellsFrom_singleton (line : String) :
    cellsFrom policy start [line] = cellsOf policy (lineOutcome start line) :=
  List.append_nil _

theorem cellsFrom_cons (line : String) (lines : List String) :
    cellsFrom policy start (line :: lines) =
      cellsOf policy (lineOutcome start line) ++ cellsFrom policy (start + 1) lines := by
  rw [← List.singleton_append, cellsFrom_append, cellsFrom_singleton]
  rfl

theorem errorsFrom_cons_of_ok {line : String} {i : Instr} (lines : List String)
    (h : parseLine line = .ok i) :
    errorsFrom start (line :: lines) = errorsFrom (start + 1) lines := by
  have hone : errorsFrom start [line] = [] := by
    simp [errorsFrom, lineOutcome_of_ok start h, errorOf?]
  rw [← List.singleton_append, errorsFrom_append, hone]
  rfl

theorem errorsFrom_cons_of_error {line : String} {d : Diagnostic} (lines : List String)
    (h : parseLine line = .error d) :
    errorsFrom start (line :: lines) = d.atLine start :: errorsFrom (start + 1) lines := by
  have hone : errorsFrom start [line] = [d.atLine start] := by
    simp [errorsFrom, lineOutcome_of_error start h, errorOf?]
  rw [← List.singleton_append, errorsFrom_append, hone]
  rfl

theorem length_errorsFrom (lines : List String) :
    (errorsFrom start lines).length = lines.countP fails := by
  induction lines generalizing start with
  | nil => rfl
  | cons line lines ih =>
    cases h : parseLine line with
    | ok i =>
      have hfine : ¬ fails line = true := by simp [fails_of_ok h]
      rw [errorsFrom_cons_of_ok start lines h, List.countP_cons_of_neg hfine, ih]
    | error d =>
      have hfails : fails line = true := fails_of_error h
      rw [errorsFrom_cons_of_error start lines h, List.countP_cons_of_pos hfails,
        List.length_cons, ih]

theorem length_cellsFrom_skip (lines : List String) :
    (cellsFrom .skip start lines).length + lines.countP fails = lines.length := by
  induction lines generalizing start with
  | nil => rfl
  | cons line lines ih =>
    have hrest := ih (start + 1)
    rw [cellsFrom_cons, List.length_append, List.length_cons]
    cases h : parseLine line with
    | ok i =>
      have hfine : ¬ fails line = true := by simp [fails_of_ok h]
      have hone : (cellsOf .skip (lineOutcome start line)).length = 1 := by
        rw [lineOutcome_of_ok start h]
        rfl
      rw [List.countP_cons_of_neg hfine]
      omega
    | error d =>
      have hfails : fails line = true := fails_of_error h
      have hnone : (cellsOf .skip (lineOutcome start line)).length = 0 := by
        rw [lineOutcome_of_error start h]
        rfl
      rw [List.countP_cons_of_pos hfails]
      omega

theorem length_cellsFrom_placeholder (lines : List String) :
    (cellsFrom .placeholder start lines).length = lines.length := by
  induction lines generalizing start with
  | nil => rfl
  | cons line lines ih =>
    have hone : (cellsOf .placeholder (lineOutcome start line)).length = 1 := by
      cases lineOutcome start line <;> rfl
    rw [cellsFrom_cons, List.length_append, ih, hone, List.length_cons, Nat.add_comm]

end ByteBench.Assembly
