import ByteBench.Machine.Processor

/-!
# Feeding a model

A model is fed rows of pins, one evaluation for each row, until the rows are used up or an
evaluation fails. Main statements: `ofRows_append` and `ofRows_append_of_failure`, feeding one list
of rows and then another; `length_answers` and `length_answers_lt`, how far a feed came.
-/

namespace ByteBench

/-- What came of feeding a model: the model as it is then, the answers of the evaluations that
succeeded, and why the one after them failed, if one did. -/
structure Feed (M : Type) where
  model : M
  answers : List Outputs := []
  failure : Option ModelError := none

namespace Feed

variable {M : Type}

def append (f g : Feed M) : Feed M := ⟨g.model, f.answers ++ g.answers, g.failure⟩

variable [Processor M]

def ofRows : List Pins → M → Feed M
  | [], m => { model := m }
  | row :: rows, m =>
    match Processor.eval row m with
    | (.ok outputs, m) => append { model := m, answers := [outputs] } (ofRows rows m)
    | (.error cause, m) => { model := m, failure := some cause }

theorem ofRows_of_ok {row : Pins} {m m' : M} {outputs : Outputs} (rows : List Pins)
    (h : Processor.eval row m = (.ok outputs, m')) :
    ofRows (row :: rows) m = append { model := m', answers := [outputs] } (ofRows rows m') := by
  rw [ofRows, h]

theorem ofRows_of_error {row : Pins} {m m' : M} {cause : ModelError} (rows : List Pins)
    (h : Processor.eval row m = (.error cause, m')) :
    ofRows (row :: rows) m = { model := m', failure := some cause } := by
  rw [ofRows, h]

theorem ofRows_append {xs : List Pins} {m : M} (ys : List Pins)
    (h : (ofRows xs m).failure = none) :
    ofRows (xs ++ ys) m = append (ofRows xs m) (ofRows ys (ofRows xs m).model) := by
  induction xs generalizing m with
  | nil => rfl
  | cons row xs ih =>
    cases he : Processor.eval row m with
    | mk answer m' =>
      cases answer with
      | error cause =>
        rw [ofRows_of_error xs he] at h
        cases h
      | ok outputs =>
        rw [ofRows_of_ok xs he] at h ⊢
        rw [List.cons_append, ofRows_of_ok (xs ++ ys) he, ih h]
        rfl

theorem ofRows_append_of_failure {xs : List Pins} {m : M} {cause : ModelError} (ys : List Pins)
    (h : (ofRows xs m).failure = some cause) : ofRows (xs ++ ys) m = ofRows xs m := by
  induction xs generalizing m with
  | nil => cases h
  | cons row xs ih =>
    cases he : Processor.eval row m with
    | mk answer m' =>
      cases answer with
      | error cause' => rw [List.cons_append, ofRows_of_error _ he, ofRows_of_error _ he]
      | ok outputs =>
        rw [ofRows_of_ok xs he] at h
        rw [List.cons_append, ofRows_of_ok _ he, ofRows_of_ok _ he, ih h]

/-- A feed has as many answers as rows if nothing failed, and fewer otherwise. -/
theorem length_answers_cases (rows : List Pins) (m : M) :
    ((ofRows rows m).failure = none ∧ (ofRows rows m).answers.length = rows.length) ∨
      ∃ cause, (ofRows rows m).failure = some cause ∧
        (ofRows rows m).answers.length < rows.length := by
  induction rows generalizing m with
  | nil => exact Or.inl ⟨rfl, rfl⟩
  | cons row rows ih =>
    cases he : Processor.eval row m with
    | mk answer m' =>
      cases answer with
      | error cause =>
        rw [ofRows_of_error rows he]
        exact Or.inr ⟨cause, rfl, Nat.succ_pos _⟩
      | ok outputs =>
        rw [ofRows_of_ok rows he]
        simp only [append, List.length_append, List.length_cons, List.length_nil]
        rcases ih m' with ⟨hf, hl⟩ | ⟨cause, hf, hl⟩
        · exact Or.inl ⟨hf, by omega⟩
        · exact Or.inr ⟨cause, hf, by omega⟩

theorem length_answers {rows : List Pins} {m : M} (h : (ofRows rows m).failure = none) :
    (ofRows rows m).answers.length = rows.length := by
  rcases length_answers_cases rows m with ⟨_, hl⟩ | ⟨cause, hf, _⟩
  · exact hl
  · rw [h] at hf
    cases hf

theorem length_answers_lt {rows : List Pins} {m : M} {cause : ModelError}
    (h : (ofRows rows m).failure = some cause) :
    (ofRows rows m).answers.length < rows.length := by
  rcases length_answers_cases rows m with ⟨hf, _⟩ | ⟨_, _, hl⟩
  · rw [h] at hf
    cases hf
  · exact hl

/-- Rows after the one that failed make no difference to a feed. -/
theorem ofRows_take (rows : List Pins) (m : M) :
    ofRows (rows.take ((ofRows rows m).answers.length + 1)) m = ofRows rows m := by
  rcases length_answers_cases rows m with ⟨-, hlength⟩ | ⟨cause, -, hlt⟩
  · rw [List.take_of_length_le (by omega)]
  · generalize hn : (ofRows rows m).answers.length = n at hlt ⊢
    have hparts := List.take_append_drop (n + 1) rows
    have htake : (rows.take (n + 1)).length = n + 1 := by
      rw [List.length_take]
      omega
    cases hfail : (ofRows (rows.take (n + 1)) m).failure with
    | some cause =>
      have hall := ofRows_append_of_failure (rows.drop (n + 1)) hfail
      rw [hparts] at hall
      exact hall.symm
    | none =>
      -- otherwise there would be an answer to each of them
      have hall := ofRows_append (rows.drop (n + 1)) hfail
      have hfirst := length_answers hfail
      rw [hparts] at hall
      rw [hall, append, List.length_append] at hn
      omega

end Feed

end ByteBench
