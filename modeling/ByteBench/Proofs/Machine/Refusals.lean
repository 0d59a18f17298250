import ByteBench.Proofs.Machine.Bus

/-!
# When the bus model refuses

Evaluating and closing a bus model, in any order. Main statements: `closes_callAll`, how often a model
has been closed, modulo 2 ^ 32, and `failures_callAll`, why an evaluation fails, which of the reasons
goes before which, and that nothing goes on after a failure as long as the closes can be counted.
-/

namespace ByteBench.Bus

inductive Call
  | eval (p : Pins)
  | close
  deriving DecidableEq

def call (b : Bus) : Call → Bus
  | .eval p => (b.eval p).2
  | .close => b.close

def callAll (calls : List Call) (b : Bus) : Bus := calls.foldl call b

/-- What the evaluations among some calls give. -/
def answers : List Call → Bus → List (Except ModelError Outputs)
  | [], _ => []
  | .eval p :: calls, b => (b.eval p).1 :: answers calls (b.eval p).2
  | .close :: calls, b => answers calls b.close

def WasClosed (calls : List Call) (start : Bus) : Prop := start.isClosed = true ∨ .close ∈ calls

/-- All closes of the model can be counted, those in `calls` included. -/
def ClosesFit (calls : List Call) (start : Bus) : Prop :=
  start.closes + calls.count .close < UInt32.size

/-- Which reason decides what an evaluation of the model `b` gives, which some calls have made of
`start`. -/
structure Reasons (start : Bus) (calls : List Call) (b : Bus) (p : Pins) : Prop where
  closed_iff : (b.eval p).1 = .error .closed ↔ start.WasClosed calls
  exhausted_iff : (b.eval p).1 = .error .exhausted ↔
    ¬ start.WasClosed calls ∧ reached start.finishAfter b.evals = true
  fault_iff : ∀ cause, (b.eval p).1 = .error (.fault cause) ↔
    ¬ start.WasClosed calls ∧ ¬ reached start.finishAfter b.evals = true ∧
      ∃ m ∈ start.faultAfter, m ≤ b.evals ∧
        cause = "injected fault after " ++ toString m ++ " evaluations"
  ok_iff : ∀ out, (b.eval p).1 = .ok out ↔
    ¬ start.WasClosed calls ∧ ¬ reached start.finishAfter b.evals = true ∧
      ¬ reached start.faultAfter b.evals = true ∧ out = start.outputs p

/-- What an evaluation of such a model gives, and what it can give later on. -/
structure Failures (start : Bus) (calls : List Call) (b : Bus) (p : Pins) : Prop where
  reasons : start.ClosesFit calls → Reasons start calls b p
  unchanged : ∀ error, (b.eval p).1 = .error error → (b.eval p).2 = b
  evals_eq : b.evals = start.evals + (answers calls start).countP (·.isOk)
  counts_lt : ∀ limit, start.CountsBelow limit → b.CountsBelow (limit + calls.length)
  /-- No limit is passed that has not been passed in the beginning. -/
  evals_le : ∀ n, n ∈ start.finishAfter ∨ n ∈ start.faultAfter → start.evals ≤ n → b.evals ≤ n
  fails_forever : ∀ error, (b.eval p).1 = .error error → ∀ more q,
    start.ClosesFit (calls ++ more) →
      ∃ error', ((b.callAll (.eval p :: more)).eval q).1 = .error error'
  finished_forever : b.finished = true → ∀ more, (b.callAll more).finished = true

variable {start b b' : Bus} {c : Call} {p : Pins} {error : ModelError}

theorem eval_eq_error_iff : (b.eval p).1 = .error error ↔ b.refusal? = some error := by
  unfold eval
  cases b.refusal? <;> simp

theorem eval_eq_ok_iff {outputs : Outputs} :
    (b.eval p).1 = .ok outputs ↔ b.refusal? = none ∧ outputs = b.outputs p := by
  unfold eval
  cases b.refusal? <;> simp [eq_comm]

theorem refusal?_eq_closed_iff : b.refusal? = some .closed ↔ b.isClosed = true := by
  unfold refusal?
  cases b.isClosed <;> cases b.finished <;> simp

theorem refusal?_eq_exhausted_iff :
    b.refusal? = some .exhausted ↔ ¬ b.isClosed = true ∧ b.finished = true := by
  unfold refusal?
  cases b.isClosed <;> cases b.finished <;> simp

theorem refusal?_eq_fault_iff {cause : String} :
    b.refusal? = some (.fault cause) ↔
      ¬ b.isClosed = true ∧ ¬ b.finished = true ∧ ∃ m ∈ b.faultAfter, m ≤ b.evals ∧
        cause = "injected fault after " ++ toString m ++ " evaluations" := by
  unfold refusal?
  cases b.isClosed <;> cases b.finished <;>
    simp [Option.map_eq_some_iff, Option.filter_eq_some_iff, and_assoc, eq_comm (b := cause)]

theorem refusal?_eq_none_iff :
    b.refusal? = none ↔
      ¬ b.isClosed = true ∧ ¬ b.finished = true ∧ ¬ reached b.faultAfter b.evals = true := by
  unfold refusal? reached
  cases b.isClosed <;> cases b.finished <;> cases b.faultAfter <;> simp

/-- What a call does to the model: nothing if it is an evaluation that is refused. -/
inductive Step (b : Bus) : Call → Bus → Prop
  | refused {p : Pins} {error : ModelError} (h : b.refusal? = some error) : Step b (.eval p) b
  | accepted {p : Pins} (h : b.refusal? = none) : Step b (.eval p) (b.advance p)
  | closed : Step b .close b.close

theorem step_call (b : Bus) (c : Call) : Step b c (b.call c) := by
  cases c with
  | close => exact .closed
  | eval p =>
    show Step b (.eval p) (b.eval p).2
    cases h : b.refusal? with
    | some error =>
      rw [eval_of_refusal h]
      exact .refused h
    | none =>
      rw [eval_of_accepted h]
      exact .accepted h

theorem callAll_cons (c : Call) (calls : List Call) (b : Bus) :
    b.callAll (c :: calls) = (b.call c).callAll calls := rfl

theorem callAll_induction {P : Bus → Prop} (hstep : ∀ b c b', Step b c b' → P b → P b')
    (calls : List Call) (h : P b) : P (b.callAll calls) := by
  induction calls generalizing b with
  | nil => exact h
  | cons c calls ih => exact ih (hstep b c _ (step_call b c) h)

/-- What no call changes. -/
structure Alike (start b : Bus) : Prop where
  finishAfter_eq : b.finishAfter = start.finishAfter
  faultAfter_eq : b.faultAfter = start.faultAfter
  data_eq : b.data = start.data

theorem Step.alike (hstep : Step b c b') (h : Alike start b) : Alike start b' := by
  cases hstep with
  | refused => exact h
  | closed => exact ⟨h.finishAfter_eq, h.faultAfter_eq, h.data_eq⟩
  | @accepted p _ =>
    obtain ⟨-, hfinish, hfault⟩ := limits_advance p b
    exact ⟨hfinish.trans h.finishAfter_eq, hfault.trans h.faultAfter_eq,
      (data_advance p b).trans h.data_eq⟩

theorem Step.evals_le_evals (hstep : Step b c b') : b.evals ≤ b'.evals := by
  cases hstep with
  | refused | closed => exact Nat.le_refl _
  | accepted => exact Nat.le_succ _

theorem reached_mono {limit : Option Nat} {k l : Nat} (hle : k ≤ l) (h : reached limit k = true) :
    reached limit l = true := by
  unfold reached at *
  cases limit with
  | none => cases h
  | some n =>
    simp only [Option.any_some, decide_eq_true_eq] at *
    omega

theorem lt_of_not_reached {limit : Option Nat} {n k : Nat} (hn : n ∈ limit)
    (h : ¬ reached limit k = true) : k < n := by
  unfold reached at h
  rw [Option.mem_def.mp hn] at h
  simpa using h

theorem Step.finished (hstep : Step b c b') (h : b.finished = true) : b'.finished = true := by
  have hlimit : b'.finishAfter = b.finishAfter := (hstep.alike ⟨rfl, rfl, rfl⟩).finishAfter_eq
  unfold Bus.finished at *
  rw [hlimit]
  exact reached_mono hstep.evals_le_evals h

theorem Step.closes_eq (hstep : Step b c b') :
    b'.closes = (b.closes + [c].count .close) % UInt32.size := by
  have hlt : b.closes < UInt32.size := b.closeCount.toNat_lt
  cases hstep with
  | refused => simpa using (Nat.mod_eq_of_lt hlt).symm
  | closed => simpa using closes_close b
  | @accepted p _ =>
    obtain ⟨hcloses, -, -⟩ := limits_advance p b
    simpa [hcloses] using (Nat.mod_eq_of_lt hlt).symm

theorem closes_callAll (calls : List Call) (b : Bus) :
    (b.callAll calls).closes = (b.closes + calls.count .close) % UInt32.size := by
  induction calls generalizing b with
  | nil => exact (Nat.mod_eq_of_lt b.closeCount.toNat_lt).symm
  | cons c calls ih =>
    have hcount : (c :: calls).count .close = [c].count .close + calls.count .close := by
      rw [← List.count_append, List.singleton_append]
    rw [callAll_cons, ih, (step_call b c).closes_eq, hcount, Nat.mod_add_mod, Nat.add_assoc]

theorem ClosesFit.of_append {calls : List Call} (more : List Call)
    (h : start.ClosesFit (calls ++ more)) : start.ClosesFit calls := by
  unfold ClosesFit at *
  rw [List.count_append] at h
  omega

theorem ClosesFit.callAll (calls : List Call) {more : List Call}
    (h : start.ClosesFit (calls ++ more)) : (start.callAll calls).ClosesFit more := by
  have hcount : (start.callAll calls).closes = start.closes + calls.count .close := by
    rw [closes_callAll, Nat.mod_eq_of_lt (h.of_append more)]
  unfold ClosesFit at *
  rw [List.count_append] at h
  omega

theorem Step.refused_again (hstep : Step b c b') (hfit : b.ClosesFit [c])
    (h : b.refusal? ≠ none) : b'.refusal? ≠ none := by
  cases hstep with
  | refused => exact h
  | accepted hnone => exact absurd hnone h
  | closed =>
    have hcount : b.closes + 1 < UInt32.size := by simpa [ClosesFit] using hfit
    have hclosed : 0 < b.close.closes := by
      rw [closes_close, Nat.mod_eq_of_lt hcount]
      exact Nat.succ_pos _
    rw [Ne, refusal?_eq_none_iff]
    rintro ⟨hopen, -⟩
    exact hopen (by simpa [isClosed] using hclosed)

theorem refused_callAll (calls : List Call) (hfit : b.ClosesFit calls) (h : b.refusal? ≠ none) :
    (b.callAll calls).refusal? ≠ none := by
  induction calls generalizing b with
  | nil => exact h
  | cons c calls ih =>
    have hone : b.ClosesFit [c] := hfit.of_append calls
    exact ih (hfit.callAll [c]) ((step_call b c).refused_again hone h)

/-- Only a model that is below its limits is evaluated. -/
theorem Step.evals_le {n : Nat} (hstep : Step b c b') (hn : n ∈ b.finishAfter ∨ n ∈ b.faultAfter)
    (h : b.evals ≤ n) : b'.evals ≤ n := by
  cases hstep with
  | refused | closed => exact h
  | accepted hnone =>
    obtain ⟨-, hfinish, hfault⟩ := refusal?_eq_none_iff.mp hnone
    rcases hn with hn | hn
    · exact lt_of_not_reached hn hfinish
    · exact lt_of_not_reached hn hfault

theorem evals_callAll_le {n : Nat} (calls : List Call)
    (hn : n ∈ start.finishAfter ∨ n ∈ start.faultAfter) (hstart : start.evals ≤ n) :
    (start.callAll calls).evals ≤ n := by
  have hall : Alike start (start.callAll calls) ∧ (start.callAll calls).evals ≤ n := by
    apply callAll_induction (P := fun b => Alike start b ∧ b.evals ≤ n) _ calls
      ⟨⟨rfl, rfl, rfl⟩, hstart⟩
    rintro b c b' hstep ⟨halike, hle⟩
    refine ⟨hstep.alike halike, hstep.evals_le ?_ hle⟩
    rwa [halike.finishAfter_eq, halike.faultAfter_eq]
  exact hall.2

theorem isClosed_callAll_iff {calls : List Call} (hfit : b.ClosesFit calls) :
    (b.callAll calls).isClosed = true ↔ b.WasClosed calls := by
  have hcloses : (b.callAll calls).closes = b.closes + calls.count .close := by
    rw [closes_callAll, Nat.mod_eq_of_lt hfit]
  have hmem : .close ∈ calls ↔ 0 < calls.count .close := List.count_pos_iff.symm
  rw [WasClosed, hmem]
  simp only [isClosed, hcloses, decide_eq_true_eq]
  omega

theorem Step.countsBelow {limit : Nat} (hstep : Step b c b') (h : b.CountsBelow limit) :
    b'.CountsBelow (limit + 1) := by
  have hmore : b.CountsBelow (limit + 1) := h.mono (Nat.le_succ limit)
  cases hstep with
  | refused => exact hmore
  | closed => exact ⟨hmore.evals_lt, hmore.programWrites_lt, hmore.runEdges_lt⟩
  | accepted => exact h.advance _

theorem countsBelow_callAll {limit : Nat} (calls : List Call) (h : b.CountsBelow limit) :
    (b.callAll calls).CountsBelow (limit + calls.length) := by
  induction calls generalizing b limit with
  | nil => exact h
  | cons c calls ih =>
    have hnext := ih ((step_call b c).countsBelow h)
    rwa [Nat.add_assoc, Nat.add_comm 1] at hnext

theorem evals_callAll (calls : List Call) (b : Bus) :
    (b.callAll calls).evals = b.evals + (answers calls b).countP (·.isOk) := by
  induction calls generalizing b with
  | nil => rfl
  | cons c calls ih =>
    rw [callAll_cons, ih]
    cases c with
    | close => rfl
    | eval p =>
      have hcall : b.call (.eval p) = (b.eval p).2 := rfl
      have hanswers : answers (.eval p :: calls) b = (b.eval p).1 :: answers calls (b.eval p).2 :=
        rfl
      rw [hcall, hanswers]
      cases h : b.refusal? with
      | some error =>
        rw [eval_of_refusal h, List.countP_cons_of_neg Bool.false_ne_true]
      | none =>
        have hevals : (b.advance p).evals = b.evals + 1 := rfl
        rw [eval_of_accepted h, List.countP_cons_of_pos rfl, hevals]
        omega

theorem reasons_callAll {calls : List Call} (hfit : start.ClosesFit calls) (p : Pins) :
    Reasons start calls (start.callAll calls) p := by
  obtain ⟨b, hb⟩ : ∃ b, start.callAll calls = b := ⟨_, rfl⟩
  have hclosed : b.isClosed = true ↔ start.WasClosed calls := by
    rw [← hb, isClosed_callAll_iff hfit]
  have halike : Alike start b := by
    rw [← hb]
    exact callAll_induction (fun _ _ _ hstep => hstep.alike) calls ⟨rfl, rfl, rfl⟩
  have hfinished : b.finished = reached start.finishAfter b.evals := by
    rw [finished, halike.finishAfter_eq]
  have houtputs : b.outputs p = start.outputs p := by
    rw [outputs, outputs, halike.data_eq]
  rw [hb]
  constructor
  case closed_iff => rw [eval_eq_error_iff, refusal?_eq_closed_iff, hclosed]
  case exhausted_iff => rw [eval_eq_error_iff, refusal?_eq_exhausted_iff, hclosed, hfinished]
  case fault_iff =>
    intro cause
    rw [eval_eq_error_iff, refusal?_eq_fault_iff, hclosed, hfinished, halike.faultAfter_eq]
  case ok_iff =>
    intro out
    rw [eval_eq_ok_iff, refusal?_eq_none_iff, hclosed, hfinished, halike.faultAfter_eq, houtputs,
      and_assoc, and_assoc]

theorem failures_callAll (start : Bus) (calls : List Call) (p : Pins) :
    Failures start calls (start.callAll calls) p := by
  obtain ⟨b, hb⟩ : ∃ b, start.callAll calls = b := ⟨_, rfl⟩
  have hreasons : start.ClosesFit calls → Reasons start calls b p := by
    rw [← hb]
    exact fun hfit => reasons_callAll hfit p
  have hcounts : ∀ limit, start.CountsBelow limit → b.CountsBelow (limit + calls.length) := by
    rw [← hb]
    exact fun limit h => countsBelow_callAll calls h
  rw [hb]
  constructor
  case reasons => exact hreasons
  case counts_lt => exact hcounts
  case unchanged =>
    intro error herror
    rw [eval_of_refusal (eval_eq_error_iff.mp herror)]
  case evals_eq => rw [← hb, evals_callAll]
  case evals_le =>
    intro n hn hstart
    rw [← hb]
    exact evals_callAll_le calls hn hstart
  case fails_forever =>
    intro error herror more q hfit
    have hrefusal := eval_eq_error_iff.mp herror
    have hrefused : b.refusal? ≠ none := by simp [hrefusal]
    have hmore : b.ClosesFit more := by
      rw [← hb]
      exact hfit.callAll calls
    have hcall : b.callAll (.eval p :: more) = b.callAll more := by
      have hnothing : b.call (.eval p) = b := by
        show (b.eval p).2 = b
        rw [eval_of_refusal hrefusal]
      rw [callAll_cons, hnothing]
    obtain ⟨error', herror'⟩ :=
      Option.ne_none_iff_exists'.mp (refused_callAll more hmore hrefused)
    rw [hcall]
    exact ⟨error', eval_eq_error_iff.mpr herror'⟩
  case finished_forever =>
    exact fun hlast more => callAll_induction (fun _ _ _ hstep => hstep.finished) more hlast

theorem callAll_replicate_close (n : Nat) (b : Bus) :
    b.callAll (List.replicate n .close) =
      { b with closeCount := b.closeCount + UInt32.ofNat n } := by
  induction n generalizing b with
  | zero => simp [callAll]
  | succ n ih =>
    have hcount : b.closeCount + 1 + UInt32.ofNat n = b.closeCount + UInt32.ofNat (n + 1) := by
      rw [UInt32.ofNat_add, UInt32.add_assoc, UInt32.add_comm 1]
      rfl
    rw [List.replicate_succ, callAll_cons, ih]
    simp only [call, close, hcount]

/-- A model that has been closed 2 ^ 32 times is open again, and a limit that is set late may have
been passed already. -/
theorem reopened_and_passed :
    Call.close ∈ List.replicate UInt32.size Call.close ∧
      ((Bus.callAll (List.replicate UInt32.size .close)
        { program := Memory.zeros, data := Memory.zeros }).eval {}).1 = .ok ⟨0⟩ ∧
      ∃ b : Bus, b = { Bus.callAll [.eval {}, .eval {}]
          { program := Memory.zeros, data := Memory.zeros } with finishAfter := some 1 } ∧
        ¬ b.evals ≤ 1 := by
  refine ⟨List.mem_replicate.mpr ⟨by decide, rfl⟩, ?_, _, rfl, by decide⟩
  rw [callAll_replicate_close]
  rfl

example (program data : Memory) :
    answers [.eval {}, .eval {}, .close, .eval {}]
        ({ program, data, finishAfter := some 1, faultAfter := some 1 } : Bus) =
      [.ok ⟨data.get 0⟩, .error .exhausted, .error .closed] := rfl

end ByteBench.Bus
