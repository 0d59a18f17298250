import ByteBench.Proofs.Machine.Bus
import ByteBench.Proofs.Session.UntilFinish

/-!
# Stopping a bus model

A bus model that has just been powered on is stopped by a number of evaluations: the one after which
it has finished, the limit of the session, or the one after which it fails. Main statement:
`runUntilFinish_stops`.
-/

namespace ByteBench

namespace Bus

open Session

/-- A bus model that is open and has been evaluated `k` times. -/
structure Counted (finishAfter faultAfter : Option Nat) (k : Nat) (b : Bus) : Prop where
  closes_eq : b.closes = 0
  evals_eq : b.evals = k
  finishAfter_eq : b.finishAfter = finishAfter
  faultAfter_eq : b.faultAfter = faultAfter

/-- The evaluations until there is a reason to stop. A number that is not there counts for
nothing. -/
def stopsAfter (limit : Nat) (finishAfter faultAfter : Option Nat) : Nat :=
  min (finishAfter.getD limit) (min limit (faultAfter.getD limit))

variable {finishAfter faultAfter : Option Nat} {k limit : Nat} {b : Bus}

theorem Counted.advance (h : Counted finishAfter faultAfter k b) (p : Pins) :
    Counted finishAfter faultAfter (k + 1) (b.advance p) := by
  obtain ⟨hcloses, hfinish, hfault⟩ := limits_advance p b
  have hevals : (b.advance p).evals = b.evals + 1 := rfl
  exact ⟨hcloses.trans h.closes_eq, by rw [hevals, h.evals_eq], hfinish.trans h.finishAfter_eq,
    hfault.trans h.faultAfter_eq⟩

theorem Counted.finished_eq (h : Counted finishAfter faultAfter k b) :
    Processor.finished b = reached finishAfter k := by
  show reached b.finishAfter b.evals = _
  rw [h.finishAfter_eq, h.evals_eq]

theorem Counted.refusal?_eq (h : Counted finishAfter faultAfter k b)
    (hfinish : reached finishAfter k = false) :
    b.refusal? = (faultAfter.filter (· ≤ k)).map fun n =>
      .fault ("injected fault after " ++ toString n ++ " evaluations") := by
  have hopen : b.isClosed = false := by rw [isClosed, h.closes_eq]; rfl
  have hgoing : b.finished = false := h.finished_eq.trans hfinish
  simp [refusal?, hopen, hgoing, h.faultAfter_eq, h.evals_eq]

theorem reached_eq_false (hle : k ≤ stopsAfter limit finishAfter faultAfter)
    (hne : finishAfter ≠ some k) : reached finishAfter k = false := by
  cases finishAfter with
  | none => rfl
  | some n =>
    have hnk : n ≠ k := fun h => hne (congrArg some h)
    have hkn : k ≤ n := Nat.le_trans hle (Nat.min_le_left _ _)
    have hlater : ¬ n ≤ k := by omega
    simpa [reached] using hlater

theorem filter_eq_none (h : k < stopsAfter limit finishAfter faultAfter) :
    faultAfter.filter (· ≤ k) = none := by
  cases faultAfter with
  | none => rfl
  | some n =>
    rw [stopsAfter, Option.getD_some] at h
    have hlater : ¬ n ≤ k := by omega
    simpa using hlater

theorem stopsAfter_cases (limit : Nat) (finishAfter faultAfter : Option Nat) :
    finishAfter = some (stopsAfter limit finishAfter faultAfter) ∨
      limit = stopsAfter limit finishAfter faultAfter ∨
      faultAfter = some (stopsAfter limit finishAfter faultAfter) := by
  cases finishAfter <;> cases faultAfter <;> simp only [stopsAfter, Option.getD_some,
    Option.getD_none, Option.some.injEq, reduceCtorEq] <;> omega

theorem Counted.eval_eq (h : Counted finishAfter faultAfter k b) (p : Pins)
    (hk : k < stopsAfter limit finishAfter faultAfter) :
    Processor.eval p b = (.ok (b.outputs p), b.advance p) := by
  have hne : finishAfter ≠ some k := by
    rintro rfl
    rw [stopsAfter, Option.getD_some] at hk
    omega
  apply eval_of_accepted
  rw [h.refusal?_eq (reached_eq_false (Nat.le_of_lt hk) hne), filter_eq_none hk]
  rfl

theorem counted_idled (program data : Memory)
    (hk : k ≤ stopsAfter limit finishAfter faultAfter) :
    Counted finishAfter faultAfter k
      (idled ({ program, data, finishAfter, faultAfter } : Bus) k) := by
  induction k with
  | zero => exact ⟨rfl, rfl, rfl, rfl⟩
  | succ k ih =>
    have h := ih (Nat.le_of_succ_le hk)
    rw [idled_succ (h.eval_eq {} hk)]
    exact h.advance {}

theorem not_stops_idled (program data : Memory)
    (hk : k < stopsAfter limit finishAfter faultAfter) :
    ¬ Stops ({ program, data, finishAfter, faultAfter } : Bus) limit k := by
  have hcount := counted_idled program data (Nat.le_of_lt hk)
  have hanswer := idleAnswer_eq (hcount.eval_eq {} hk)
  have hne : finishAfter ≠ some k := by
    rintro rfl
    rw [stopsAfter, Option.getD_some] at hk
    omega
  rintro (hfinished | hlimit | ⟨cause, hcause⟩)
  · rw [hcount.finished_eq, reached_eq_false (Nat.le_of_lt hk) hne] at hfinished
    cases hfinished
  · rw [stopsAfter] at hk
    omega
  · rw [hanswer] at hcause
    cases hcause

theorem finished_idled_iff (program data : Memory)
    (hk : k ≤ stopsAfter limit finishAfter faultAfter) :
    Processor.finished (idled ({ program, data, finishAfter, faultAfter } : Bus) k) = true ↔
      finishAfter = some k := by
  rw [(counted_idled program data hk).finished_eq]
  constructor
  · intro h
    by_cases hfinish : finishAfter = some k
    · exact hfinish
    · rw [reached_eq_false hk hfinish] at h
      cases h
  · rintro rfl
    simp [reached]

def injected (k : Nat) : ModelError :=
  .fault ("injected fault after " ++ toString k ++ " evaluations")

theorem idleAnswer_eq_injected (program data : Memory)
    (hk : k ≤ stopsAfter limit finishAfter faultAfter) (hne : finishAfter ≠ some k)
    (hfault : faultAfter = some k) :
    idleAnswer ({ program, data, finishAfter, faultAfter } : Bus) k = .error (injected k) := by
  have hcount := counted_idled program data hk
  have hrefusal := hcount.refusal?_eq (reached_eq_false hk hne)
  have hfilter : faultAfter.filter (· ≤ k) = some k := by
    rw [hfault]
    simp
  rw [hfilter] at hrefusal
  exact idleAnswer_eq (eval_of_refusal hrefusal)

theorem stops_idled (program data : Memory) (limit : Nat) (finishAfter faultAfter : Option Nat) :
    Stops ({ program, data, finishAfter, faultAfter } : Bus) limit
      (stopsAfter limit finishAfter faultAfter) := by
  obtain ⟨k, hk⟩ : ∃ k, stopsAfter limit finishAfter faultAfter = k := ⟨_, rfl⟩
  have hle : k ≤ stopsAfter limit finishAfter faultAfter := Nat.le_of_eq hk.symm
  have hcases := stopsAfter_cases limit finishAfter faultAfter
  rw [hk] at hcases ⊢
  by_cases hfinish : finishAfter = some k
  · exact Or.inl ((finished_idled_iff program data hle).mpr hfinish)
  · rcases hcases with h | h | h
    · exact absurd h hfinish
    · exact Or.inr (Or.inl h.symm)
    · exact Or.inr (Or.inr ⟨_, idleAnswer_eq_injected program data hle hfinish h⟩)

/-- The first reason to stop a bus model that has just been powered on is the one whose number is
the smallest. -/
theorem eq_stopsAfter {program data : Memory}
    (hstops : Stops ({ program, data, finishAfter, faultAfter } : Bus) limit k)
    (hfirst : ∀ j, j < k → ¬ Stops ({ program, data, finishAfter, faultAfter } : Bus) limit j) :
    k = stopsAfter limit finishAfter faultAfter := by
  apply Nat.le_antisymm
  · rw [← Nat.not_lt]
    intro hlt
    exact hfirst _ hlt (stops_idled program data limit finishAfter faultAfter)
  · rw [← Nat.not_lt]
    intro hlt
    exact not_stops_idled program data hlt hstops

end Bus

namespace Session

/-- What a session answers whose bus model was stopped after `k` evaluations. -/
def busAnswer (limit : Nat) (finishAfter : Option Nat) (k : Nat) : Except SessionError Reply :=
  if finishAfter = some k then .ok (.evaluations k)
  else if limit = k then .error (.noFinish limit)
  else .error (.fatal .run k (Bus.injected k))

theorem answer_bus {program data : Memory} {limit k : Nat} {finishAfter faultAfter : Option Nat}
    {sink : Option SinkId} {answer : Except SessionError Reply} {s : Session Bus}
    (hk : k = Bus.stopsAfter limit finishAfter faultAfter)
    (h : StopsAt ({ program, data, finishAfter, faultAfter } : Bus) limit sink k answer s) :
    answer = busAnswer limit finishAfter k := by
  have hle := Nat.le_of_eq hk
  have hfinished := Bus.finished_idled_iff program data hle
  rw [busAnswer]
  by_cases hfinish : finishAfter = some k
  · rw [if_pos hfinish]
    exact (h.of_finished (hfinished.mpr hfinish)).1
  have hgoing : Processor.finished (Session.idled
      ({ program, data, finishAfter, faultAfter } : Bus) k) = false := by
    rw [← Bool.not_eq_true, hfinished]
    exact hfinish
  rw [if_neg hfinish]
  by_cases hlimit : limit = k
  · rw [if_pos hlimit]
    exact (h.of_limit hgoing hlimit.symm).1
  · have hfault : faultAfter = some k := by
      have hcases := Bus.stopsAfter_cases limit finishAfter faultAfter
      rw [← hk] at hcases
      rcases hcases with hcase | hcase | hcase
      · exact absurd hcase hfinish
      · exact absurd hcase hlimit
      · exact hcase
    have hanswer := Bus.idleAnswer_eq_injected program data hle hfinish hfault
    rw [if_neg hlimit]
    exact (h.of_fault _ hgoing (Ne.symm hlimit) hanswer).1

/-- A session that lets its model run stops after as many evaluations as there are before the first
reason to stop. For a bus model that has just been powered on this is the smallest of three
numbers. -/
theorem runUntilFinish_stops (flags : SessionFlags) (sink : Option SinkId) :
    (∀ (M : Type) [Processor M] (model : M), ∃ k,
      StopsAt model flags.finishLimit.toNat sink k
        ((opened model flags sink).answer .runUntilFinish).1
        ((opened model flags sink).after .runUntilFinish)) ∧
      ∀ (program data : Memory) (finishAfter faultAfter : Option Nat),
        let model : Bus := { program, data, finishAfter, faultAfter }
        let k := Bus.stopsAfter flags.finishLimit.toNat finishAfter faultAfter
        ((opened model flags sink).answer .runUntilFinish).1 =
            busAnswer flags.finishLimit.toNat finishAfter k ∧
          StopsAt model flags.finishLimit.toNat sink k
            ((opened model flags sink).answer .runUntilFinish).1
            ((opened model flags sink).after .runUntilFinish) := by
  refine ⟨fun M _ model => stopsAt model flags sink, ?_⟩
  intro program data finishAfter faultAfter model k
  obtain ⟨k', h⟩ := stopsAt model flags sink
  have hk : k' = k := Bus.eq_stopsAfter h.stops h.not_stops
  rw [hk] at h
  exact ⟨answer_bus rfl h, h⟩

end Session

end ByteBench
