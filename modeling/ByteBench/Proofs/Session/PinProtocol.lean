import ByteBench.Proofs.Session.Schedule
import ByteBench.Machine.Script
import ByteBench.Session.Request

/-!
# The pin protocol of a session

Main statement: `offered_execute`, the pins that a session offers to its model follow the schedule,
whatever the model answers, and stop only after an evaluation that failed.
-/

namespace ByteBench

def Call.pins? : Call → Option Pins
  | .eval pins => some pins
  | _ => none

namespace Session

variable {M : Type}

/-- The pins of all evaluations that were asked for, in order. -/
def offered (s : Session M) : List Pins := s.calls.reverse.filterMap Call.pins?

theorem offered_fed (rows : List Pins) (f : Feed M) (s : Session M) :
    (s.fed rows f).offered = s.offered ++ rows.take (f.answers.length + 1) := by
  have hpins : ∀ xs : List Pins, (xs.map Call.eval).filterMap Call.pins? = xs := by
    intro xs
    rw [List.filterMap_map]
    exact List.filterMap_some
  rw [offered, fed, List.reverse_append, List.reverse_reverse, List.filterMap_append, hpins]
  rfl

@[simp] theorem offered_place (phase : Phase) (pins : Pins) (cycles : Nat) (s : Session M) :
    (place phase pins cycles s).offered = s.offered := rfl

variable [Processor M]

@[simp] theorem offered_release (s : Session M) : s.release.offered = s.offered := by
  have hsink : ∀ t : Session M, t.releaseSink.offered = t.offered := by
    intro t
    unfold releaseSink
    split <;> rfl
  rw [release, hsink, releaseModel]
  split
  · simp [offered, Call.pins?]
  · rfl

theorem answer_execute_of_ok {p : Program} {s t : Session M} {trace : Trace}
    (h : execute p s = .ok trace t) : s.answer (.execute p) = (.ok (.trace trace), t) := by
  have hperform : perform (.execute p) s = .ok (.trace trace) t := bind_of_ok h
  rw [answer, hperform]

theorem answer_execute_of_error {p : Program} {s t : Session M} {error : SessionError}
    (h : execute p s = .error error t) : s.answer (.execute p) = (.error error, t) := by
  have hperform : perform (.execute p) s = .error error t := bind_of_error h
  rw [answer, hperform]

/-- A session offers one row more than its model answers, if it does not answer all of them. -/
theorem offered_after {s : Session M} {p : Program} {f : Feed M} (hsize : p.size ≤ programSpace)
    (hphase : s.phase = .idle) (hpins : s.pins = {})
    (hf : Feed.ofRows (edges (plan p s.flags)) s.model = f) :
    (s.after (.execute p)).offered =
      s.offered ++ (edges (plan p s.flags)).take (f.answers.length + 1) := by
  cases hfail : f.failure with
  | none =>
    have hrun := execute_of_none hsize hphase hpins hf hfail
    rw [after, answer_execute_of_ok hrun, offered_release, offered_place, offered_fed]
  | some cause =>
    have hrun := execute_of_some hsize hphase hpins hf hfail
    rw [after, answer_execute_of_error hrun, offered_release, offered_place, offered_fed]

theorem offered_after_execute {model : M} {flags : SessionFlags} {p : Program} {f : Feed M}
    (hsize : p.size ≤ programSpace) (hf : Feed.ofRows (edges (plan p flags)) model = f) :
    ((new model flags).after (.execute p)).offered =
      (edges (plan p flags)).take (f.answers.length + 1) :=
  offered_after (s := new model flags) hsize rfl rfl hf

/-- A session offers to its model the edges of its schedule, all of them if it succeeds. If it does
not, then the last ones that it offered are those of the evaluation that failed. -/
theorem offered_execute (model : M) (flags : SessionFlags) (p : Program)
    (hsize : p.size ≤ programSpace) :
    ((new model flags).after (.execute p)).offered <+:
        edges (schedule p.words flags.runCycles.toNat flags.readbackCycles.toNat) ∧
      (∀ reply, ((new model flags).answer (.execute p)).1 = .ok reply →
        ((new model flags).after (.execute p)).offered =
          edges (schedule p.words flags.runCycles.toNat flags.readbackCycles.toNat)) ∧
      ∀ error, ((new model flags).answer (.execute p)).1 = .error error →
        ∃ phase time cause, error = .fatal phase time cause ∧
          ((new model flags).after (.execute p)).offered.length = time + 1 := by
  have hplan : edges (schedule p.words flags.runCycles.toNat flags.readbackCycles.toNat) =
      edges (plan p flags) := rfl
  obtain ⟨f, hf⟩ : ∃ f, Feed.ofRows (edges (plan p flags)) model = f := ⟨_, rfl⟩
  rw [hplan, offered_after_execute hsize hf]
  refine ⟨List.take_prefix _ _, ?_, ?_⟩
  · intro reply hreply
    cases hfail : f.failure with
    | none =>
      have hall : f.answers.length = (edges (plan p flags)).length := by
        rw [← hf] at hfail ⊢
        exact Feed.length_answers hfail
      exact List.take_of_length_le (by omega)
    | some cause =>
      have hrun := execute_of_some (s := new model flags) hsize rfl rfl hf hfail
      rw [answer_execute_of_error hrun] at hreply
      cases hreply
  · intro error herror
    cases hfail : f.failure with
    | none =>
      have hrun := execute_of_none (s := new model flags) hsize rfl rfl hf hfail
      rw [answer_execute_of_ok hrun] at herror
      cases herror
    | some cause =>
      have hlt : f.answers.length < (edges (plan p flags)).length := by
        rw [← hf] at hfail ⊢
        exact Feed.length_answers_lt hfail
      have hrun := execute_of_some (s := new model flags) hsize rfl rfl hf hfail
      have htime : 0 + f.answers.length + 1 = f.answers.length + 1 := by omega
      rw [answer_execute_of_error hrun] at herror
      cases herror
      refine ⟨_, _, cause, rfl, ?_⟩
      rw [List.length_take, Nat.min_eq_left hlt]
      exact htime.symm

/-- A model that fails at the first edge of the clock at which a word is to be loaded. -/
theorem offered_execute_faulty :
    (Program.ofWords [0x2a, 0x15]).size ≤ programSpace ∧
      ((new ({ faultAt := some 2 } : Script) {}).after
        (.execute (Program.ofWords [0x2a, 0x15]))).offered <+:
        edges (schedule [0x2a, 0x15] 256 16) :=
  ⟨by decide,
    (offered_execute ({ faultAt := some 2 } : Script) {} (Program.ofWords [0x2a, 0x15])
      (by decide)).1⟩

end Session

end ByteBench
