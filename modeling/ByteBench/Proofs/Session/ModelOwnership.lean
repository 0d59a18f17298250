import ByteBench.Proofs.Session.Transition

/-!
# A session owns its model

Main statement: `closes_model_once`, whatever a session was asked for, its model is open as
long as the session is not over, and the last thing that is asked of the model, and only the last
one, is to close.
-/

namespace ByteBench

theorem Phase.isOver_eq_false_iff {phase : Phase} :
    phase.isOver = false ↔ phase ≠ .done ∧ phase ≠ .failed := by
  cases phase <;> simp [isOver]

/-- What a call makes of a model. -/
def Call.effect {M : Type} [Processor M] : Call → M → M
  | eval pins, m => (Processor.eval pins m).2
  | finished, m => m
  | close, m => Processor.close m

namespace Session

variable {M : Type} [Processor M] {model : M} {s t : Session M}

/-- The model is what the calls have made of `model`, and it has not been closed. -/
structure Holds (model : M) (s : Session M) : Prop where
  isOpen : s.modelOpen = true
  model_eq : s.model = s.calls.foldr Call.effect model
  close_not_mem : .close ∉ s.calls

/-- The model is what the calls have made of `model`, and the last of them has closed it. -/
structure HasClosed (model : M) (s : Session M) : Prop where
  isClosed : s.modelOpen = false
  model_eq : s.model = s.calls.foldr Call.effect model
  calls_eq : ∃ earlier, s.calls = .close :: earlier ∧ .close ∉ earlier

theorem Holds.move (h : Holds model s) (hst : Move s t) : Holds model t := by
  obtain ⟨hopen, hmodel, hclose⟩ := h
  cases hst with
  | place => exact ⟨hopen, hmodel, hclose⟩
  | ask => exact ⟨hopen, hmodel, by simpa using hclose⟩
  | @evaluate outputs m he =>
    have hm : m = (Processor.eval s.pins s.model).2 := by rw [he]
    rw [evaluated_eq]
    exact ⟨hopen, by rw [hm, hmodel]; rfl, by simpa using hclose⟩

theorem Holds.moves (h : Holds model s) (hst : Moves s t) : Holds model t :=
  hst.keeps h fun hmove hs => hs.move hmove

theorem release_of_isClosed (h : s.modelOpen = false) : s.release = s.releaseSink := by
  rw [release, releaseModel, if_neg (by rw [h]; exact Bool.false_ne_true)]

theorem Holds.release (h : Holds model s) : HasClosed model s.release := by
  rw [release_of_isOpen h.isOpen]
  refine ⟨rfl, ?_, s.calls, rfl, h.close_not_mem⟩
  rw [List.foldr_cons, ← h.model_eq]
  rfl

theorem HasClosed.release (h : HasClosed model s) : HasClosed model s.release := by
  rw [release_of_isClosed h.isClosed, releaseSink_eq]
  exact ⟨h.isClosed, h.model_eq, h.calls_eq⟩

theorem Holds.fails {e : SessionError} (h : Holds model s) (hst : Fails s e t) :
    HasClosed model t := by
  obtain ⟨hopen, hmodel, hclose⟩ := h
  cases hst with
  | @fatal cause m he =>
    have hm : m = (Processor.eval s.pins s.model).2 := by rw [he]
    apply Holds.release
    exact ⟨hopen, by rw [hm, hmodel]; rfl, by simpa using hclose⟩
  | noFinish =>
    apply Holds.release
    exact ⟨hopen, hmodel, hclose⟩

/-- Between two requests a model is open as long as its session is not over. -/
inductive Owns (model : M) (s : Session M) : Prop
  | holding (hphase : s.phase.isOver = false) (h : Holds model s)
  | ended (hphase : s.phase.isOver = true) (h : HasClosed model s)

theorem Owns.holds {r : Request} {stage : Stage} (h : Owns model s) (hr : r.Admitted stage s) :
    Holds model { s with phase := stage.phase } := by
  cases h with
  | holding _ h => exact ⟨h.isOpen, h.model_eq, h.close_not_mem⟩
  | ended hphase h =>
    rw [hr.isOver_eq_false] at hphase
    cases hphase

theorem Owns.transition {r : Request} {a : Except SessionError Reply} (h : Owns model s)
    (hst : Transition s r a t) : Owns model t := by
  cases hst with
  | refused | tooLarge => exact h
  | @advanced _ stage _ _ hr _ ht =>
    have hphase : t.phase = stage.phase := ht.phase_eq
    exact .holding (by rw [hphase, stage.isOver_phase]) ((h.holds hr).moves ht)
  | @completed _ _ u _ hr _ hu =>
    have hheld := (h.holds hr).moves hu
    have hdone : Holds model { u with phase := .done } :=
      ⟨hheld.isOpen, hheld.model_eq, hheld.close_not_mem⟩
    exact .ended (by rw [release_phase]; rfl) hdone.release
  | failed hr hu ht =>
    exact .ended (by rw [ht.phase_eq]; rfl) (((h.holds hr).moves hu).fails ht)
  | setFlags flags =>
    cases h with
    | holding hphase h => exact .holding hphase ⟨h.isOpen, h.model_eq, h.close_not_mem⟩
    | ended hphase h => exact .ended hphase ⟨h.isClosed, h.model_eq, h.calls_eq⟩
  | attach id =>
    rw [attach_eq]
    cases h with
    | holding hphase h => exact .holding hphase ⟨h.isOpen, h.model_eq, h.close_not_mem⟩
    | ended hphase h => exact .ended hphase ⟨h.isClosed, h.model_eq, h.calls_eq⟩

theorem owns_afterAll (model : M) (flags : SessionFlags) (rs : List Request) :
    Owns model ((new model flags).afterAll rs) := by
  have hnew : Owns model (new model flags) := .holding rfl ⟨rfl, rfl, List.not_mem_nil⟩
  exact afterAll_of_transition rs hnew fun hst h => h.transition hst

/-- After any requests the model is open exactly if the session is neither done nor failed. Once
the session is given up, the calls end with one that closes the model, there is no other one, and
the model is what these calls have made of it. -/
theorem closes_model_once (model : M) (flags : SessionFlags) (rs : List Request) :
    (((new model flags).afterAll rs).modelOpen = true ↔
        ((new model flags).afterAll rs).phase ≠ .done ∧
          ((new model flags).afterAll rs).phase ≠ .failed) ∧
      ∃ earlier, ((new model flags).afterAll rs).release.calls = .close :: earlier ∧
        .close ∉ earlier ∧
        ((new model flags).afterAll rs).release.model =
          (Call.close :: earlier).foldr Call.effect model := by
  generalize hs : (new model flags).afterAll rs = s
  have howns := owns_afterAll model flags rs
  rw [hs] at howns
  rw [← Phase.isOver_eq_false_iff]
  cases howns with
  | holding hphase h =>
    obtain ⟨-, hmodel, earlier, hcalls, hclose⟩ := h.release
    refine ⟨by simp [hphase, h.isOpen], earlier, hcalls, hclose, ?_⟩
    rw [hmodel, hcalls]
  | ended hphase h =>
    obtain ⟨-, hmodel, earlier, hcalls, hclose⟩ := h.release
    refine ⟨by simp [hphase, h.isClosed], earlier, hcalls, hclose, ?_⟩
    rw [hmodel, hcalls]

end Session

end ByteBench
