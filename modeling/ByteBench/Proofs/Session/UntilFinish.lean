import ByteBench.Proofs.Session.Opened

/-!
# Running until the model has finished

There are three reasons to stop: the model has finished, the limit is reached, or an evaluation
fails. A session stops as soon as there is one of them, and where there are several this is also
the order in which they count. Main statements: `finishWithin_stopped`, the loop as it is entered
after any number of evaluations, and `stopsAt`, the session with any model.
-/

namespace ByteBench.Session

variable {M : Type} [Processor M]

/-- A model after evaluations with all pins low. -/
def idled (model : M) : Nat → M
  | 0 => model
  | n + 1 => (Processor.eval {} (idled model n)).2

def idleAnswer (model : M) (n : Nat) : Except ModelError Outputs :=
  (Processor.eval {} (idled model n)).1

/-- The samples of `n` evaluations with all pins low, where none of them fails. -/
def idleSamples (model : M) (n : Nat) : List Sample :=
  (List.range n).map fun i => ⟨i, {}, (idleAnswer model i).toOption.getD {}⟩

/-- Whether there is a reason to stop after `k` evaluations. -/
def Stops (model : M) (limit k : Nat) : Prop :=
  Processor.finished (idled model k) = true ∨ k = limit ∨
    ∃ cause, idleAnswer model k = .error cause

variable {model m : M} {limit k : Nat} {sink : Option SinkId} {s : Session M}
  {outputs : Outputs}

theorem idled_succ (h : Processor.eval {} (idled model k) = (.ok outputs, m)) :
    idled model (k + 1) = m := by
  rw [idled, h]

theorem idleAnswer_eq {answer : Except ModelError Outputs}
    (h : Processor.eval {} (idled model k) = (answer, m)) : idleAnswer model k = answer := by
  rw [idleAnswer, h]

theorem idleSamples_succ (h : idleAnswer model k = .ok outputs) :
    idleSamples model (k + 1) = idleSamples model k ++ [⟨k, {}, outputs⟩] := by
  rw [idleSamples, List.range_succ, List.map_append, List.map_singleton, h]
  rfl

/-- A session that has evaluated its model `k` times and nothing else. -/
structure Idling (model : M) (sink : Option SinkId) (k : Nat) (s : Session M) : Prop where
  isOpen : s.modelOpen = true
  sink_eq : s.sink = sink
  phase_eq : s.phase = .run
  pins_eq : s.pins = {}
  model_eq : s.model = idled model k
  time_eq : s.time = k
  cycles_eq : s.cycles = 0
  offered_eq : s.offered = List.replicate k {}
  posts_eq : s.posts.reverse = sink.elim [] fun id => (idleSamples model k).map (.dump id)

def asked (s : Session M) : Session M := { s with calls := .finished :: s.calls }

theorem finishWithin_of_finished (limit n : Nat) (h : Processor.finished s.model = true) :
    finishWithin limit n s = .ok () s.asked := by
  have hbody : ∀ x : Action M Unit, (askFinished >>= fun b => if b then pure () else x) s =
      .ok () s.asked := by
    intro x
    show (if Processor.finished s.model then pure () else x : Action M Unit) s.asked = _
    rw [h]
    rfl
  cases n <;> exact hbody _

theorem finishWithin_zero (limit : Nat) (h : Processor.finished s.model = false) :
    finishWithin limit 0 s = .error (.noFinish limit) s.asked.abandon := by
  show (if Processor.finished s.model then pure () else
    modify abandon >>= fun _ => throw (.noFinish limit) : Action M Unit) s.asked = _
  rw [h]
  rfl

theorem finishWithin_succ (limit n : Nat) (h : Processor.finished s.model = false) :
    finishWithin limit (n + 1) s = (evaluate >>= fun _ => finishWithin limit n) s.asked := by
  show (if Processor.finished s.model then pure () else
    evaluate >>= fun _ => finishWithin limit n : Action M Unit) s.asked = _
  rw [h]
  rfl

theorem Idling.asked (h : Idling model sink k s) : Idling model sink k s.asked := by
  obtain ⟨hopen, hsink, hphase, hpins, hmodel, htime, hcycles, hoffered, hposts⟩ := h
  refine ⟨hopen, hsink, hphase, hpins, hmodel, htime, hcycles, ?_, hposts⟩
  rw [← hoffered]
  simp [offered, Session.asked, Call.pins?]

theorem Idling.evaluated (h : Idling model sink k s)
    (he : Processor.eval {} (idled model k) = (.ok outputs, m)) :
    Idling model sink (k + 1)
      (evaluated outputs { s with model := m, calls := .eval s.pins :: s.calls }) := by
  obtain ⟨hopen, hsink, hphase, hpins, hmodel, htime, hcycles, hoffered, hposts⟩ := h
  rw [evaluated_eq]
  refine ⟨hopen, hsink, hphase, hpins, (idled_succ he).symm, ?_, hcycles, ?_, ?_⟩
  · rw [htime]
  · rw [List.replicate_succ', ← hoffered]
    simp [offered, Call.pins?, hpins]
  · rw [idleSamples_succ (idleAnswer_eq he)]
    cases sink with
    | none => simpa [hsink] using hposts
    | some id => simpa [hsink, htime, hpins] using hposts

/-- How the loop ends, if it ends after `k` evaluations. -/
inductive Stopped (model : M) (limit : Nat) (sink : Option SinkId) (k : Nat) :
    EStateM.Result SessionError (Session M) Unit → Prop
  | finished {s : Session M} (hfinished : Processor.finished (idled model k) = true)
      (hs : Idling model sink k s) : Stopped model limit sink k (.ok () s)
  | noFinish {s : Session M} (hfinished : Processor.finished (idled model k) = false)
      (hk : k = limit) (hs : Idling model sink k s) :
      Stopped model limit sink k (.error (.noFinish limit) s.abandon)
  | fault {s : Session M} {cause : ModelError}
      (hfinished : Processor.finished (idled model k) = false) (hk : k ≠ limit)
      (he : idleAnswer model k = .error cause) (hs : Idling model sink k s) :
      Stopped model limit sink k (.error (.fatal s.phase s.time cause)
        (abandon { s with model := idled model (k + 1), calls := .eval s.pins :: s.calls }))

theorem Stopped.stops {result : EStateM.Result SessionError (Session M) Unit}
    (h : Stopped model limit sink k result) : Stops model limit k := by
  cases h with
  | finished hfinished => exact Or.inl hfinished
  | noFinish _ hk => exact Or.inr (Or.inl hk)
  | fault _ _ he => exact Or.inr (Or.inr ⟨_, he⟩)

theorem Idling.stopped_of_finished (h : Idling model sink k s) (n : Nat)
    (hfinished : Processor.finished s.model = true) :
    Stopped model limit sink k (finishWithin limit n s) := by
  rw [finishWithin_of_finished limit n hfinished]
  rw [h.model_eq] at hfinished
  exact .finished hfinished h.asked

/-- The loop goes on only where nothing stops it, and so it ends with the first reason to stop. -/
theorem finishWithin_stopped {n : Nat} (h : Idling model sink k s) (hlimit : k + n = limit) :
    ∃ k', k ≤ k' ∧ k' ≤ limit ∧ (∀ j, k ≤ j → j < k' → ¬ Stops model limit j) ∧
      Stopped model limit sink k' (finishWithin limit n s) := by
  have hhere : ∀ k j, k ≤ j → j < k → ¬ Stops model limit j :=
    fun k j hj hlt => absurd hlt (Nat.not_lt.mpr hj)
  induction n generalizing k s with
  | zero =>
    refine ⟨k, Nat.le_refl k, by omega, hhere k, ?_⟩
    cases hfinished : Processor.finished s.model with
    | true => exact h.stopped_of_finished 0 hfinished
    | false =>
      rw [finishWithin_zero limit hfinished]
      rw [h.model_eq] at hfinished
      exact .noFinish hfinished hlimit h.asked
  | succ n ih =>
    have hne : k ≠ limit := by omega
    have hasked := h.asked
    cases hfinished : Processor.finished s.model with
    | true => exact ⟨k, Nat.le_refl k, by omega, hhere k, h.stopped_of_finished (n + 1) hfinished⟩
    | false =>
      rw [finishWithin_succ limit n hfinished]
      rw [h.model_eq] at hfinished
      cases he : Processor.eval {} (idled model k) with
      | mk answer m =>
        have hs : Processor.eval s.asked.pins s.asked.model = (answer, m) := by
          rw [hasked.pins_eq, hasked.model_eq, he]
        cases answer with
        | error cause =>
          have hnext : idled model (k + 1) = m := by rw [idled, he]
          refine ⟨k, Nat.le_refl k, by omega, hhere k, ?_⟩
          rw [bind_of_error (evaluate_of_error hs), ← hnext]
          exact .fault hfinished hne (idleAnswer_eq he) hasked
        | ok outputs =>
          obtain ⟨k', hle, hlimit', hbefore, hstopped⟩ := ih (hasked.evaluated he) (by omega)
          rw [bind_of_ok (evaluate_of_ok hs)]
          refine ⟨k', by omega, hlimit', ?_, hstopped⟩
          intro j hj hlt hstops
          rcases Nat.eq_or_lt_of_le hj with rfl | hj'
          · rcases hstops with hfin | hk | ⟨cause, hcause⟩
            · rw [hfin] at hfinished
              cases hfinished
            · exact hne hk
            · rw [idleAnswer_eq he] at hcause
              cases hcause
          · exact hbefore j hj' hlt hstops

theorem finishing_of_idle (h : s.phase = .idle) : finishing s =
    (finishWithin s.flags.finishLimit.toNat s.flags.finishLimit.toNat >>= fun _ => pure s.time)
      (place .run s.pins s.cycles s) := by
  rw [finishing, bind_of_ok (expectPhase_of_eq h)]
  rfl

theorem answer_of_finishWithin_ok {t : Session M} (hphase : s.phase = .idle)
    (h : finishWithin s.flags.finishLimit.toNat s.flags.finishLimit.toNat
      (place .run s.pins s.cycles s) = .ok () t) :
    s.answer .runUntilFinish =
      (.ok (.evaluations (t.time - s.time)), { t with phase := .done }.release) := by
  have hfinishing : finishing s = .ok s.time t := by
    rw [finishing_of_idle hphase, bind_of_ok h]
    rfl
  have hperform : perform .runUntilFinish s =
      .ok (.evaluations (({ t with phase := .done } : Session M).release.time - s.time))
        { t with phase := .done }.release := by
    rw [perform_runUntilFinish, bind_of_ok hfinishing]
    rfl
  rw [answer_of_ok hperform, release_time]

theorem answer_of_finishWithin_error {e : SessionError} {t : Session M} (hphase : s.phase = .idle)
    (h : finishWithin s.flags.finishLimit.toNat s.flags.finishLimit.toNat
      (place .run s.pins s.cycles s) = .error e t) :
    s.answer .runUntilFinish = (.error e, t) := by
  have hfinishing : finishing s = .error e t := by
    rw [finishing_of_idle hphase, bind_of_error h]
  have hperform : perform .runUntilFinish s = .error e t := by
    rw [perform_runUntilFinish, bind_of_error hfinishing]
  rw [answer_of_error hperform]

theorem Idling.release (h : Idling model sink k s) (phase : Phase) (m : M) (calls : List Call) :
    ({ s with phase, model := m, calls } : Session M).release =
      { s with
        phase, model := Processor.close m, modelOpen := false, sink := none
        calls := .close :: calls
        posts := (closing sink (idleSamples model k)).reverse } := by
  have hposts : (sink.map Post.close).toList ++ s.posts =
      (closing sink (idleSamples model k)).reverse := by
    rw [← List.reverse_reverse s.posts, h.posts_eq]
    cases sink with
    | none => rfl
    | some id => simp [closing]
  have hopen : ({ s with phase, model := m, calls } : Session M).modelOpen = true := h.isOpen
  rw [release_of_isOpen hopen, ← hposts, ← h.sink_eq]

/-- A session that is over, after `k` evaluations with all pins low. -/
structure Settled (model : M) (sink : Option SinkId) (k : Nat) (s : Session M) : Prop where
  time_eq : s.time = k
  cycles_eq : s.cycles = 0
  pins_eq : s.pins = {}
  posts_eq : s.posts.reverse = closing sink (idleSamples model k)
  length_samples : (idleSamples model k).length = k
  closed : HasClosed model s

theorem Idling.settled {flags : SessionFlags} {phase : Phase} {m : M} {calls : List Call}
    (h : Idling model sink k s) (hphase : phase.isOver = true)
    (hafter : (opened model flags sink).after .runUntilFinish =
      ({ s with phase, model := m, calls } : Session M).release) :
    Settled model sink k ((opened model flags sink).after .runUntilFinish) := by
  have hclosed : HasClosed model ((opened model flags sink).afterAll [.runUntilFinish]) := by
    apply hasClosed_of_isOver
    show ((opened model flags sink).after .runUntilFinish).phase.isOver = true
    rw [hafter, release_phase]
    exact hphase
  have hrelease := h.release phase m calls
  refine ⟨?_, ?_, ?_, ?_, ?_, hclosed⟩
  · rw [hafter, hrelease]
    exact h.time_eq
  · rw [hafter, hrelease]
    exact h.cycles_eq
  · rw [hafter, hrelease]
    exact h.pins_eq
  · rw [hafter, hrelease]
    exact List.reverse_reverse _
  · rw [idleSamples, List.length_map, List.length_range]

/-- The session that ran its model until there was a reason to stop, after `k` evaluations. -/
structure StopsAt (model : M) (limit : Nat) (sink : Option SinkId) (k : Nat)
    (answer : Except SessionError Reply) (s : Session M) : Prop where
  stops : Stops model limit k
  not_stops : ∀ j, j < k → ¬ Stops model limit j
  le_limit : k ≤ limit
  of_finished : Processor.finished (idled model k) = true →
    answer = .ok (.evaluations k) ∧ s.phase = .done ∧ s.offered = List.replicate k {} ∧
      s.model = Processor.close (idled model k)
  of_limit : Processor.finished (idled model k) = false → k = limit →
    answer = .error (.noFinish limit) ∧ s.phase = .failed ∧ s.offered = List.replicate k {} ∧
      s.model = Processor.close (idled model k)
  /-- The evaluation that failed is one more than those that succeeded. -/
  of_fault : ∀ cause, Processor.finished (idled model k) = false → k ≠ limit →
    idleAnswer model k = .error cause →
      answer = .error (.fatal .run k cause) ∧ s.phase = .failed ∧
        s.offered = List.replicate (k + 1) {} ∧ s.model = Processor.close (idled model (k + 1))
  settled : Settled model sink k s

theorem stopsAt (model : M) (flags : SessionFlags) (sink : Option SinkId) :
    ∃ k, StopsAt model flags.finishLimit.toNat sink k
      ((opened model flags sink).answer .runUntilFinish).1
      ((opened model flags sink).after .runUntilFinish) := by
  have hstart : Idling model sink 0 { model, flags, sink, phase := .run } := by
    refine ⟨rfl, rfl, rfl, rfl, rfl, rfl, rfl, rfl, ?_⟩
    cases sink <;> rfl
  obtain ⟨k, -, hle, hbefore, hstopped⟩ := finishWithin_stopped hstart (Nat.zero_add _)
  have hfirst : ∀ j, j < k → ¬ Stops model flags.finishLimit.toNat j :=
    fun j => hbefore j (Nat.zero_le j)
  have hstops := hstopped.stops
  generalize hloop : finishWithin flags.finishLimit.toNat flags.finishLimit.toNat
    { model, flags, sink, phase := .run } = result at hstopped
  have hidle : ({ model, flags, sink } : Session M).phase = .idle := rfl
  refine ⟨k, ?_⟩
  cases hstopped with
  | @finished s hfinished hs =>
    have hanswer : (opened model flags sink).answer .runUntilFinish =
        (.ok (.evaluations s.time), { s with phase := .done }.release) := by
      rw [opened_eq]
      exact answer_of_finishWithin_ok hidle hloop
    have hafter : (opened model flags sink).after .runUntilFinish = _ := congrArg Prod.snd hanswer
    refine ⟨hstops, hfirst, hle, ?_, ?_, ?_, hs.settled rfl hafter⟩
    · intro _
      refine ⟨?_, ?_, ?_, ?_⟩
      · rw [hanswer, hs.time_eq]
      · rw [hafter, release_phase]
      · rw [hafter, offered_release]
        exact hs.offered_eq
      · rw [hafter, hs.release, hs.model_eq]
    · intro hnot
      rw [hfinished] at hnot
      cases hnot
    · intro cause hnot
      rw [hfinished] at hnot
      cases hnot
  | @noFinish s hfinished hk hs =>
    have hanswer := answer_of_finishWithin_error hidle hloop
    rw [← opened_eq] at hanswer
    have hafter : (opened model flags sink).after .runUntilFinish = _ := congrArg Prod.snd hanswer
    refine ⟨hstops, hfirst, hle, ?_, ?_, ?_, hs.settled rfl hafter⟩
    · intro hyes
      rw [hfinished] at hyes
      cases hyes
    · intro _ _
      refine ⟨?_, ?_, ?_, ?_⟩
      · rw [hanswer]
      · rw [hafter, abandon, release_phase]
      · rw [hafter, abandon, offered_release]
        exact hs.offered_eq
      · rw [hafter, abandon, hs.release, hs.model_eq]
    · intro cause _ hne
      exact absurd hk hne
  | @fault s cause hfinished hk he hs =>
    have hanswer := answer_of_finishWithin_error hidle hloop
    rw [← opened_eq] at hanswer
    have hafter : (opened model flags sink).after .runUntilFinish = _ := congrArg Prod.snd hanswer
    refine ⟨hstops, hfirst, hle, ?_, ?_, ?_, hs.settled rfl hafter⟩
    · intro hyes
      rw [hfinished] at hyes
      cases hyes
    · intro _ heq
      exact absurd heq hk
    · intro cause' _ _ he'
      rw [he] at he'
      cases he'
      refine ⟨?_, ?_, ?_, ?_⟩
      · rw [hanswer, hs.phase_eq, hs.time_eq]
      · rw [hafter, abandon, release_phase]
      · rw [hafter, abandon, offered_release, List.replicate_succ', ← hs.offered_eq, hs.pins_eq]
        simp [offered, Call.pins?]
      · rw [hafter, abandon, hs.release]

end ByteBench.Session
