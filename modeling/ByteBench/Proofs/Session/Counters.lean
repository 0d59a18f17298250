import ByteBench.Proofs.Session.ClockPeriods
import ByteBench.Proofs.Session.UntilFinish
import Mathlib.Algebra.Group.Nat.Defs

/-!
# How far the counters of a session can go

A session counts its evaluations and its clock periods. No phase begins twice, so that the sizes of
programs and settings bound both counters. Main statements: `steps_afterAll`, a session goes on in
steps none of which counts by more than one; `time_after_le`, what a stage adds to the time; and
`bounded_afterAll`, both counters fit into 64 bits at every step of any session.
-/

namespace ByteBench

/-- What a stage adds to the time at most. -/
def Stage.allowance (flags : SessionFlags) : Stage → Nat
  | reset => 2
  | load => 2 * Session.programSpace
  | run => 2 * flags.runCycles.toNat
  | readback => 2 * flags.readbackCycles.toNat
  | untilFinish => flags.finishLimit.toNat

/-- The time up to which a session can have come in a phase, if it goes through its phases. -/
def Phase.horizon : Phase → Nat
  | idle => 0
  | reset => 2 * 1
  | load => 2 * (1 + 65536)
  | run => 2 * (1 + 65536 + (2 ^ 32 - 1))
  | readback | done | failed => 2 * (1 + 65536 + (2 ^ 32 - 1) + (2 ^ 16 - 1))

theorem Phase.horizon_le (phase : Phase) :
    phase.horizon ≤ 2 * (1 + 65536 + (2 ^ 32 - 1) + (2 ^ 16 - 1)) := by
  cases phase <;> simp [horizon]

theorem Stage.horizon_required_add {stage : Stage} (flags : SessionFlags)
    (h : stage ≠ .untilFinish) :
    stage.required.horizon + stage.allowance flags ≤ stage.phase.horizon := by
  have hrun : flags.runCycles.toNat < 2 ^ 32 := flags.runCycles.toNat_lt
  have hreadback : flags.readbackCycles.toNat < 2 ^ 16 := flags.readbackCycles.toNat_lt
  cases stage with
  | untilFinish => exact absurd rfl h
  | _ => simp only [required, phase, allowance, Phase.horizon, Session.programSpace]; omega

namespace Session

variable {M α β : Type} [Processor M] {s t u : Session M} {r : Request} {m n : Nat}

/-! ### Steps -/

/-- All that a session does, one thing at a time. -/
inductive Step : Session M → Session M → Prop
  | setPins (s : Session M) (f : Pins → Pins) : Step s { s with pins := f s.pins }
  | enter (s : Session M) (phase : Phase) : Step s { s with phase }
  | setFlags (s : Session M) (flags : SessionFlags) : Step s { s with flags }
  | attach (s : Session M) (id : SinkId) : Step s (s.attach id)
  | ask (s : Session M) : Step s { s with calls := .finished :: s.calls }
  | evaluate {s : Session M} {outputs : Outputs} {model : M}
      (h : Processor.eval s.pins s.model = (.ok outputs, model)) :
      Step s (evaluated outputs { s with model, calls := .eval s.pins :: s.calls })
  | fail {s : Session M} {cause : ModelError} {model : M}
      (h : Processor.eval s.pins s.model = (.error cause, model)) :
      Step s (abandon { s with model, calls := .eval s.pins :: s.calls })
  | count (s : Session M) : Step s { s with cycles := s.cycles + 1 }
  | release (s : Session M) : Step s s.release

abbrev Steps : Session M → Session M → Prop := Relation.ReflTransGen Step

/-- A step advances one counter by one, or none. -/
theorem Step.counts (h : Step s t) :
    t.time = s.time ∧ t.cycles = s.cycles ∨
      t.time = s.time + 1 ∧ t.cycles = s.cycles ∨
      t.time = s.time ∧ t.cycles = s.cycles + 1 := by
  cases h with
  | setPins | enter | setFlags | ask | count | release => simp
  | attach => simp [attach_eq]
  | evaluate => simp [evaluated_eq]
  | fail => simp [abandon]

theorem Steps.le (h : Steps s t) : s.time ≤ t.time ∧ s.cycles ≤ t.cycles := by
  induction h with
  | refl => exact ⟨Nat.le_refl _, Nat.le_refl _⟩
  | tail _ hstep ih =>
    have hcounts := hstep.counts
    omega

/-- An action that consists of steps. -/
def Walks (x : Action M α) : Prop := ∀ s : Session M, Steps s (stateOf (x s))

theorem Walks.bind {x : Action M α} {g : α → Action M β} (hx : Walks x) (hg : ∀ a, Walks (g a)) :
    Walks (x >>= g) := by
  intro s
  apply stateOf_bind (hx s)
  intro a
  exact (hx s).trans (hg a _)

theorem inherited_walks : Inherited fun _ (x : Action M _) => Walks x where
  pure _ _ := .refl
  bind := Walks.bind
  throw _ _ := .refl
  look hg s := hg s.phase s.flags s.outputs s.time s
  enter phase s := .single (.enter s phase)
  setFlags flags s := .single (.setFlags s flags)
  setPins {f} _ s := .single (.setPins s f)
  complete s := .tail (.single (.enter s .done)) (.release _)

theorem step_evaluate (s : Session M) : Step s (stateOf (evaluate s)) := by
  cases h : Processor.eval s.pins s.model with
  | mk answer model =>
    cases answer with
    | ok outputs =>
      rw [evaluate_of_ok h]
      exact .evaluate h
    | error cause =>
      rw [evaluate_of_error h]
      exact .fail h

theorem walks_evaluate : Walks (evaluate : Action M Unit) := fun s => .single (step_evaluate s)

theorem walks_tick : Walks (tick : Action M Unit) := by
  have hlevel : ∀ clock, Walks (setPins (Pins.level clock) : Action M Unit) :=
    fun clock s => .single (.setPins s (Pins.level clock))
  rw [tick_def]
  apply (hlevel true).bind
  intro _
  apply walks_evaluate.bind
  intro _
  apply (hlevel false).bind
  intro _
  apply walks_evaluate.bind
  intro _ s
  exact .single (.count s)

theorem walks_perform (r : Request) : Walks (perform r : Action M Reply) := by
  have hasked : Walks (askFinished : Action M Bool) := fun s => .single (.ask s)
  have habandon : Walks (modify abandon : Action M Unit) :=
    fun s => .tail (.single (.enter s .failed)) (.release _)
  by_cases hfinish : r = .runUntilFinish
  · subst hfinish
    exact inherited_walks.runUntilFinish walks_evaluate hasked habandon
  · by_cases hattach : ∃ id, r = .attach id
    · obtain ⟨id, rfl⟩ := hattach
      exact fun s => .single (.attach s id)
    · exact inherited_walks.perform walks_tick hfinish fun id hid => hattach ⟨id, hid⟩

theorem steps_after (s : Session M) (r : Request) : Steps s (s.after r) := by
  rw [after_eq_stateOf]
  exact walks_perform r s

theorem steps_afterAll (s : Session M) (rs : List Request) : Steps s (s.afterAll rs) := by
  apply afterAll_induction (P := Steps s) .refl
  intro r _ t ht
  exact ht.trans (steps_after t r)

/-- `t` is reached from `s` in steps, and `P` holds of every state that steps can pass between the
two, both of them included. -/
def Throughout (P : Session M → Prop) (s t : Session M) : Prop :=
  Steps s t ∧ ∀ u, Steps s u → Steps u t → P u

theorem Steps.throughout {P : Session M → Prop} (h : Steps s t)
    (hP : ∀ u, s.time ≤ u.time → u.time ≤ t.time → u.cycles ≤ t.cycles → P u) :
    Throughout P s t := by
  refine ⟨h, ?_⟩
  intro u hsu hut
  exact hP u hsu.le.1 hut.le.1 hut.le.2

/-! ### What a stage adds to the time -/

/-- An action that adds at most `n` to the time. -/
def Spends (n : Nat) (x : Action M α) : Prop :=
  ∀ s : Session M, (stateOf (x s)).time ≤ s.time + n

omit [Processor M] in
theorem time_bind_le {x : Action M α} {g : α → Action M β} (hx : (stateOf (x s)).time ≤ m)
    (hg : ∀ a, Spends n (g a)) : (stateOf ((x >>= g) s)).time ≤ m + n := by
  apply stateOf_bind (P := (·.time ≤ m + n))
  · omega
  · intro a
    have hrest := hg a (stateOf (x s))
    omega

omit [Processor M] in
theorem Spends.bind {x : Action M α} {g : α → Action M β} (hx : Spends m x)
    (hg : ∀ a, Spends n (g a)) : Spends (m + n) (x >>= g) := by
  intro s
  have h := time_bind_le (hx s) hg
  omega

omit [Processor M] in
theorem spends_pure (a : α) : Spends 0 (pure a : Action M α) := fun _ => Nat.le_refl _

omit [Processor M] in
theorem spends_setPins (f : Pins → Pins) : Spends 0 (setPins f : Action M Unit) :=
  fun _ => Nat.le_refl _

theorem spends_evaluate : Spends 1 (evaluate : Action M Unit) := by
  intro s
  have hcounts := (step_evaluate s).counts
  omega

theorem spends_tick : Spends 2 (tick : Action M Unit) := by
  have hcount : Spends 0
      (modify fun s => place s.phase s.pins (s.cycles + 1) s : Action M Unit) :=
    fun _ => Nat.le_refl _
  have hsecond := spends_evaluate.bind fun _ => hcount
  have hlower := (spends_setPins (Pins.level false)).bind fun _ => hsecond
  have hfirst := spends_evaluate.bind fun _ => hlower
  exact (spends_setPins (Pins.level true)).bind fun _ => hfirst

theorem spends_ticks (n : Nat) : Spends (2 * n) (ticks n : Action M Unit) := by
  induction n with
  | zero => exact spends_pure ()
  | succ n ih =>
    rw [Nat.mul_succ, Nat.add_comm]
    exact spends_tick.bind fun _ => ih

theorem spends_loadFrom (address : UInt16) (words : List UInt8) :
    Spends (2 * words.length) (loadFrom address words : Action M Unit) := by
  induction words generalizing address with
  | nil => exact spends_pure ()
  | cons word words ih =>
    intro s
    have h := spends_tick.bind (fun _ => ih (address + 1))
      { s with pins := { s.pins with
        programAddress := address, programData := word, writeEnable := true } }
    rw [List.length_cons, Nat.mul_succ, Nat.add_comm _ 2]
    exact h

theorem spends_readFrom (cycle : UInt16) (seen : List TraceEntry) (n : Nat) :
    Spends (2 * n) (readFrom cycle seen n : Action M (List TraceEntry)) := by
  induction n generalizing cycle seen with
  | zero => exact spends_pure _
  | succ n ih =>
    rw [readFrom_succ, Nat.mul_succ, Nat.add_comm]
    apply spends_tick.bind
    intro _ t
    exact ih _ _ (place t.phase { t.pins with dataAddress := cycle } t.cycles t)

theorem spends_finishWithin (limit n : Nat) :
    Spends n (finishWithin limit n : Action M Unit) := by
  induction n with
  | zero =>
    intro s
    cases h : Processor.finished s.model with
    | true => simp [finishWithin_of_finished limit 0 h, stateOf, asked]
    | false => simp [finishWithin_zero limit h, stateOf, asked, abandon]
  | succ n ih =>
    intro s
    cases h : Processor.finished s.model with
    | true => simp [finishWithin_of_finished limit (n + 1) h, stateOf, asked]
    | false =>
      have hrest := spends_evaluate.bind (fun _ => ih) s.asked
      rw [finishWithin_succ limit n h, Nat.add_comm n 1]
      exact hrest

theorem spends_complete : Spends 0 (complete : Action M Unit) :=
  fun s => Nat.le_of_eq (release_time { s with phase := .done })

theorem time_reset_le (h : s.phase = .idle) : (stateOf (reset s)).time ≤ s.time + 2 := by
  have hreset : reset s = (tick >>= fun _ =>
      setPins ({ · with reset := false, programReset := false })) (place .reset { s.pins with
        reset := true, serviceMode := true, programReset := true, writeEnable := false }
        s.cycles s) := by
    rw [reset, bind_of_ok (expectPhase_of_eq h)]
    rfl
  rw [hreset]
  exact (spends_tick.bind fun _ => spends_setPins _) _

theorem time_load_le {p : Program} (h : s.phase = .reset) (hp : p.size ≤ programSpace) :
    (stateOf (load p s)).time ≤ s.time + 2 * programSpace := by
  have hfits : ¬ programSpace < p.size := Nat.not_lt.mpr hp
  have hload : load p s = (loadFrom 0 p.words >>= fun _ =>
      setPins ({ · with writeEnable := false })) (place .load s.pins s.cycles s) := by
    rw [load, bind_of_ok (expectPhase_of_eq h), if_neg hfits]
    rfl
  have hwords : (stateOf (load p s)).time ≤ s.time + 2 * p.words.length := by
    rw [hload]
    exact ((spends_loadFrom 0 p.words).bind fun _ => spends_setPins _) _
  rw [Program.length_words] at hwords
  omega

theorem time_run_le (h : s.phase = .load) :
    (stateOf (run s)).time ≤ s.time + 2 * s.flags.runCycles.toNat := by
  have hrun : run s = ticks s.flags.runCycles.toNat
      (place .run { s.pins with serviceMode := false } s.cycles s) := by
    rw [run, bind_of_ok (expectPhase_of_eq h)]
    rfl
  rw [hrun]
  exact spends_ticks _ _

theorem time_readout_le (h : s.phase = .run) :
    (stateOf (readout s)).time ≤ s.time + 2 * s.flags.readbackCycles.toNat := by
  have hreadout : readout s = readFrom 0 [] s.flags.readbackCycles.toNat
      (place .readback { s.pins with serviceMode := true } s.cycles s) := by
    rw [readout, bind_of_ok (expectPhase_of_eq h)]
    rfl
  rw [hreadout]
  exact spends_readFrom 0 [] _ _

theorem time_finishing_le (h : s.phase = .idle) :
    (stateOf (finishing s)).time ≤ s.time + s.flags.finishLimit.toNat := by
  rw [finishing_of_idle h]
  exact ((spends_finishWithin _ _).bind fun _ => spends_pure _) _

/-- A stage is as long as the settings say at its beginning, or shorter. -/
theorem time_after_le {stage : Stage} (h : r.Admitted stage s) :
    (s.after r).time ≤ s.time + stage.allowance s.flags := by
  obtain ⟨hstage, hphase, hfits⟩ := h
  rw [after_eq_stateOf]
  cases r with
  | reset =>
    cases hstage
    exact time_bind_le (n := 0) (time_reset_le hphase) fun _ => spends_pure _
  | load p =>
    cases hstage
    exact time_bind_le (n := 0) (time_load_le hphase (hfits p rfl)) fun _ => spends_pure _
  | run =>
    cases hstage
    exact time_bind_le (n := 0) (time_run_le hphase) fun _ => spends_pure _
  | readback =>
    cases hstage
    rw [perform_readback]
    apply time_bind_le (n := 0) (time_readout_le hphase)
    intro _
    exact spends_complete.bind (n := 0) fun _ => spends_pure _
  | runUntilFinish =>
    cases hstage
    rw [perform_runUntilFinish]
    apply time_bind_le (n := 0) (time_finishing_le hphase)
    intro _
    exact spends_complete.bind (n := 0) fun _ _ => Nat.le_refl _
  | execute | setFlags | attach => cases hstage

/-! ### Sessions -/

theorem horizon_after (hr : r.parts = [r]) (hbegun : s.begun? r ≠ some .untilFinish)
    (h : s.time ≤ s.phase.horizon) : (s.after r).time ≤ (s.after r).phase.horizon := by
  have htransition := transition s hr
  have hstage : ∀ {stage}, r.Admitted stage s → (s.after r).time ≤ stage.phase.horizon := by
    intro stage hadmitted
    have hne : stage ≠ .untilFinish := by
      rintro rfl
      exact hbegun ((begun?_eq_some_iff hr).mpr hadmitted)
    have htime := time_after_le hadmitted
    have hsum := Stage.horizon_required_add s.flags hne
    rw [hadmitted.phase_eq] at h
    omega
  generalize (s.answer r).1 = a, s.after r = t at htransition hstage ⊢
  cases htransition with
  | refused | tooLarge | setFlags => exact h
  | attach =>
    rw [attach_eq]
    exact h
  | advanced _ hadmitted _ hmoves =>
    rw [hmoves.phase_eq]
    exact hstage hadmitted
  | completed _ hadmitted =>
    rw [release_phase]
    exact Nat.le_trans (hstage hadmitted) (Phase.horizon_le _)
  | failed hadmitted _ hfails =>
    rw [hfails.phase_eq]
    exact Nat.le_trans (hstage hadmitted) (Phase.horizon_le _)

/-- What a run until the model has finished answers is the time that it took. -/
theorem time_add_evaluations (h : (s.answer .runUntilFinish).1 = .ok (.evaluations n)) :
    s.time + n = (s.after .runUntilFinish).time := by
  have hle := (steps_after s .runUntilFinish).le.1
  rw [after] at hle ⊢
  by_cases hphase : s.phase = .idle
  · cases hloop : finishWithin s.flags.finishLimit.toNat s.flags.finishLimit.toNat
        (place .run s.pins s.cycles s) with
    | ok _ t =>
      rw [answer_of_finishWithin_ok hphase hloop] at h hle ⊢
      cases h
      simp only [release_time] at hle ⊢
      omega
    | error e t =>
      rw [answer_of_finishWithin_error hphase hloop] at h
      cases h
  · have hrefused : Request.runUntilFinish.stage? = some .untilFinish := rfl
    rw [answer_of_refused hrefused hphase] at h
    cases h

variable (model : M) (flags : SessionFlags) (rs : List Request)

theorem time_le_horizon (h : .untilFinish ∉ (new model flags).stages rs) :
    ((new model flags).afterAll rs).time ≤ ((new model flags).afterAll rs).phase.horizon := by
  refine stages_induction (P := fun stages t =>
    .untilFinish ∉ stages → t.time ≤ t.phase.horizon) (fun _ => Nat.le_refl 0) ?_ h
  intro stages s r hr ih hstages
  rw [List.mem_append, Option.mem_toList, not_or] at hstages
  exact horizon_after hr hstages.2 (ih hstages.1)

theorem time_eq_zero_of_idle (h : ((new model flags).afterAll rs).phase = .idle) :
    ((new model flags).afterAll rs).time = 0 := by
  have hreached := reached_stages model flags rs
  have htime := time_le_horizon model flags rs
  rw [h] at hreached htime
  generalize (new model flags).stages rs = stages at hreached htime
  cases hreached
  exact Nat.le_zero.mp (htime List.not_mem_nil)

theorem time_le_finishLimit {before : List Request} (later : List Request)
    (h : ((new model flags).afterAll before).phase = .idle) :
    ((new model flags).afterAll (before ++ .runUntilFinish :: later)).time ≤
      ((new model flags).afterAll before).flags.finishLimit.toNat := by
  have hzero := time_eq_zero_of_idle model flags before h
  rw [afterAll_append]
  generalize (new model flags).afterAll before = s at h hzero ⊢
  have hadmitted : Request.runUntilFinish.Admitted .untilFinish s := ⟨rfl, h, nofun⟩
  have htime := time_after_le hadmitted
  have hover := (transition s rfl).isOver_of_completes hadmitted rfl
  rw [hzero, Nat.zero_add] at htime
  -- a session that is over keeps its time
  refine (afterAll_of_transition (P := fun t =>
    t.phase.isOver = true ∧ t.time ≤ s.flags.finishLimit.toNat) later ⟨hover, htime⟩ ?_).2
  intro t r a u htu ht
  rcases htu.of_isOver ht.1 with rfl | ⟨flags, rfl⟩ | ⟨id, rfl⟩
  · exact ht
  · exact ht
  · rw [attach_eq]
    exact ht

theorem cycles_le_time :
    ((new model flags).afterAll rs).cycles ≤ ((new model flags).afterAll rs).time := by
  cases clocked_afterAll model flags rs with
  | phases h =>
    have htime := h.time_cases
    omega
  | free _ hcycles => omega

theorem time_lt : ((new model flags).afterAll rs).time < 2 ^ 64 := by
  by_cases h : .untilFinish ∈ (new model flags).stages rs
  · obtain ⟨before, later, rfl, hphase⟩ := idle_of_mem_stages h
    have htime := time_le_finishLimit model flags later hphase
    have hlimit := ((new model flags).afterAll before).flags.finishLimit.toNat_lt
    omega
  · have htime := time_le_horizon model flags rs h
    have hhorizon := Phase.horizon_le ((new model flags).afterAll rs).phase
    omega

/-- How far the counters go in a session that was made with a model and some settings, and that was
asked for `rs`. -/
structure Bounded (model : M) (flags : SessionFlags) (rs : List Request) : Prop where
  fits : Throughout (fun u => u.time < 2 ^ 64 ∧ u.cycles < 2 ^ 64)
    (new model flags) ((new model flags).afterAll rs)
  of_phases : .untilFinish ∉ (new model flags).stages rs →
    Throughout (fun u => u.time ≤ 2 * (1 + 65536 + (2 ^ 32 - 1) + (2 ^ 16 - 1)))
      (new model flags) ((new model flags).afterAll rs)
  /-- Every other session has begun a run until the model has finished. -/
  of_untilFinish : .untilFinish ∈ (new model flags).stages rs →
    ∃ before later, rs = before ++ .runUntilFinish :: later ∧
      ((new model flags).afterAll before).phase = .idle
  /-- Settings that are changed later do not count. -/
  within_limit : ∀ before later, rs = before ++ .runUntilFinish :: later →
    ((new model flags).afterAll before).phase = .idle →
      Throughout (fun u => u.time ≤ ((new model flags).afterAll before).flags.finishLimit.toNat)
        (new model flags) ((new model flags).afterAll rs)
  /-- Such a run never looks back to before it was begun. -/
  elapsed : ∀ before later, rs = before ++ .runUntilFinish :: later →
    Throughout (fun u => ((new model flags).afterAll before).time ≤ u.time)
        ((new model flags).afterAll before)
        ((new model flags).afterAll (before ++ [.runUntilFinish])) ∧
      ∀ n, (((new model flags).afterAll before).answer .runUntilFinish).1 = .ok (.evaluations n) →
        ((new model flags).afterAll before).time + n =
          ((new model flags).afterAll (before ++ [.runUntilFinish])).time

theorem bounded_afterAll : Bounded model flags rs := by
  have hsteps := steps_afterAll (new model flags) rs
  refine ⟨?_, ?_, fun h => idle_of_mem_stages h, ?_, ?_⟩
  · apply hsteps.throughout
    intro u _ htime hcycles
    have hlt := time_lt model flags rs
    have hle := cycles_le_time model flags rs
    omega
  · intro hstages
    apply hsteps.throughout
    intro u _ htime _
    have hle := time_le_horizon model flags rs hstages
    have hhorizon := Phase.horizon_le ((new model flags).afterAll rs).phase
    omega
  · rintro before later rfl hphase
    apply hsteps.throughout
    intro u _ htime _
    have hle := time_le_finishLimit model flags later hphase
    omega
  · rintro before later rfl
    rw [afterAll_append]
    refine ⟨(steps_after _ .runUntilFinish).throughout fun u htime _ _ => htime, ?_⟩
    intro n hn
    exact time_add_evaluations hn

end Session

end ByteBench
