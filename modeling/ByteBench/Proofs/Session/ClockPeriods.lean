import ByteBench.Proofs.Session.PhaseOrder
import ByteBench.Proofs.Session.Samples
import ByteBench.Proofs.Session.Steps

/-!
# Time and clock periods

Between two actions of a phase all clock periods are complete: two evaluations for each, the first
with the clock high, the second with the clock low. Main statements: `beats_tick`, a clock period
that fails may be a half one, and `clocked_afterAll`, how time and cycles go together in any
session.
-/

namespace ByteBench

/-- The clock is high at even times and low at odd ones. -/
def Alternating (evaluations : List (Pins × Outputs)) : Prop :=
  ∀ t x, evaluations[t]? = some x → x.1.clock = (t % 2 == 0)

theorem Alternating.append {xs : List (Pins × Outputs)} {x : Pins × Outputs} (h : Alternating xs)
    (hx : x.1.clock = (xs.length % 2 == 0)) : Alternating (xs ++ [x]) := by
  intro t y hy
  rcases Nat.lt_trichotomy t xs.length with hlt | rfl | hgt
  · rw [List.getElem?_append_left hlt] at hy
    exact h t y hy
  · rw [List.getElem?_concat_length] at hy
    cases hy
    exact hx
  · rw [List.getElem?_eq_none (by rw [List.length_append, List.length_singleton]; omega)] at hy
    cases hy

namespace Session

variable {M α β : Type} [Processor M] {model : M} {s t : Session M} {r : Request}

/-! ### One evaluation -/

structure Evaluated (model : M) (outputs : Outputs) (s t : Session M) : Prop where
  books : Books model t
  evaluations_eq : t.evaluations model = s.evaluations model ++ [(s.pins, outputs)]
  pins_eq : t.pins = s.pins
  cycles_eq : t.cycles = s.cycles

structure Aborted (model : M) (s t : Session M) : Prop where
  books : Books model t
  evaluations_eq : t.evaluations model = s.evaluations model
  cycles_eq : t.cycles = s.cycles
  phase_eq : t.phase = .failed

/-- An evaluation is counted, or ends the session. -/
theorem evaluate_cases (h : Books model s) :
    (∃ outputs t, evaluate s = .ok () t ∧ Evaluated model outputs s t) ∨
      ∃ e t, evaluate s = .error e t ∧ Aborted model s t := by
  cases he : Processor.eval s.pins s.model with
  | mk answer m =>
    cases answer with
    | ok outputs =>
      left
      refine ⟨outputs, _, evaluate_of_ok he, h.evaluated he, evaluations_evaluated h he, ?_, ?_⟩
      · rw [evaluated_eq]
      · rw [evaluated_eq]
    | error cause =>
      right
      refine ⟨_, _, evaluate_of_error he, (h.failed he).release, ?_,
        release_cycles _, release_phase _⟩
      rw [abandon, evaluations_release, evaluations, evaluations_of_error h he]

/-! ### Clock periods -/

/-- All clock periods are complete. -/
structure Between (model : M) (s : Session M) : Prop where
  books : Books model s
  low : s.pins.clock = false
  time_eq : s.time = 2 * s.cycles
  alternating : Alternating (s.evaluations model)

/-- The session has failed, perhaps in the middle of a clock period. -/
structure Broken (model : M) (s : Session M) : Prop where
  books : Books model s
  phase_eq : s.phase = .failed
  time_cases : s.time = 2 * s.cycles ∨ s.time = 2 * s.cycles + 1
  alternating : Alternating (s.evaluations model)

inductive Paced (model : M) (s : Session M) : Prop
  | between (h : Between model s)
  | broken (h : Broken model s)

inductive Beaten (model : M) : EStateM.Result SessionError (Session M) α → Prop
  | ok {t : Session M} (a : α) (h : Between model t) : Beaten model (.ok a t)
  | error {t : Session M} (e : SessionError) (h : Paced model t) : Beaten model (.error e t)

/-- An action that does whole clock periods, unless it fails. -/
def Beats (model : M) (x : Action M α) : Prop := ∀ s, Between model s → Beaten model (x s)

theorem beats_pure (a : α) : Beats model (pure a : Action M α) := fun _ h => .ok a h

theorem beats_throw (e : SessionError) : Beats model (throw e : Action M α) :=
  fun _ h => .error e (.between h)

theorem beats_modify {f : Session M → Session M} (hf : ∀ s, Between model s → Between model (f s)) :
    Beats model (modify f) := fun s h => .ok () (hf s h)

theorem beats_get {g : Session M → Action M α} (hg : ∀ s, Beats model (g s)) :
    Beats model (get >>= g) := fun s h => hg s s h

theorem Beats.bind {x : Action M α} {g : α → Action M β} (hx : Beats model x)
    (hg : ∀ a, Beats model (g a)) : Beats model (x >>= g) := by
  intro s hs
  have hbeaten := hx s hs
  cases h : x s with
  | ok a t =>
    rw [h] at hbeaten
    rw [bind_of_ok h]
    cases hbeaten with
    | ok _ ht => exact hg a t ht
  | error e t =>
    rw [h] at hbeaten
    rw [bind_of_error h]
    cases hbeaten with
    | error _ ht => exact .error e ht

theorem Between.release (h : Between model s) : Between model s.release := by
  refine ⟨h.books.release, ?_, ?_, ?_⟩
  · rw [release_pins]
    exact h.low
  · rw [release_time, release_cycles]
    exact h.time_eq
  · rw [evaluations_release]
    exact h.alternating

theorem Between.enter (h : Between model s) (phase : Phase) : Between model { s with phase } :=
  ⟨h.books.enter phase, h.low, h.time_eq, h.alternating⟩

theorem beats_setPins {f : Pins → Pins} (hf : ∀ p, (f p).clock = p.clock) :
    Beats model (setPins f : Action M Unit) :=
  beats_modify fun s h =>
    ⟨⟨h.books.model_eq, h.books.time_eq⟩, (hf s.pins).trans h.low, h.time_eq, h.alternating⟩

/-- The first half of a clock period is over. -/
structure Half (model : M) (s : Session M) : Prop where
  books : Books model s
  time_eq : s.time = 2 * s.cycles + 1
  alternating : Alternating (s.evaluations model)

theorem Books.place (h : Books model s) (phase : Phase) (pins : Pins) (cycles : Nat) :
    Books model (place phase pins cycles s) := ⟨h.model_eq, h.time_eq⟩

theorem Evaluated.time_eq {outputs : Outputs} (h : Evaluated model outputs s t)
    (hs : Books model s) : t.time = s.time + 1 := by
  rw [h.books.time_eq, h.evaluations_eq, List.length_append, ← hs.time_eq]
  rfl

theorem Evaluated.alternating {outputs : Outputs} (h : Evaluated model outputs s t)
    (hs : Books model s) (halternating : Alternating (s.evaluations model))
    (hclock : s.pins.clock = (s.time % 2 == 0)) : Alternating (t.evaluations model) := by
  rw [h.evaluations_eq]
  apply halternating.append
  rw [← hs.time_eq]
  exact hclock

theorem Aborted.broken (h : Aborted model s t) (hs : Books model s)
    (halternating : Alternating (s.evaluations model))
    (htime : s.time = 2 * s.cycles ∨ s.time = 2 * s.cycles + 1) : Broken model t := by
  have hsame : t.time = s.time := by rw [h.books.time_eq, h.evaluations_eq, hs.time_eq]
  refine ⟨h.books, h.phase_eq, ?_, ?_⟩
  · rw [hsame, h.cycles_eq]
    exact htime
  · rw [h.evaluations_eq]
    exact halternating

theorem Half.lower {outputs : Outputs} (h : Half model s)
    (hst : Evaluated model outputs (place s.phase (s.pins.level false) s.cycles s) t) :
    Between model (place t.phase t.pins (t.cycles + 1) t) := by
  have hbooks := h.books.place s.phase (s.pins.level false) s.cycles
  have htime : t.time = s.time + 1 := hst.time_eq hbooks
  have hcycles : t.cycles = s.cycles := hst.cycles_eq
  have hodd : (s.pins.level false).clock = (s.time % 2 == 0) := by
    rw [h.time_eq, Nat.mul_add_mod]
    rfl
  refine ⟨hst.books.place _ _ _, ?_, ?_, hst.alternating hbooks h.alternating hodd⟩
  · show t.pins.clock = false
    rw [hst.pins_eq]
    rfl
  · show t.time = 2 * (t.cycles + 1)
    rw [htime, h.time_eq, hcycles]
    omega

theorem Between.raise {outputs : Outputs} (h : Between model s)
    (hst : Evaluated model outputs (place s.phase (s.pins.level true) s.cycles s) t) :
    Half model t := by
  have hbooks := h.books.place s.phase (s.pins.level true) s.cycles
  have htime : t.time = s.time + 1 := hst.time_eq hbooks
  have hcycles : t.cycles = s.cycles := hst.cycles_eq
  have heven : (s.pins.level true).clock = (s.time % 2 == 0) := by
    rw [h.time_eq, Nat.mul_mod_right]
    rfl
  refine ⟨hst.books, ?_, hst.alternating hbooks h.alternating heven⟩
  rw [htime, h.time_eq, hcycles]

theorem beats_tick : Beats model (tick : Action M Unit) := by
  intro s h
  have hhigh : tick s = (evaluate >>= fun _ => setPins (Pins.level false) >>= fun _ =>
      evaluate >>= fun _ => modify fun s => place s.phase s.pins (s.cycles + 1) s)
        (place s.phase (s.pins.level true) s.cycles s) := rfl
  have hbooks := h.books.place s.phase (s.pins.level true) s.cycles
  rw [hhigh]
  rcases evaluate_cases hbooks with ⟨outputs, t, ht, hst⟩ | ⟨e, t, ht, hst⟩
  · have hhalf := h.raise hst
    have hlow : (setPins (Pins.level false) >>= fun _ =>
        evaluate >>= fun _ => modify fun s => place s.phase s.pins (s.cycles + 1) s) t =
          (evaluate >>= fun _ => modify fun s => place s.phase s.pins (s.cycles + 1) s)
            (place t.phase (t.pins.level false) t.cycles t) := rfl
    have hbooks' := hhalf.books.place t.phase (t.pins.level false) t.cycles
    rw [bind_of_ok ht, hlow]
    rcases evaluate_cases hbooks' with ⟨outputs', u, hu, htu⟩ | ⟨e, u, hu, htu⟩
    · rw [bind_of_ok hu]
      exact .ok () (hhalf.lower htu)
    · rw [bind_of_error hu]
      exact .error e (.broken (htu.broken hbooks' hhalf.alternating (.inr hhalf.time_eq)))
  · rw [bind_of_error ht]
    exact .error e (.broken (hst.broken hbooks h.alternating (.inl h.time_eq)))

/-! ### Phases -/

theorem inherited_beats (model : M) : Inherited fun _ x => Beats model x where
  pure := beats_pure
  bind := Beats.bind
  throw := beats_throw
  look hg := beats_get fun s => hg s.phase s.flags s.outputs s.time
  enter phase := beats_modify fun _ h => h.enter phase
  setFlags _ := beats_modify fun _ h =>
    ⟨⟨h.books.model_eq, h.books.time_eq⟩, h.low, h.time_eq, h.alternating⟩
  setPins hf := beats_setPins hf
  complete := beats_modify fun _ h => (h.enter .done).release

/-- Whatever is asked for, but for a run until the model has finished. -/
theorem beats_perform (h : r ≠ .runUntilFinish) : Beats model (perform r : Action M Reply) := by
  by_cases hattached : ∃ id, r = .attach id
  · obtain ⟨id, rfl⟩ := hattached
    have hattach : Beats model (modify (attach id) : Action M Unit) := by
      apply beats_modify
      intro s h
      rw [attach_eq]
      exact ⟨⟨h.books.model_eq, h.books.time_eq⟩, h.low, h.time_eq, h.alternating⟩
    exact hattach.bind fun _ => beats_pure _
  · exact (inherited_beats model).perform beats_tick h fun id hid => hattached ⟨id, hid⟩

theorem Between.paced_after (h : Between model s) (hr : r ≠ .runUntilFinish) :
    Paced model (s.after r) := by
  have hbeaten := beats_perform hr s h
  rw [after, answer]
  cases hperform : perform r s with
  | ok reply t =>
    rw [hperform] at hbeaten
    cases hbeaten with
    | ok _ ht => exact .between ht
  | error e t =>
    rw [hperform] at hbeaten
    cases hbeaten with
    | error _ ht => exact ht

/-! ### A run until the model has finished -/

def stateOf : EStateM.Result SessionError (Session M) α → Session M
  | .ok _ t => t
  | .error _ t => t

omit [Processor M] in
/-- The state after two actions is the state after the second one, if the first one succeeds. -/
theorem stateOf_bind {P : Session M → Prop} {x : Action M α} {g : α → Action M β}
    (hx : P (stateOf (x s))) (hg : ∀ a, P (stateOf (g a (stateOf (x s))))) :
    P (stateOf ((x >>= g) s)) := by
  cases h : x s with
  | ok a t =>
    have hrest := hg a
    rw [h] at hrest
    rw [bind_of_ok h]
    exact hrest
  | error e t =>
    rw [h] at hx
    rw [bind_of_error h]
    exact hx

theorem after_eq_stateOf (s : Session M) (r : Request) : s.after r = stateOf (perform r s) := by
  rw [after, answer]
  cases perform r s <;> rfl

/-- An action that completes no clock period. -/
def Uncounted (x : Action M α) : Prop := ∀ s : Session M, (stateOf (x s)).cycles = s.cycles

omit [Processor M] in
theorem Uncounted.bind {x : Action M α} {g : α → Action M β} (hx : Uncounted x)
    (hg : ∀ a, Uncounted (g a)) : Uncounted (x >>= g) := by
  intro s
  apply stateOf_bind (P := (·.cycles = s.cycles)) (hx s)
  intro a
  exact (hg a _).trans (hx s)

theorem inherited_uncounted : Inherited fun _ (x : Action M _) => Uncounted x where
  pure _ _ := rfl
  bind := Uncounted.bind
  throw _ _ := rfl
  look hg s := hg s.phase s.flags s.outputs s.time s
  enter _ _ := rfl
  setFlags _ _ := rfl
  setPins _ _ := rfl
  complete s := release_cycles { s with phase := .done }

theorem uncounted_evaluate : Uncounted (evaluate : Action M Unit) := by
  intro s
  cases h : Processor.eval s.pins s.model with
  | mk answer m =>
    cases answer with
    | ok outputs =>
      rw [evaluate_of_ok h, stateOf, evaluated_eq]
    | error cause =>
      rw [evaluate_of_error h, stateOf, abandon, release_cycles]

theorem cycles_after_runUntilFinish (s : Session M) :
    (s.after .runUntilFinish).cycles = s.cycles := by
  have hasked : Uncounted (askFinished : Action M Bool) := fun _ => rfl
  have habandon : Uncounted (modify abandon : Action M Unit) :=
    fun s => release_cycles { s with phase := .failed }
  have hperform := inherited_uncounted.runUntilFinish uncounted_evaluate hasked habandon
  rw [after_eq_stateOf]
  exact hperform s

/-! ### Sessions -/

theorem Broken.transition {a : Except SessionError Reply} (h : Broken model s)
    (hst : Transition s r a t) : Broken model t := by
  have hover : s.phase.isOver = true := by rw [h.phase_eq]; rfl
  rcases hst.of_isOver hover with rfl | ⟨flags, rfl⟩ | ⟨id, rfl⟩
  · exact h
  · exact ⟨⟨h.books.model_eq, h.books.time_eq⟩, h.phase_eq, h.time_cases, h.alternating⟩
  · rw [attach_eq]
    exact ⟨⟨h.books.model_eq, h.books.time_eq⟩, h.phase_eq, h.time_cases, h.alternating⟩

theorem Paced.after (h : Paced model s) (hr : r.parts = [r])
    (hbegun : s.begun? r ≠ some .untilFinish) : Paced model (s.after r) := by
  cases h with
  | broken h => exact .broken (h.transition (transition s hr))
  | between h =>
    by_cases hfinish : r = .runUntilFinish
    · subst hfinish
      -- it is refused, as it would begin otherwise
      have hphase : s.phase ≠ Stage.untilFinish.required :=
        fun hidle => hbegun ((begun?_eq_some_iff hr).mpr ⟨rfl, hidle, nofun⟩)
      have hsame : s.after .runUntilFinish = s := by
        rw [Session.after, answer_of_refused rfl hphase]
      rw [hsame]
      exact .between h
    · exact h.paced_after hfinish

/-- Time and cycles: in a session that goes through its phases they go together, and in one that
runs until its model has finished no cycle is counted. -/
inductive Clocked (model : M) (stages : List Stage) (s : Session M) : Prop
  | phases (h : Paced model s) (hstages : .untilFinish ∉ stages)
      (hidle : s.phase = .idle → s.cycles = 0)
  | free (hphase : s.phase.isOver = true) (hcycles : s.cycles = 0)
      (hstages : .untilFinish ∈ stages)

theorem Clocked.after {stages : List Stage} (h : Clocked model stages s) (hr : r.parts = [r]) :
    Clocked model (stages ++ (s.begun? r).toList) (s.after r) := by
  have htransition := transition s hr
  cases h with
  | phases h hstages hidle =>
    by_cases hbegun : s.begun? r = some .untilFinish
    · have hadmitted := (begun?_eq_some_iff hr).mp hbegun
      have hrequest : r = .runUntilFinish := by
        cases r <;> cases hadmitted.stage_eq
        rfl
      refine .free (htransition.isOver_of_completes hadmitted rfl) ?_ ?_
      · rw [hrequest, cycles_after_runUntilFinish, hidle hadmitted.phase_eq]
      · rw [hbegun]
        exact List.mem_append_right _ List.mem_cons_self
    · refine .phases (h.after hr hbegun) ?_ ?_
      · rw [List.mem_append, Option.mem_toList]
        exact not_or.mpr ⟨hstages, hbegun⟩
      · intro hphase
        obtain ⟨hs, hcycles⟩ := htransition.of_idle hphase
        rw [hcycles, hidle hs]
  | free hphase hcycles hstages =>
    have hmem : .untilFinish ∈ stages ++ (s.begun? r).toList := List.mem_append_left _ hstages
    obtain ⟨hphase', hcycles'⟩ :
        (s.after r).phase = s.phase ∧ (s.after r).cycles = s.cycles := by
      rcases htransition.of_isOver hphase with hs | ⟨flags, hs⟩ | ⟨id, hs⟩
      · rw [hs]
        exact ⟨rfl, rfl⟩
      · rw [hs]
        exact ⟨rfl, rfl⟩
      · rw [hs, attach_eq]
        exact ⟨rfl, rfl⟩
    exact .free (by rw [hphase']; exact hphase) (by rw [hcycles']; exact hcycles) hmem

theorem clocked_afterAll (model : M) (flags : SessionFlags) (rs : List Request) :
    Clocked model ((new model flags).stages rs) ((new model flags).afterAll rs) := by
  have hnew : Between model (new model flags) := ⟨⟨rfl, rfl⟩, rfl, rfl, nofun⟩
  have hclocked : Clocked model [] (new model flags) :=
    .phases (.between hnew) List.not_mem_nil fun _ => rfl
  apply stages_induction hclocked
  intro stages s r hr h
  exact h.after hr

/-- Here the first clock period fails in its second half. -/
example :
    let s := (new ({ faultAt := some 1 } : Script) {}).after .reset
    (s.phase, s.time, s.cycles) = (.failed, 1, 0) := by
  decide

theorem Paced.time_eq (h : Paced model s) (hphase : s.phase ≠ .failed) : s.time = 2 * s.cycles := by
  cases h with
  | between h => exact h.time_eq
  | broken h => exact absurd h.phase_eq hphase

theorem Paced.time_cases (h : Paced model s) :
    s.time = 2 * s.cycles ∨ s.time = 2 * s.cycles + 1 := by
  cases h with
  | between h => exact .inl h.time_eq
  | broken h => exact h.time_cases

theorem Paced.alternating (h : Paced model s) : Alternating (s.evaluations model) := by
  cases h with
  | between h => exact h.alternating
  | broken h => exact h.alternating

end Session

end ByteBench
