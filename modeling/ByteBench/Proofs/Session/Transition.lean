import ByteBench.Proofs.Session.Moves
import ByteBench.Proofs.Session.Schedule
import ByteBench.Session.Request

/-!
# What a request does to a session

Main statements: `transition`, a session of any kind takes one of the seven transitions of
`Transition` on every request but `execute`, and `answer_execute` and `after_eq_afterAll_made`,
`execute` is four such requests, of which each is made after the one before it was carried out.
-/

namespace ByteBench

/-- Whether nothing more can happen in a session. -/
def Phase.isOver : Phase → Bool
  | .done => true
  | .failed => true
  | _ => false

/-- What a session goes through. A run until the model has finished is a session by itself. -/
inductive Stage
  | reset | load | run | readback | untilFinish
  deriving DecidableEq

namespace Stage

/-- The phase in which a session has to be for a stage to begin. -/
def required : Stage → Phase
  | reset => .idle
  | load => .reset
  | run => .load
  | readback => .run
  | untilFinish => .idle

def phase : Stage → Phase
  | reset => .reset
  | load => .load
  | run => .run
  | readback => .readback
  | untilFinish => .run

def completes : Stage → Bool
  | readback => true
  | untilFinish => true
  | _ => false

theorem isOver_required (stage : Stage) : stage.required.isOver = false := by
  cases stage <;> rfl

theorem isOver_phase (stage : Stage) : stage.phase.isOver = false := by
  cases stage <;> rfl

end Stage

namespace Request

def stage? : Request → Option Stage
  | reset => some .reset
  | load _ => some .load
  | run => some .run
  | readback => some .readback
  | runUntilFinish => some .untilFinish
  | execute _ => none
  | setFlags _ => none
  | attach _ => none

/-- The requests that a request is short for. -/
def parts : Request → List Request
  | execute p => [reset, load p, run, readback]
  | r => [r]

/-- Whether a session begins a stage when it is asked to. -/
structure Admitted {M : Type} (r : Request) (stage : Stage) (s : Session M) : Prop where
  stage_eq : r.stage? = some stage
  phase_eq : s.phase = stage.required
  fits : ∀ p, r = load p → p.size ≤ Session.programSpace

theorem Admitted.isOver_eq_false {M : Type} {r : Request} {stage : Stage} {s : Session M}
    (h : r.Admitted stage s) : s.phase.isOver = false := by
  rw [h.phase_eq, stage.isOver_required]

theorem parts_of_stage? {r : Request} {stage : Stage} (h : r.stage? = some stage) :
    r.parts = [r] := by
  cases r <;> first | rfl | cases h

theorem eq_execute_of_parts_ne {r : Request} (h : r.parts ≠ [r]) : ∃ p, r = execute p := by
  cases r with
  | execute p => exact ⟨p, rfl⟩
  | _ => exact absurd rfl h

theorem admitted_load {M : Type} {p : Program} {s : Session M} (h : s.phase = .reset)
    (hp : p.size ≤ Session.programSpace) : (load p).Admitted .load s := by
  refine ⟨rfl, h, ?_⟩
  rintro p' ⟨⟩
  exact hp

end Request

namespace Session

variable {M α β : Type} [Processor M]

inductive Transition (s : Session M) : Request → Except SessionError Reply → Session M → Prop
  | refused {r : Request} {stage : Stage} (hr : r.stage? = some stage)
      (hs : s.phase ≠ stage.required) :
      Transition s r (.error (.phaseOrder stage.required s.phase)) s
  | tooLarge {p : Program} (hs : s.phase = .reset) (hp : programSpace < p.size) :
      Transition s (.load p) (.error (.programTooLarge p.size)) s
  | advanced {r : Request} {stage : Stage} {t : Session M} (reply : Reply)
      (hr : r.Admitted stage s) (hstage : stage.completes = false)
      (ht : Moves { s with phase := stage.phase } t) : Transition s r (.ok reply) t
  | completed {r : Request} {stage : Stage} {u : Session M} (reply : Reply)
      (hr : r.Admitted stage s) (hstage : stage.completes = true)
      (hu : Moves { s with phase := stage.phase } u) :
      Transition s r (.ok reply) { u with phase := .done }.release
  | failed {r : Request} {stage : Stage} {u t : Session M} {e : SessionError}
      (hr : r.Admitted stage s) (hu : Moves { s with phase := stage.phase } u)
      (ht : Fails u e t) : Transition s r (.error e) t
  | setFlags (flags : SessionFlags) : Transition s (.setFlags flags) (.ok .done) { s with flags }
  | attach (id : SinkId) : Transition s (.attach id) (.ok .done) (s.attach id)

@[simp] theorem release_phase (s : Session M) : s.release.phase = s.phase := by
  rw [release, releaseSink_eq, releaseModel]
  split <;> rfl

@[simp] theorem release_pins (s : Session M) : s.release.pins = s.pins := by
  rw [release, releaseSink_eq, releaseModel]
  split <;> rfl

@[simp] theorem release_time (s : Session M) : s.release.time = s.time := by
  rw [release, releaseSink_eq, releaseModel]
  split <;> rfl

@[simp] theorem release_cycles (s : Session M) : s.release.cycles = s.cycles := by
  rw [release, releaseSink_eq, releaseModel]
  split <;> rfl

theorem Fails.phase_eq {s t : Session M} {e : SessionError} (h : Fails s e t) :
    t.phase = .failed := by
  cases h <;> exact release_phase _

/-- Once a session is over, only its settings and its sink can change. -/
theorem Transition.of_isOver {r : Request} {a : Except SessionError Reply} {s t : Session M}
    (h : Transition s r a t) (hs : s.phase.isOver = true) :
    t = s ∨ (∃ flags, t = { s with flags }) ∨ ∃ id, t = s.attach id := by
  have hstage : ∀ {stage : Stage}, ¬ r.Admitted stage s := by
    intro stage hr
    rw [hr.isOver_eq_false] at hs
    cases hs
  cases h with
  | refused | tooLarge => exact .inl rfl
  | advanced _ hr | completed _ hr | failed hr => exact absurd hr hstage
  | setFlags flags => exact .inr (.inl ⟨flags, rfl⟩)
  | attach id => exact .inr (.inr ⟨id, rfl⟩)

theorem Transition.of_idle {r : Request} {a : Except SessionError Reply} {s t : Session M}
    (h : Transition s r a t) (ht : t.phase = .idle) : s.phase = .idle ∧ t.cycles = s.cycles := by
  cases h with
  | refused | tooLarge => exact ⟨ht, rfl⟩
  | @advanced _ stage _ _ _ _ hmoves =>
    rw [hmoves.phase_eq] at ht
    cases stage <;> cases ht
  | completed =>
    rw [release_phase] at ht
    cases ht
  | failed _ _ hfails =>
    rw [hfails.phase_eq] at ht
    cases ht
  | setFlags => exact ⟨ht, rfl⟩
  | attach =>
    rw [attach_eq] at ht ⊢
    exact ⟨ht, rfl⟩

theorem Transition.isOver_of_completes {r : Request} {stage : Stage}
    {a : Except SessionError Reply} {s t : Session M} (h : Transition s r a t)
    (hr : r.Admitted stage s) (hcompletes : stage.completes = true) :
    t.phase.isOver = true := by
  have hstage : ∀ {stage'}, r.stage? = some stage' → stage' = stage :=
    fun h' => Option.some.inj (h'.symm.trans hr.stage_eq)
  cases h with
  | refused hrefused hs =>
    rw [hstage hrefused] at hs
    exact absurd hr.phase_eq hs
  | tooLarge =>
    rw [← hstage rfl] at hcompletes
    cases hcompletes
  | advanced _ hadmitted hadvances =>
    rw [hstage hadmitted.stage_eq, hcompletes] at hadvances
    cases hadvances
  | completed =>
    rw [release_phase]
    rfl
  | failed _ _ hfails =>
    rw [hfails.phase_eq]
    rfl
  | setFlags | attach => cases hr.stage_eq

theorem reset_ends {s : Session M} (h : s.phase = .idle) :
    Ends { s with phase := .reset } (reset s) := by
  rw [reset, bind_of_ok (expectPhase_of_eq h), enter_bind]
  refine (drives_setPins _).bind ?_ _
  intro _
  exact drives_tick.bind fun _ => drives_setPins _

theorem load_ends {p : Program} {s : Session M} (h : s.phase = .reset)
    (hp : p.size ≤ programSpace) : Ends { s with phase := .load } (load p s) := by
  have hfits : ¬ programSpace < p.size := Nat.not_lt.mpr hp
  have hbody : load p s = (enter .load >>= fun _ => loadFrom 0 p.words >>= fun _ =>
      setPins ({ · with writeEnable := false })) s := by
    rw [load, bind_of_ok (expectPhase_of_eq h), if_neg hfits]
  rw [hbody, enter_bind]
  exact (drives_loadFrom 0 p.words).bind (fun _ => drives_setPins _) _

theorem load_of_tooLarge {p : Program} {s : Session M} (h : s.phase = .reset)
    (hp : programSpace < p.size) : load p s = .error (.programTooLarge p.size) s := by
  rw [load, bind_of_ok (expectPhase_of_eq h), if_pos hp]
  rfl

theorem run_ends {s : Session M} (h : s.phase = .load) :
    Ends { s with phase := .run } (run s) := by
  rw [run, bind_of_ok (expectPhase_of_eq h), enter_bind]
  refine (drives_setPins _).bind ?_ _
  intro _
  exact drives_get fun t => drives_ticks t.flags.runCycles.toNat

theorem readout_ends {s : Session M} (h : s.phase = .run) :
    Ends { s with phase := .readback } (readout s) := by
  rw [readout, bind_of_ok (expectPhase_of_eq h), enter_bind]
  refine (drives_setPins _).bind ?_ _
  intro _
  exact drives_get fun t => drives_readFrom 0 [] t.flags.readbackCycles.toNat

/-- Lets a model run until it says that it has finished. The result is the time at the start. -/
def finishing : Action M Nat := do
  expectPhase .idle
  enter .run
  let s ← get
  finishWithin s.flags.finishLimit.toNat s.flags.finishLimit.toNat
  pure s.time

theorem finishing_ends {s : Session M} (h : s.phase = .idle) :
    Ends { s with phase := .run } (finishing s) := by
  rw [finishing, bind_of_ok (expectPhase_of_eq h), enter_bind]
  refine drives_get ?_ _
  intro t
  exact (drives_finishWithin _ _).bind fun _ => drives_pure t.time

theorem answer_of_ok {r : Request} {s t : Session M} {reply : Reply}
    (h : perform r s = .ok reply t) : s.answer r = (.ok reply, t) := by
  rw [answer, h]

theorem answer_of_error {r : Request} {s t : Session M} {e : SessionError}
    (h : perform r s = .error e t) : s.answer r = (.error e, t) := by
  rw [answer, h]

theorem answer_of_refused {r : Request} {stage : Stage} {s : Session M}
    (hr : r.stage? = some stage) (h : s.phase ≠ stage.required) :
    s.answer r = (.error (.phaseOrder stage.required s.phase), s) := by
  cases r <;> cases hr
  all_goals exact answer_of_error (bind_of_error (bind_of_error (expectPhase_of_ne h)))

theorem answer_of_tooLarge {p : Program} {s : Session M} (h : s.phase = .reset)
    (hp : programSpace < p.size) : s.answer (.load p) = (.error (.programTooLarge p.size), s) :=
  answer_of_error (bind_of_error (load_of_tooLarge h hp))

theorem Transition.of_refused {r : Request} {stage : Stage} {s : Session M}
    (hr : r.stage? = some stage) (h : s.phase ≠ stage.required) :
    Transition s r (s.answer r).1 (s.after r) := by
  rw [after, answer_of_refused hr h]
  exact .refused hr h

theorem Transition.of_advancing {r : Request} {stage : Stage} {s : Session M} {x : Action M α}
    {f : α → Reply} (hr : r.Admitted stage s) (hstage : stage.completes = false)
    (hperform : perform r = x >>= fun a => pure (f a))
    (hx : Ends { s with phase := stage.phase } (x s)) :
    Transition s r (s.answer r).1 (s.after r) := by
  cases h : x s with
  | ok a t =>
    have hr' : perform r s = .ok (f a) t := by
      rw [hperform, bind_of_ok h]
      rfl
    rw [h] at hx
    rw [after, answer_of_ok hr']
    cases hx with
    | ok _ ht => exact .advanced _ hr hstage ht
  | error e t =>
    have hr' : perform r s = .error e t := by rw [hperform, bind_of_error h]
    rw [h] at hx
    rw [after, answer_of_error hr']
    cases hx with
    | error hu ht => exact .failed hr hu ht

theorem Transition.of_completing {r : Request} {stage : Stage} {s : Session M} {x : Action M α}
    {g : α → Action M Reply} (hr : r.Admitted stage s) (hstage : stage.completes = true)
    (hperform : perform r = x >>= fun a => complete >>= fun _ => g a)
    (hg : ∀ a t, ∃ reply, g a t = .ok reply t)
    (hx : Ends { s with phase := stage.phase } (x s)) :
    Transition s r (s.answer r).1 (s.after r) := by
  cases h : x s with
  | ok a u =>
    obtain ⟨reply, hreply⟩ := hg a { u with phase := .done }.release
    have hr' : perform r s = .ok reply { u with phase := .done }.release := by
      rw [hperform, bind_of_ok h, ← hreply]
      rfl
    rw [h] at hx
    rw [after, answer_of_ok hr']
    cases hx with
    | ok _ hu => exact .completed _ hr hstage hu
  | error e t =>
    have hr' : perform r s = .error e t := by rw [hperform, bind_of_error h]
    rw [h] at hx
    rw [after, answer_of_error hr']
    cases hx with
    | error hu ht => exact .failed hr hu ht

theorem perform_readback : (perform .readback : Action M Reply) =
    readout >>= fun entries => complete >>= fun _ => pure (.trace ⟨entries⟩) := by
  simp only [perform, readback, readout, bind_assoc, pure_bind]

theorem perform_runUntilFinish : (perform .runUntilFinish : Action M Reply) =
    finishing >>= fun start => complete >>= fun _ => get >>= fun t =>
      pure (.evaluations (t.time - start)) := by
  simp only [perform, runUntilFinish, finishing, bind_assoc, pure_bind]

/-- All that a request can do, if it is not short for others. -/
theorem transition (s : Session M) {r : Request} (hr : r.parts = [r]) :
    Transition s r (s.answer r).1 (s.after r) := by
  cases r with
  | execute p => cases hr
  | setFlags flags => exact .setFlags flags
  | attach id => exact .attach id
  | reset =>
    by_cases h : s.phase = .idle
    · have hreset : Request.reset.Admitted .reset s := ⟨rfl, h, nofun⟩
      exact .of_advancing hreset rfl rfl (reset_ends h)
    · exact .of_refused rfl h
  | load p =>
    by_cases h : s.phase = .reset
    · by_cases hp : programSpace < p.size
      · rw [after, answer_of_tooLarge h hp]
        exact .tooLarge h hp
      · have hfits : p.size ≤ programSpace := Nat.le_of_not_lt hp
        exact .of_advancing (Request.admitted_load h hfits) rfl rfl (load_ends h hfits)
    · exact .of_refused rfl h
  | run =>
    by_cases h : s.phase = .load
    · have hrun : Request.run.Admitted .run s := ⟨rfl, h, nofun⟩
      exact .of_advancing hrun rfl rfl (run_ends h)
    · exact .of_refused rfl h
  | readback =>
    by_cases h : s.phase = .run
    · have hreadback : Request.readback.Admitted .readback s := ⟨rfl, h, nofun⟩
      exact .of_completing hreadback rfl perform_readback (fun _ _ => ⟨_, rfl⟩) (readout_ends h)
    · exact .of_refused rfl h
  | runUntilFinish =>
    by_cases h : s.phase = .idle
    · have hfinish : Request.runUntilFinish.Admitted .untilFinish s := ⟨rfl, h, nofun⟩
      exact .of_completing hfinish rfl perform_runUntilFinish (fun _ _ => ⟨_, rfl⟩)
        (finishing_ends h)
    · exact .of_refused rfl h

/-- Requests one after the other, up to the first that is not carried out. -/
def answerInTurn (s : Session M) (r : Request) :
    List Request → Except SessionError Reply × Session M
  | [] => s.answer r
  | r' :: rs =>
    match s.answer r with
    | (.ok _, t) => t.answerInTurn r' rs
    | (.error e, t) => (.error e, t)

theorem answerInTurn_of_ok {s : Session M} {r : Request} {reply : Reply} (r' : Request)
    (rs : List Request) (h : (s.answer r).1 = .ok reply) :
    s.answerInTurn r (r' :: rs) = (s.after r).answerInTurn r' rs := by
  have hpair : s.answer r = (.ok reply, s.after r) := Prod.ext h rfl
  rw [answerInTurn, hpair]

theorem answerInTurn_of_error {s : Session M} {r : Request} {e : SessionError} (rs : List Request)
    (h : (s.answer r).1 = .error e) : s.answerInTurn r rs = (.error e, s.after r) := by
  have hpair : s.answer r = (.error e, s.after r) := Prod.ext h rfl
  cases rs with
  | nil => exact hpair
  | cons r' rs => rw [answerInTurn, hpair]

/-- Those of some requests one after the other that are made. -/
def made (s : Session M) : List Request → List Request
  | [] => []
  | r :: rs =>
    match s.answer r with
    | (.ok _, t) => r :: t.made rs
    | (.error _, _) => [r]

theorem made_of_ok {s : Session M} {r : Request} {reply : Reply} (rs : List Request)
    (h : (s.answer r).1 = .ok reply) : s.made (r :: rs) = r :: (s.after r).made rs := by
  have hpair : s.answer r = (.ok reply, s.after r) := Prod.ext h rfl
  rw [made, hpair]

theorem made_of_error {s : Session M} {r : Request} {e : SessionError} (rs : List Request)
    (h : (s.answer r).1 = .error e) : s.made (r :: rs) = [r] := by
  have hpair : s.answer r = (.error e, s.after r) := Prod.ext h rfl
  rw [made, hpair]

def performInTurn (r : Request) : List Request → Action M Reply
  | [] => perform r
  | r' :: rs => perform r >>= fun _ => performInTurn r' rs

theorem perform_execute (p : Program) :
    (perform (.execute p) : Action M Reply) = performInTurn .reset [.load p, .run, .readback] := by
  simp only [perform, performInTurn, execute, bind_assoc, pure_bind]

def answerOf : EStateM.Result SessionError (Session M) Reply →
    Except SessionError Reply × Session M
  | .ok reply t => (.ok reply, t)
  | .error e t => (.error e, t)

theorem answerInTurn_eq (s : Session M) (r : Request) (rs : List Request) :
    s.answerInTurn r rs = answerOf (performInTurn r rs s) := by
  induction rs generalizing s r with
  | nil => rfl
  | cons r' rs ih =>
    cases h : perform r s with
    | ok a t =>
      have hrest : performInTurn r (r' :: rs) s = performInTurn r' rs t := bind_of_ok h
      rw [answerInTurn, answer_of_ok h, hrest]
      exact ih t r'
    | error e t =>
      have hend : performInTurn r (r' :: rs) s = .error e t := bind_of_error h
      rw [answerInTurn, answer_of_error h, hend]
      rfl

theorem answer_execute (p : Program) (s : Session M) :
    s.answer (.execute p) = s.answerInTurn .reset [.load p, .run, .readback] := by
  rw [answerInTurn_eq, ← perform_execute]
  rfl

theorem answerInTurn_snd (s : Session M) (r : Request) (rs : List Request) :
    (s.answerInTurn r rs).2 = s.afterAll (s.made (r :: rs)) := by
  induction rs generalizing s r with
  | nil =>
    rw [answerInTurn, made]
    split <;> rfl
  | cons r' rs ih =>
    cases h : (s.answer r).1 with
    | ok reply =>
      rw [answerInTurn_of_ok r' rs h, ih, made_of_ok (r' :: rs) h]
      rfl
    | error e =>
      rw [answerInTurn_of_error (r' :: rs) h, made_of_error (r' :: rs) h]
      rfl

/-- Whatever a request does is done by the requests that are made for it. -/
theorem after_eq_afterAll_made (s : Session M) (r : Request) :
    s.after r = s.afterAll (s.made r.parts) := by
  cases r with
  | execute p => rw [after, answer_execute, answerInTurn_snd, Request.parts]
  | _ => exact answerInTurn_snd s _ []

theorem mem_of_mem_made {s : Session M} {r : Request} {rs : List Request} (h : r ∈ s.made rs) :
    r ∈ rs := by
  induction rs generalizing s with
  | nil => exact h
  | cons r' rs ih =>
    rw [made] at h
    split at h
    · rcases List.mem_cons.mp h with rfl | h
      · exact List.mem_cons_self
      · exact List.mem_cons_of_mem r' (ih h)
    · rw [List.mem_singleton] at h
      rw [h]
      exact List.mem_cons_self

/-- The requests that are made for others, none of which is short for others itself. -/
def madeAll (s : Session M) : List Request → List Request
  | [] => []
  | r :: rs => s.made r.parts ++ (s.after r).madeAll rs

theorem afterAll_append (s : Session M) (rs rs' : List Request) :
    s.afterAll (rs ++ rs') = (s.afterAll rs).afterAll rs' := List.foldl_append

theorem afterAll_madeAll (s : Session M) (rs : List Request) :
    s.afterAll (s.madeAll rs) = s.afterAll rs := by
  induction rs generalizing s with
  | nil => rfl
  | cons r rs ih =>
    have hcons : s.afterAll (r :: rs) = (s.after r).afterAll rs := rfl
    rw [madeAll, afterAll_append, ← after_eq_afterAll_made, ih, hcons]

theorem afterAll_induction {P : Session M → Prop} {s : Session M} {rs : List Request}
    (hs : P s) (hstep : ∀ r ∈ rs, ∀ s, P s → P (s.after r)) : P (s.afterAll rs) := by
  induction rs generalizing s with
  | nil => exact hs
  | cons r rs ih =>
    apply ih (hstep r List.mem_cons_self s hs)
    intro r' hr'
    exact hstep r' (List.mem_cons_of_mem r hr')

end Session

theorem Request.parts_of_mem_parts {r r' : Request} (h : r' ∈ r.parts) : r'.parts = [r'] := by
  cases r with
  | execute p =>
    simp only [parts, List.mem_cons, List.not_mem_nil, or_false] at h
    rcases h with rfl | rfl | rfl | rfl <;> rfl
  | _ =>
    rw [List.mem_singleton.mp h]
    rfl

namespace Session

variable {M : Type} [Processor M]

theorem parts_of_mem_madeAll {s : Session M} {r : Request} {rs : List Request}
    (h : r ∈ s.madeAll rs) : r.parts = [r] := by
  induction rs generalizing s with
  | nil => cases h
  | cons r' rs ih =>
    rcases List.mem_append.mp h with h | h
    · exact Request.parts_of_mem_parts (mem_of_mem_made h)
    · exact ih h

/-- What every transition keeps is kept by a request. -/
theorem after_of_transition {P : Session M → Prop} {r : Request} {s : Session M} (hs : P s)
    (hstep : ∀ r' ∈ r.parts, ∀ {s a t}, Transition s r' a t → P s → P t) : P (s.after r) := by
  rw [after_eq_afterAll_made]
  apply afterAll_induction hs
  intro r' hr' t ht
  have hpart := mem_of_mem_made hr'
  exact hstep r' hpart (transition t (Request.parts_of_mem_parts hpart)) ht

theorem afterAll_of_transition {P : Session M → Prop} {s : Session M} (rs : List Request)
    (hs : P s) (hstep : ∀ {s r a t}, Transition s r a t → P s → P t) : P (s.afterAll rs) :=
  afterAll_induction hs fun _ _ _ h => after_of_transition h fun _ _ _ _ _ => hstep

end Session

end ByteBench
