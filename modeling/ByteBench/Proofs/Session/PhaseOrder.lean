import ByteBench.Proofs.Session.Transition

/-!
# The order of the phases

A request that comes in the wrong phase, or that loads a program that does not fit, is refused.
Main statements: `stages_induction`, the induction over what is begun in a session; and
`ordered_afterAll`, in any state that a session can be in, what is refused is told by the phase and
the size alone and changes nothing, and what is begun over the whole life of a session is a
beginning of reset, load, run and readback, or a run until the model has finished.
-/

namespace ByteBench

/-- Whether an error says that nothing was begun. -/
def SessionError.isRefusal : SessionError → Bool
  | .phaseOrder _ _ => true
  | .programTooLarge _ => true
  | _ => false

/-- The phase in which a session has to be for a request to be carried out, if it matters. -/
def Request.required? : Request → Option Phase
  | execute _ => some .idle
  | r => r.stage?.map Stage.required

theorem Request.required?_eq_some_iff {r : Request} {phase : Phase} :
    r.required? = some phase ↔
      (∃ p, r = execute p ∧ phase = .idle) ∨
        ∃ stage, r.stage? = some stage ∧ phase = stage.required := by
  cases r <;> simp [required?, stage?, eq_comm]

def Stage.course : List Stage := [reset, load, run, readback]

/-- Which stages were begun when a session is in some phase. -/
inductive Reached : List Stage → Phase → Prop
  | idle : Reached [] .idle
  | reset : Reached [.reset] .reset
  | load : Reached [.reset, .load] .load
  | run : Reached [.reset, .load, .run] .run
  | done : Reached Stage.course .done
  | failed {stages : List Stage} (h : stages <+: Stage.course) : Reached stages .failed
  | finished : Reached [.untilFinish] .done
  | unfinished : Reached [.untilFinish] .failed

namespace Reached

variable {stages : List Stage} {phase : Phase} {stage : Stage}

theorem ne_readback (h : Reached stages phase) : phase ≠ .readback := by
  rintro rfl
  cases h

theorem prefix_or_eq (h : Reached stages phase) :
    stages <+: Stage.course ∨ stages = [.untilFinish] := by
  cases h with
  | idle | reset | load | run | done => exact Or.inl (by decide)
  | failed h => exact Or.inl h
  | finished | unfinished => exact Or.inr rfl

/-- A stage begins after those that have to come before it. -/
theorem advance (h : Reached stages stage.required) (hstage : stage.completes = false) :
    Reached (stages ++ [stage]) stage.phase := by
  cases stage <;> cases hstage <;> cases h
  · exact .reset
  · exact .load
  · exact .run

theorem complete (h : Reached stages stage.required) (hstage : stage.completes = true) :
    Reached (stages ++ [stage]) .done := by
  cases stage <;> cases hstage <;> cases h
  · exact .done
  · exact .finished

theorem fail (h : Reached stages stage.required) : Reached (stages ++ [stage]) .failed := by
  cases stage <;> cases h
  case untilFinish => exact .unfinished
  all_goals exact .failed (by decide)

end Reached

namespace Session

variable {M : Type} [Processor M] {s t : Session M} {r : Request} {stage : Stage}
  {a : Except SessionError Reply}

theorem Fails.not_isRefusal {e : SessionError} (h : Fails s e t) : e.isRefusal = false := by
  cases h <;> rfl

/-- A stage that can begin does begin. -/
theorem answer_of_admitted (h : r.Admitted stage s) :
    (∃ reply, (s.answer r).1 = .ok reply ∧
        (stage.completes = false → (s.after r).phase = stage.phase)) ∨
      ∃ e, (s.answer r).1 = .error e ∧ e.isRefusal = false := by
  have htransition := transition s (Request.parts_of_stage? h.stage_eq)
  generalize (s.answer r).1 = a, s.after r = t at htransition
  have hstage : ∀ {stage' : Stage}, r.stage? = some stage' → stage' = stage := by
    intro stage' h'
    exact Option.some.inj (h'.symm.trans h.stage_eq)
  cases htransition with
  | refused hr hs =>
    rw [hstage hr] at hs
    exact absurd h.phase_eq hs
  | tooLarge hs hp =>
    have hfits := h.fits _ rfl
    omega
  | advanced reply hr _ ht =>
    refine Or.inl ⟨reply, rfl, ?_⟩
    intro _
    rw [← hstage hr.stage_eq]
    exact ht.phase_eq
  | completed reply hr hcompletes =>
    refine Or.inl ⟨reply, rfl, ?_⟩
    intro hnot
    rw [hstage hr.stage_eq, hnot] at hcompletes
    cases hcompletes
  | failed _ _ ht => exact Or.inr ⟨_, rfl, ht.not_isRefusal⟩
  | setFlags | attach => cases h.stage_eq

theorem Transition.refusal_cases {e : SessionError} (h : Transition s r (.error e) t)
    (he : e.isRefusal = true) :
    t = s ∧
      ((∃ stage, r.stage? = some stage ∧ s.phase ≠ stage.required ∧
          e = .phaseOrder stage.required s.phase) ∨
        ∃ p, r = .load p ∧ s.phase = .reset ∧ programSpace < p.size ∧
          e = .programTooLarge p.size) := by
  cases h with
  | refused hr hs => exact ⟨rfl, Or.inl ⟨_, hr, hs, rfl⟩⟩
  | tooLarge hs hp => exact ⟨rfl, Or.inr ⟨_, rfl, hs, hp, rfl⟩⟩
  | failed _ _ ht =>
    rw [ht.not_isRefusal] at he
    cases he

theorem not_isRefusal_of_admitted {e : SessionError} (h : r.Admitted stage s)
    (he : (s.answer r).1 = .error e) : e.isRefusal = false := by
  rcases answer_of_admitted h with ⟨reply, hreply, _⟩ | ⟨e', he', hrefusal⟩
  · rw [hreply] at he
    cases he
  · rw [he'] at he
    cases he
    exact hrefusal

theorem not_isRefusal_of_chain {r' : Request} {rs : List Request} (h : r.Admitted stage s)
    (hstage : stage.completes = false)
    (hrest : ∀ t : Session M, t.phase = stage.phase →
      ∀ e, (t.answerInTurn r' rs).1 = .error e → e.isRefusal = false) :
    ∀ e, (s.answerInTurn r (r' :: rs)).1 = .error e → e.isRefusal = false := by
  intro e he
  rcases answer_of_admitted h with ⟨reply, hreply, hphase⟩ | ⟨e', he', hrefusal⟩
  · rw [answerInTurn_of_ok r' rs hreply] at he
    exact hrest _ (hphase hstage) e he
  · rw [answerInTurn_of_error _ he'] at he
    cases he
    exact hrefusal

theorem not_isRefusal_of_execute {p : Program} (h : s.phase = .idle)
    (hp : p.size ≤ programSpace) :
    ∀ e, (s.answer (.execute p)).1 = .error e → e.isRefusal = false := by
  have hreadback : ∀ t : Session M, t.phase = .run →
      ∀ e, (t.answerInTurn .readback []).1 = .error e → e.isRefusal = false := by
    intro t ht e he
    have hadmitted : Request.readback.Admitted .readback t := ⟨rfl, ht, nofun⟩
    exact not_isRefusal_of_admitted hadmitted he
  have hrun : ∀ t : Session M, t.phase = .load →
      ∀ e, (t.answerInTurn .run [.readback]).1 = .error e → e.isRefusal = false := by
    intro t ht
    have hadmitted : Request.run.Admitted .run t := ⟨rfl, ht, nofun⟩
    exact not_isRefusal_of_chain hadmitted rfl hreadback
  have hload : ∀ t : Session M, t.phase = .reset →
      ∀ e, (t.answerInTurn (.load p) [.run, .readback]).1 = .error e → e.isRefusal = false := by
    intro t ht
    exact not_isRefusal_of_chain (Request.admitted_load ht hp) rfl hrun
  have hreset : Request.reset.Admitted .reset s := ⟨rfl, h, nofun⟩
  rw [answer_execute]
  exact not_isRefusal_of_chain hreset rfl hload

theorem answer_execute_of_refused (p : Program) (h : s.phase ≠ .idle) :
    s.answer (.execute p) = (.error (.phaseOrder .idle s.phase), s) := by
  have hstage : Request.reset.stage? = some .reset := rfl
  have hreset := answer_of_refused hstage h
  have herror : (s.answer .reset).1 = .error (.phaseOrder .idle s.phase) := by
    rw [hreset]
    rfl
  have hafter : s.after .reset = s := by
    rw [after, hreset]
  rw [answer_execute, answerInTurn_of_error _ herror, hafter]

theorem phase_after_reset {reply : Reply} (h : s.phase = .idle)
    (hreset : (s.answer .reset).1 = .ok reply) : (s.after .reset).phase = .reset := by
  have hadmitted : Request.reset.Admitted .reset s := ⟨rfl, h, nofun⟩
  rcases answer_of_admitted hadmitted with ⟨_, _, hphase⟩ | ⟨e, he, _⟩
  · exact hphase rfl
  · rw [hreset] at he
    cases he

theorem answer_execute_of_tooLarge {p : Program} {reply : Reply} (h : s.phase = .idle)
    (hreset : (s.answer .reset).1 = .ok reply) (hp : programSpace < p.size) :
    s.answer (.execute p) = (.error (.programTooLarge p.size), s.after .reset) := by
  have hload := answer_of_tooLarge (phase_after_reset h hreset) hp
  have herror : ((s.after .reset).answer (.load p)).1 = .error (.programTooLarge p.size) := by
    rw [hload]
  have hafter : (s.after .reset).after (.load p) = s.after .reset := by
    rw [after, hload]
  rw [answer_execute, answerInTurn_of_ok _ _ hreset, answerInTurn_of_error _ herror, hafter]

theorem execute_refusal_cases {p : Program} {e : SessionError}
    (h : (s.answer (.execute p)).1 = .error e) (he : e.isRefusal = true) :
    (s.phase ≠ .idle ∧ e = .phaseOrder .idle s.phase) ∨
      s.phase = .idle ∧ (∃ reply, (s.answer .reset).1 = .ok reply) ∧ programSpace < p.size ∧
        e = .programTooLarge p.size := by
  by_cases hphase : s.phase = .idle
  · refine Or.inr ⟨hphase, ?_⟩
    have hlarge : programSpace < p.size := by
      rw [← Nat.not_le]
      intro hp
      rw [not_isRefusal_of_execute hphase hp e h] at he
      cases he
    cases hreset : (s.answer .reset).1 with
    | ok reply =>
      rw [answer_execute_of_tooLarge hphase hreset hlarge] at h
      cases h
      exact ⟨⟨reply, rfl⟩, hlarge, rfl⟩
    | error e' =>
      have hadmitted : Request.reset.Admitted .reset s := ⟨rfl, hphase, nofun⟩
      rw [answer_execute, answerInTurn_of_error _ hreset] at h
      cases h
      rw [not_isRefusal_of_admitted hadmitted hreset] at he
      cases he
  · rw [answer_execute_of_refused p hphase] at h
    cases h
    exact Or.inl ⟨hphase, rfl⟩

/-- What is left of a session that has refused a request. `execute` has reset it before its program
turns out not to fit. -/
def untouched (s : Session M) : Request → SessionError → Session M
  | .execute _, .programTooLarge _ => s.after .reset
  | _, _ => s

def answers (s : Session M) : List Request → List (Except SessionError Reply)
  | [] => []
  | r :: rs => (s.answer r).1 :: (s.after r).answers rs

/-- What is refused in a state, and what becomes of the state then. -/
structure Ordered (s : Session M) : Prop where
  phaseOrder_iff : ∀ (r : Request) (expected found : Phase),
    (s.answer r).1 = .error (.phaseOrder expected found) ↔
      r.required? = some expected ∧ s.phase ≠ expected ∧ found = s.phase
  load_tooLarge_iff : ∀ (p : Program) (size : Nat),
    (s.answer (.load p)).1 = .error (.programTooLarge size) ↔
      s.phase = .reset ∧ programSpace < p.size ∧ size = p.size
  execute_tooLarge_iff : ∀ (p : Program) (size : Nat),
    (s.answer (.execute p)).1 = .error (.programTooLarge size) ↔
      s.phase = .idle ∧ (∃ reply, (s.answer .reset).1 = .ok reply) ∧ programSpace < p.size ∧
        size = p.size
  after_of_refusal : ∀ (r : Request) (e : SessionError), (s.answer r).1 = .error e →
    e.isRefusal = true → s.after r = s.untouched r e
  /-- Whatever comes next is answered as if the request had not been made. -/
  answers_of_refusal : ∀ (r : Request) (e : SessionError) (rs : List Request),
    (s.answer r).1 = .error e → e.isRefusal = true →
      s.answers (r :: rs) = .error e :: (s.untouched r e).answers rs ∧
        s.afterAll (r :: rs) = (s.untouched r e).afterAll rs
  /-- After a program that does not fit one that does can be loaded, unless the model fails. -/
  load_of_tooLarge : ∀ (r : Request) (size : Nat) (p : Program) (e : SessionError),
    (s.answer r).1 = .error (.programTooLarge size) → p.size ≤ programSpace →
      ((s.after r).answer (.load p)).1 = .error e → e.isRefusal = false

theorem answer_phaseOrder_iff (s : Session M) (r : Request) (expected found : Phase) :
    (s.answer r).1 = .error (.phaseOrder expected found) ↔
      r.required? = some expected ∧ s.phase ≠ expected ∧ found = s.phase := by
  rw [Request.required?_eq_some_iff]
  constructor
  · intro h
    by_cases hr : r.parts = [r]
    · have ht := transition s hr
      rw [h] at ht
      obtain ⟨-, ⟨stage, hstage, hs, he⟩ | ⟨p, -, -, -, he⟩⟩ := ht.refusal_cases rfl
      · cases he
        exact ⟨Or.inr ⟨stage, hstage, rfl⟩, hs, rfl⟩
      · cases he
    · obtain ⟨p, rfl⟩ := Request.eq_execute_of_parts_ne hr
      rcases execute_refusal_cases h rfl with ⟨hs, he⟩ | ⟨-, -, -, he⟩
      · cases he
        exact ⟨Or.inl ⟨p, rfl, rfl⟩, hs, rfl⟩
      · cases he
  · rintro ⟨⟨p, rfl, rfl⟩ | ⟨stage, hstage, rfl⟩, hs, rfl⟩
    · rw [answer_execute_of_refused p hs]
    · rw [answer_of_refused hstage hs]

theorem answer_load_tooLarge_iff (s : Session M) (p : Program) (size : Nat) :
    (s.answer (.load p)).1 = .error (.programTooLarge size) ↔
      s.phase = .reset ∧ programSpace < p.size ∧ size = p.size := by
  constructor
  · intro h
    have hr : (Request.load p).parts = [.load p] := rfl
    have ht := transition s hr
    rw [h] at ht
    obtain ⟨-, ⟨stage, -, -, he⟩ | ⟨p', hp', hs, hlarge, he⟩⟩ := ht.refusal_cases rfl
    · cases he
    · cases hp'
      cases he
      exact ⟨hs, hlarge, rfl⟩
  · rintro ⟨hs, hp, rfl⟩
    rw [answer_of_tooLarge hs hp]

theorem answer_execute_tooLarge_iff (s : Session M) (p : Program) (size : Nat) :
    (s.answer (.execute p)).1 = .error (.programTooLarge size) ↔
      s.phase = .idle ∧ (∃ reply, (s.answer .reset).1 = .ok reply) ∧ programSpace < p.size ∧
        size = p.size := by
  constructor
  · intro h
    rcases execute_refusal_cases h rfl with ⟨-, he⟩ | ⟨hs, hreset, hp, he⟩
    · cases he
    · cases he
      exact ⟨hs, hreset, hp, rfl⟩
  · rintro ⟨hs, ⟨reply, hreset⟩, hp, rfl⟩
    rw [answer_execute_of_tooLarge hs hreset hp]

theorem after_eq_untouched {e : SessionError} (h : (s.answer r).1 = .error e)
    (he : e.isRefusal = true) : s.after r = s.untouched r e := by
  by_cases hr : r.parts = [r]
  · have ht := transition s hr
    rw [h] at ht
    obtain ⟨hafter, ⟨stage, -, -, rfl⟩ | ⟨p, rfl, -, -, rfl⟩⟩ := ht.refusal_cases he
    · rw [hafter, untouched]
      exact nofun
    · exact hafter
  · obtain ⟨p, rfl⟩ := Request.eq_execute_of_parts_ne hr
    rcases execute_refusal_cases h he with ⟨hs, rfl⟩ | ⟨hs, ⟨reply, hreset⟩, hp, rfl⟩
    · rw [after, answer_execute_of_refused p hs]
      rfl
    · rw [after, answer_execute_of_tooLarge hs hreset hp]
      rfl

theorem load_after_tooLarge {size : Nat} {p : Program} {e : SessionError}
    (h : (s.answer r).1 = .error (.programTooLarge size)) (hp : p.size ≤ programSpace)
    (he : ((s.after r).answer (.load p)).1 = .error e) : e.isRefusal = false := by
  have hphase : (s.after r).phase = .reset := by
    by_cases hr : r.parts = [r]
    · have ht := transition s hr
      rw [h] at ht
      obtain ⟨hafter, ⟨stage, -, -, he⟩ | ⟨p', -, hs, -, -⟩⟩ := ht.refusal_cases rfl
      · cases he
      · rw [hafter, hs]
    · obtain ⟨p', rfl⟩ := Request.eq_execute_of_parts_ne hr
      obtain ⟨hs, ⟨reply, hreset⟩, -, -⟩ := (answer_execute_tooLarge_iff s p' size).mp h
      rw [after_eq_untouched h rfl]
      exact phase_after_reset hs hreset
  exact not_isRefusal_of_admitted (Request.admitted_load hphase hp) he

theorem ordered (s : Session M) : s.Ordered := by
  refine ⟨s.answer_phaseOrder_iff, s.answer_load_tooLarge_iff, s.answer_execute_tooLarge_iff,
    fun r e => after_eq_untouched, ?_, fun r size p e => load_after_tooLarge⟩
  intro r e rs h he
  rw [answers, h, after_eq_untouched h he]
  exact ⟨rfl, congrArg (fun t : Session M => t.afterAll rs) (after_eq_untouched h he)⟩

def begun? (s : Session M) (r : Request) : Option Stage :=
  match (s.answer r).1 with
  | .ok _ => r.stage?
  | .error e => if e.isRefusal then none else r.stage?

def begunBy (s : Session M) : List Request → List Stage
  | [] => []
  | r :: rs => (s.begun? r).toList ++ (s.after r).begunBy rs

/-- All stages that are begun for some requests, also those that `execute` asks for. -/
def stages (s : Session M) (rs : List Request) : List Stage := s.begunBy (s.madeAll rs)

/-- A stage is begun exactly if the session admits it. -/
theorem begun?_eq_some_iff {stage : Stage} (hr : r.parts = [r]) :
    s.begun? r = some stage ↔ r.Admitted stage s := by
  constructor
  · intro h
    have hsame : ∀ {stage'}, r.Admitted stage' s → r.stage? = some stage → r.Admitted stage s := by
      intro stage' hadmitted hstage
      rw [hadmitted.stage_eq] at hstage
      cases hstage
      exact hadmitted
    have htransition := transition s hr
    rw [begun?] at h
    generalize (s.answer r).1 = a, s.after r = t at htransition h
    cases htransition with
    | refused | tooLarge => simp [SessionError.isRefusal] at h
    | advanced _ hadmitted | completed _ hadmitted => exact hsame hadmitted h
    | failed hadmitted _ ht =>
      simp only [ht.not_isRefusal] at h
      exact hsame hadmitted h
    | setFlags | attach => cases h
  · intro h
    rw [begun?]
    rcases answer_of_admitted h with ⟨reply, hreply, -⟩ | ⟨e, he, hrefusal⟩
    · rw [hreply]
      exact h.stage_eq
    · simp only [he, hrefusal]
      exact h.stage_eq

theorem reached_after {stages : List Stage} (h : Reached stages s.phase) (hr : r.parts = [r]) :
    Reached (stages ++ (s.begun? r).toList) (s.after r).phase := by
  have htransition := transition s hr
  rw [begun?]
  generalize (s.answer r).1 = a, s.after r = t at htransition
  cases htransition with
  | refused | tooLarge => simpa [SessionError.isRefusal] using h
  | @advanced _ stage _ _ hadmitted hcompletes ht =>
    rw [hadmitted.phase_eq] at h
    simp only [hadmitted.stage_eq, Option.toList_some]
    rw [ht.phase_eq]
    exact h.advance hcompletes
  | @completed _ stage _ _ hadmitted hcompletes =>
    rw [hadmitted.phase_eq] at h
    simp only [hadmitted.stage_eq, Option.toList_some, release_phase]
    exact h.complete hcompletes
  | @failed _ stage _ _ _ hadmitted _ ht =>
    rw [hadmitted.phase_eq] at h
    simp only [hadmitted.stage_eq, ht.not_isRefusal, ht.phase_eq]
    exact h.fail
  | setFlags => simpa [Request.stage?] using h
  | attach => simpa [Request.stage?, attach_eq] using h

theorem exists_of_mem_begunBy {stage : Stage} {rs : List Request} (h : stage ∈ s.begunBy rs) :
    ∃ r ∈ rs, r.stage? = some stage := by
  induction rs generalizing s with
  | nil => cases h
  | cons r rs ih =>
    rcases List.mem_append.mp h with h | h
    · refine ⟨r, List.mem_cons_self, ?_⟩
      rw [Option.mem_toList, begun?] at h
      split at h
      · exact h
      · split at h
        · cases h
        · exact h
    · obtain ⟨r', hr', hstage⟩ := ih h
      exact ⟨r', List.mem_cons_of_mem r hr', hstage⟩

theorem begunBy_append (s : Session M) (rs rs' : List Request) :
    s.begunBy (rs ++ rs') = s.begunBy rs ++ (s.afterAll rs).begunBy rs' := by
  induction rs generalizing s with
  | nil => rfl
  | cons r rs ih =>
    rw [List.cons_append, begunBy, begunBy, ih, List.append_assoc]
    rfl

theorem stages_cons (s : Session M) (r : Request) (rs : List Request) :
    s.stages (r :: rs) = s.begunBy (s.made r.parts) ++ (s.after r).stages rs := by
  rw [stages, madeAll, begunBy_append, ← after_eq_afterAll_made, stages]

theorem idle_of_mem_begunBy (h : .untilFinish ∈ s.begunBy (s.made r.parts)) :
    r = .runUntilFinish ∧ s.phase = .idle := by
  obtain ⟨r', hmade, hstage⟩ := exists_of_mem_begunBy h
  have hr' : r' = .runUntilFinish := by
    cases r' <;> cases hstage
    rfl
  have hr : r = .runUntilFinish := by
    have hpart := mem_of_mem_made hmade
    rw [hr'] at hpart
    cases r <;> simp [Request.parts] at hpart ⊢
  subst hr
  have hparts : Request.runUntilFinish.parts = [.runUntilFinish] := rfl
  have hsingle : s.made [.runUntilFinish] = [.runUntilFinish] := by
    rw [made]
    split <;> rfl
  rw [hparts, hsingle, begunBy, begunBy, List.append_nil, Option.mem_toList] at h
  exact ⟨rfl, ((begun?_eq_some_iff rfl).mp h).phase_eq⟩

/-- A run until the model has finished is begun by the request for it only, in a session that has
not begun anything else. -/
theorem idle_of_mem_stages {rs : List Request} (h : .untilFinish ∈ s.stages rs) :
    ∃ before later, rs = before ++ .runUntilFinish :: later ∧
      (s.afterAll before).phase = .idle := by
  induction rs generalizing s with
  | nil => cases h
  | cons r rs ih =>
    rw [stages_cons] at h
    rcases List.mem_append.mp h with h | h
    · obtain ⟨rfl, hphase⟩ := idle_of_mem_begunBy h
      exact ⟨[], rs, rfl, hphase⟩
    · obtain ⟨before, later, rfl, hphase⟩ := ih h
      exact ⟨r :: before, later, rfl, hphase⟩

/-- What every request keeps, if it is not short for others, holds of a session and of the stages
that were begun in it. -/
theorem stages_induction {P : List Stage → Session M → Prop} {rs : List Request} (hs : P [] s)
    (hstep : ∀ {stages s r}, r.parts = [r] → P stages s →
      P (stages ++ (s.begun? r).toList) (s.after r)) : P (s.stages rs) (s.afterAll rs) := by
  have hsingle : ∀ {rs : List Request} {stages : List Stage} {s : Session M}, P stages s →
      (∀ r ∈ rs, r.parts = [r]) → P (stages ++ s.begunBy rs) (s.afterAll rs) := by
    intro rs
    induction rs with
    | nil =>
      intro stages s h _
      rw [begunBy, List.append_nil]
      exact h
    | cons r rs ih =>
      intro stages s h hrs
      have hr := hstep (hrs r List.mem_cons_self) h
      have hrest := ih hr fun r' hr' => hrs r' (List.mem_cons_of_mem r hr')
      rw [List.append_assoc] at hrest
      exact hrest
  rw [← afterAll_madeAll]
  exact hsingle hs fun _ => parts_of_mem_madeAll

theorem reached_stages (model : M) (flags : SessionFlags) (rs : List Request) :
    Reached ((new model flags).stages rs) ((new model flags).afterAll rs).phase := by
  apply stages_induction (P := fun stages t => Reached stages t.phase) .idle
  intro stages t r hr h
  exact reached_after h hr

/-- A session that is over stays as it is for its model. -/
structure Rests (s t : Session M) : Prop where
  phase_eq : t.phase = s.phase
  calls_eq : t.calls = s.calls
  model_eq : t.model = s.model

theorem Transition.rests (h : Transition s r a t) (hs : s.phase.isOver = true) : Rests s t := by
  rcases h.of_isOver hs with rfl | ⟨flags, rfl⟩ | ⟨id, rfl⟩
  · exact ⟨rfl, rfl, rfl⟩
  · exact ⟨rfl, rfl, rfl⟩
  · rw [attach_eq]
    exact ⟨rfl, rfl, rfl⟩

theorem rests_afterAll (rs : List Request) (hs : s.phase.isOver = true) :
    Rests s (s.afterAll rs) := by
  apply afterAll_of_transition rs (P := Rests s) ⟨rfl, rfl, rfl⟩
  intro t r a u htu ht
  have hu := htu.rests (by rw [ht.phase_eq]; exact hs)
  exact ⟨hu.phase_eq.trans ht.phase_eq, hu.calls_eq.trans ht.calls_eq,
    hu.model_eq.trans ht.model_eq⟩

/-- The order of a session. After any requests, refusals are told by phase and size alone and leave
no trace; the stages that were begun are a beginning of the course of a session, each once, or a
single run until the model has finished; no request leaves a session while it reads back; and of a
session that is over nothing further is asked. -/
theorem ordered_afterAll (model : M) (flags : SessionFlags) (rs : List Request) :
    ((new model flags).afterAll rs).Ordered ∧
      ((new model flags).stages rs <+: [.reset, .load, .run, .readback] ∨
        (new model flags).stages rs = [.untilFinish]) ∧
      ((new model flags).afterAll rs).phase ≠ .readback ∧
      (((new model flags).afterAll rs).phase.isOver = true → ∀ rs',
        Rests ((new model flags).afterAll rs) ((new model flags).afterAll (rs ++ rs'))) := by
  have hreached := reached_stages model flags rs
  refine ⟨ordered _, hreached.prefix_or_eq, hreached.ne_readback, ?_⟩
  intro hover rs'
  rw [afterAll_append]
  exact rests_afterAll rs' hover

end Session

end ByteBench
