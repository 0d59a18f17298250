import ByteBench.Proofs.Session.ModelOwnership
import ByteBench.Proofs.Session.PhaseOrder
import ByteBench.Proofs.Session.SinkOwnership
import ByteBench.Proofs.Session.Steps

/-!
# A session does not depend on its sinks

Main statements: `blind_perform`, what is done for a request does not depend on whether anybody
watches, and `unwatched_afterAll` and `answers_unwatched`, a session in which sinks are attached
goes as it would without them.
-/

namespace ByteBench.Session

variable {M α β : Type}

/-- The session without its sink, and without all that sinks were told. -/
def unwatched (s : Session M) : Session M := { s with sink := none, posts := [] }

def unwatchedResult :
    EStateM.Result SessionError (Session M) α → EStateM.Result SessionError (Session M) α
  | .ok a s => .ok a s.unwatched
  | .error e s => .error e s.unwatched

/-- An action that does the same whether or not anybody watches. -/
def Blind (x : Action M α) : Prop := ∀ s : Session M, x s.unwatched = unwatchedResult (x s)

theorem blind_pure (a : α) : Blind (pure a : Action M α) := fun _ => rfl

theorem blind_throw (e : SessionError) : Blind (throw e : Action M α) := fun _ => rfl

theorem blind_modify {f : Session M → Session M} (h : ∀ s, f s.unwatched = (f s).unwatched) :
    Blind (modify f) := fun s => congrArg (EStateM.Result.ok ()) (h s)

theorem Blind.bind {x : Action M α} {g : α → Action M β} (hx : Blind x) (hg : ∀ a, Blind (g a)) :
    Blind (x >>= g) := by
  intro s
  have hs := hx s
  cases h : x s with
  | ok a t =>
    rw [h] at hs
    rw [bind_of_ok h, bind_of_ok hs]
    exact hg a t
  | error e t =>
    rw [h] at hs
    rw [bind_of_error h, bind_of_error hs]
    rfl

/-- The session may be looked at, but not at its sink. -/
theorem blind_get {g : Session M → Action M α} (hsame : ∀ s, g s.unwatched = g s)
    (hg : ∀ s, Blind (g s)) : Blind (get >>= g) := by
  intro s
  have hs : (get >>= g) s.unwatched = g s.unwatched s.unwatched := rfl
  rw [hs, hsame]
  exact hg s s

theorem blind_setPins (f : Pins → Pins) : Blind (setPins f : Action M Unit) :=
  blind_modify fun _ => rfl

theorem unwatched_evaluated (outputs : Outputs) (s : Session M) :
    (evaluated outputs s).unwatched = evaluated outputs s.unwatched := by
  rw [evaluated_eq, evaluated_eq]
  rfl

theorem unwatched_attach (id : SinkId) (s : Session M) : (s.attach id).unwatched = s.unwatched := by
  rw [attach_eq]
  rfl

variable [Processor M] {r : Request}

theorem unwatched_release (s : Session M) : s.release.unwatched = s.unwatched.release := by
  cases h : s.modelOpen with
  | true =>
    rw [release_of_isOpen h, release_of_isOpen (s := s.unwatched) h]
    rfl
  | false =>
    rw [release_of_isClosed h, release_of_isClosed (s := s.unwatched) h, releaseSink_eq,
      releaseSink_eq]
    rfl

theorem unwatched_abandon (s : Session M) : s.abandon.unwatched = s.unwatched.abandon :=
  unwatched_release { s with phase := .failed }

theorem blind_evaluate : Blind (evaluate : Action M Unit) := by
  intro s
  cases h : Processor.eval s.pins s.model with
  | mk answer model =>
    cases answer with
    | ok outputs =>
      rw [evaluate_of_ok h, evaluate_of_ok (s := s.unwatched) h, unwatchedResult,
        unwatched_evaluated]
      rfl
    | error cause =>
      rw [evaluate_of_error h, evaluate_of_error (s := s.unwatched) h, unwatchedResult,
        unwatched_abandon]
      rfl

theorem blind_askFinished : Blind (askFinished : Action M Bool) := fun _ => rfl

theorem blind_tick : Blind (tick : Action M Unit) := by
  apply (blind_setPins _).bind
  intro _
  apply blind_evaluate.bind
  intro _
  apply (blind_setPins _).bind
  intro _
  apply blind_evaluate.bind
  intro _
  exact blind_modify fun _ => rfl

theorem inherited_blind : Inherited fun _ (x : Action M _) => Blind x where
  pure := blind_pure
  bind := Blind.bind
  throw := blind_throw
  look hg := blind_get (fun _ => rfl) fun s => hg s.phase s.flags s.outputs s.time
  enter _ := blind_modify fun _ => rfl
  setFlags _ := blind_modify fun _ => rfl
  setPins _ := blind_setPins _
  complete := blind_modify fun s => (unwatched_release { s with phase := .done }).symm

theorem blind_perform (h : r.attached? = none) : Blind (perform r : Action M Reply) := by
  by_cases hfinish : r = .runUntilFinish
  · subst hfinish
    have habandon : Blind (modify abandon : Action M Unit) :=
      blind_modify fun s => s.unwatched_abandon.symm
    exact inherited_blind.runUntilFinish blind_evaluate blind_askFinished habandon
  · apply inherited_blind.perform blind_tick hfinish
    rintro id rfl
    cases h

theorem answer_unwatched (s : Session M) (h : r.attached? = none) :
    s.unwatched.answer r = ((s.answer r).1, (s.after r).unwatched) := by
  have hperform := blind_perform h s
  rw [after, answer, answer, hperform]
  cases perform r s <;> rfl

theorem after_unwatched (s : Session M) (h : r.attached? = none) :
    s.unwatched.after r = (s.after r).unwatched := by
  rw [after, answer_unwatched s h]

/-- Some requests without those that attach a sink. -/
def others (rs : List Request) : List Request := rs.filter (·.attached?.isNone)

theorem others_cons_of_none (h : r.attached? = none) (rs : List Request) :
    others (r :: rs) = r :: others rs := by
  rw [others, List.filter_cons_of_pos (by rw [h]; rfl), others]

theorem others_cons_attach (id : SinkId) (rs : List Request) :
    others (.attach id :: rs) = others rs := rfl

/-- The state of a session in which sinks are attached is the state of one without them. -/
theorem unwatched_afterAll (s : Session M) (rs : List Request) :
    (s.afterAll rs).unwatched = s.unwatched.afterAll (others rs) := by
  induction rs generalizing s with
  | nil => rfl
  | cons r rs ih =>
    have hcons : s.afterAll (r :: rs) = (s.after r).afterAll rs := rfl
    rw [hcons, ih]
    cases h : r.attached? with
    | none =>
      rw [others_cons_of_none h, ← after_unwatched s h]
      rfl
    | some id =>
      have hafter : (s.after (.attach id)).unwatched = s.unwatched := unwatched_attach id s
      rw [Request.eq_attach h, others_cons_attach, hafter]

/-- What is answered to the other requests is what would be answered to them alone. -/
theorem answers_unwatched (s : Session M) (rs : List Request) :
    ((rs.zip (s.answers rs)).filter (·.1.attached?.isNone)).map Prod.snd =
      s.unwatched.answers (others rs) := by
  induction rs generalizing s with
  | nil => rfl
  | cons r rs ih =>
    rw [answers, List.zip_cons_cons]
    cases h : r.attached? with
    | none =>
      rw [List.filter_cons_of_pos (by simp [h]), List.map_cons, ih, others_cons_of_none h, answers,
        answer_unwatched s h, after_unwatched s h]
    | some id =>
      have hafter : (s.after (.attach id)).unwatched = s.unwatched := unwatched_attach id s
      rw [List.filter_cons_of_neg (by simp [h]), ih, Request.eq_attach h, others_cons_attach,
        hafter]

end ByteBench.Session
