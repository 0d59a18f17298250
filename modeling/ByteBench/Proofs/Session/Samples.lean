import ByteBench.Proofs.Session.ModelOwnership
import ByteBench.Proofs.Session.SinkOwnership

/-!
# Evaluations and samples

What a session counts and what it tells a sink can both be read off the calls that it made. Main
statements: `books_afterAll`, the time is the number of evaluations that succeeded, and
`watched_afterAll`, a sink is told of every evaluation from the time at which it was attached,
until it is closed.
-/

namespace ByteBench

/-- The evaluations that succeeded among calls of a model, the oldest first: the pins of each and
what came of it. The calls are given as they are kept, the newest first. -/
def Call.evaluations {M : Type} [Processor M] (model : M) : List Call → List (Pins × Outputs)
  | [] => []
  | .eval pins :: calls =>
    match (Processor.eval pins (calls.foldr Call.effect model)).1 with
    | .ok outputs => evaluations model calls ++ [(pins, outputs)]
    | .error _ => evaluations model calls
  | .finished :: calls => evaluations model calls
  | .close :: calls => evaluations model calls

/-- What a sink is told of evaluations from the time `start` on. -/
def watched (id : SinkId) (start : Nat) (evaluations : List (Pins × Outputs)) : List Post :=
  (evaluations.drop start).mapIdx fun j x => .dump id ⟨start + j, x.1, x.2⟩

theorem watched_append {start : Nat} {xs : List (Pins × Outputs)} (id : SinkId)
    (x : Pins × Outputs) (h : start ≤ xs.length) :
    watched id start (xs ++ [x]) = watched id start xs ++ [.dump id ⟨xs.length, x.1, x.2⟩] := by
  have hlength : start + (xs.drop start).length = xs.length := by
    rw [List.length_drop]
    omega
  rw [watched, List.drop_append_of_le_length h, List.mapIdx_concat, hlength]
  rfl

theorem watched_of_length_le {start : Nat} {xs : List (Pins × Outputs)} (id : SinkId)
    (h : xs.length ≤ start) : watched id start xs = [] := by
  rw [watched, List.drop_of_length_le h, List.mapIdx_nil]

namespace Session

variable {M : Type} [Processor M] {model : M} {id other : SinkId} {start : Nat} {s t : Session M}

def evaluations (model : M) (s : Session M) : List (Pins × Outputs) :=
  Call.evaluations model s.calls

/-- The calls account for the model and for the time. -/
structure Books (model : M) (s : Session M) : Prop where
  model_eq : s.model = s.calls.foldr Call.effect model
  time_eq : s.time = (s.evaluations model).length

theorem evaluations_evaluated {outputs : Outputs} {m : M} (h : Books model s)
    (he : Processor.eval s.pins s.model = (.ok outputs, m)) :
    (evaluated outputs { s with model := m, calls := .eval s.pins :: s.calls }).evaluations model =
      s.evaluations model ++ [(s.pins, outputs)] := by
  have hanswer : (Processor.eval s.pins (s.calls.foldr Call.effect model)).1 = .ok outputs := by
    rw [← h.model_eq, he]
  rw [evaluated_eq, evaluations, Call.evaluations, hanswer]
  rfl

theorem evaluations_of_error {cause : ModelError} {m : M} (h : Books model s)
    (he : Processor.eval s.pins s.model = (.error cause, m)) :
    Call.evaluations model (.eval s.pins :: s.calls) = s.evaluations model := by
  have hanswer : (Processor.eval s.pins (s.calls.foldr Call.effect model)).1 = .error cause := by
    rw [← h.model_eq, he]
  rw [Call.evaluations, hanswer]
  rfl

theorem model_of_eval {answer : Except ModelError Outputs} {m : M} (h : Books model s)
    (he : Processor.eval s.pins s.model = (answer, m)) :
    m = (Call.eval s.pins :: s.calls).foldr Call.effect model := by
  rw [List.foldr_cons, ← h.model_eq, Call.effect, he]

theorem evaluations_release (s : Session M) :
    s.release.evaluations model = s.evaluations model := by
  cases h : s.modelOpen with
  | true =>
    rw [release_of_isOpen h]
    rfl
  | false =>
    rw [release_of_isClosed h, releaseSink_eq]
    rfl

theorem Books.release (h : Books model s) : Books model s.release := by
  cases hopen : s.modelOpen with
  | true =>
    have hmodel : Processor.close s.model = (Call.close :: s.calls).foldr Call.effect model := by
      rw [List.foldr_cons, ← h.model_eq]
      rfl
    rw [release_of_isOpen hopen]
    exact ⟨hmodel, h.time_eq⟩
  | false =>
    rw [release_of_isClosed hopen, releaseSink_eq]
    exact ⟨h.model_eq, h.time_eq⟩

theorem Books.evaluated {outputs : Outputs} {m : M} (h : Books model s)
    (he : Processor.eval s.pins s.model = (.ok outputs, m)) :
    Books model (evaluated outputs { s with model := m, calls := .eval s.pins :: s.calls }) := by
  refine ⟨?_, ?_⟩
  · rw [evaluated_eq]
    exact model_of_eval h he
  · rw [evaluations_evaluated h he, List.length_append, ← h.time_eq, evaluated_eq]
    rfl

theorem Books.failed {cause : ModelError} {m : M} (h : Books model s)
    (he : Processor.eval s.pins s.model = (.error cause, m)) :
    Books model { s with model := m, phase := .failed, calls := .eval s.pins :: s.calls } := by
  refine ⟨model_of_eval h he, ?_⟩
  rw [evaluations, evaluations_of_error h he]
  exact h.time_eq

theorem Books.move (h : Books model s) (hst : Move s t) : Books model t := by
  cases hst with
  | place | ask => exact ⟨h.model_eq, h.time_eq⟩
  | evaluate he => exact h.evaluated he

theorem Books.moves (h : Books model s) (hst : Moves s t) : Books model t :=
  hst.keeps h fun hmove hs => hs.move hmove

theorem Books.enter (h : Books model s) (phase : Phase) : Books model { s with phase } :=
  ⟨h.model_eq, h.time_eq⟩

theorem Books.attach (h : Books model s) : Books model (s.attach id) := by
  rw [attach_eq]
  exact ⟨h.model_eq, h.time_eq⟩

theorem Books.fails {e : SessionError} (h : Books model s) (hst : Fails s e t) :
    Books model t := by
  cases hst with
  | fatal he => exact (h.failed he).release
  | noFinish => exact (h.enter .failed).release

theorem Books.transition {r : Request} {a : Except SessionError Reply} (h : Books model s)
    (hst : Transition s r a t) : Books model t := by
  cases hst with
  | refused | tooLarge => exact h
  | advanced _ _ _ ht => exact (h.enter _).moves ht
  | completed _ _ _ hu => exact (((h.enter _).moves hu).enter .done).release
  | failed _ hu ht => exact ((h.enter _).moves hu).fails ht
  | setFlags => exact ⟨h.model_eq, h.time_eq⟩
  | attach => exact h.attach

theorem books_afterAll (model : M) (flags : SessionFlags) (rs : List Request) :
    Books model ((new model flags).afterAll rs) :=
  afterAll_of_transition rs ⟨rfl, rfl⟩ fun hst h => h.transition hst

/-- The session has the sink, and has told it of every evaluation since the time `start`. -/
structure Watching (model : M) (id : SinkId) (start : Nat) (s : Session M) : Prop where
  books : Books model s
  start_le : start ≤ s.time
  sink_eq : s.sink = some id
  received_eq : s.received id = watched id start (s.evaluations model)

/-- What a sink that nobody replaces was told between two requests: every evaluation since it was
attached, and that it is closed if the session has closed it, since then nothing is evaluated. -/
inductive Watched (model : M) (id : SinkId) (start : Nat) (s : Session M) : Prop
  | watching (h : Watching model id start s)
  | closed (hphase : s.phase.isOver = true) (hsink : s.sink ≠ some id)
      (h : s.received id = watched id start (s.evaluations model) ++ [.close id])

theorem Watching.move (h : Watching model id start s) (hst : Move s t) :
    Watching model id start t := by
  have hbooks := h.books.move hst
  cases hst with
  | place | ask => exact ⟨hbooks, h.start_le, h.sink_eq, h.received_eq⟩
  | @evaluate outputs m he =>
    have hstart : start ≤ (s.evaluations model).length := by
      rw [← h.books.time_eq]
      exact h.start_le
    refine ⟨hbooks, ?_, ?_, ?_⟩
    · rw [evaluated_eq]
      exact Nat.le_succ_of_le h.start_le
    · rw [evaluated_eq]
      exact h.sink_eq
    · rw [evaluated_received, if_pos h.sink_eq, evaluations_evaluated h.books he,
        watched_append id _ hstart, ← h.books.time_eq, ← h.received_eq]
      rfl

theorem Watching.enter (h : Watching model id start s) (phase : Phase) :
    Watching model id start { s with phase } :=
  ⟨h.books.enter phase, h.start_le, h.sink_eq, h.received_eq⟩

theorem Watching.moves (h : Watching model id start s) (hst : Moves s t) :
    Watching model id start t :=
  hst.keeps h fun hmove hs => hs.move hmove

theorem Watching.release (h : Watching model id start s) (hphase : s.phase.isOver = true) :
    Watched model id start s.release := by
  refine .closed ?_ ?_ ?_
  · rw [release_phase]
    exact hphase
  · rw [release_sink]
    exact nofun
  · rw [release_received, if_pos h.sink_eq, evaluations_release, h.received_eq]

theorem Watching.fails {e : SessionError} (h : Watching model id start s) (hst : Fails s e t) :
    Watched model id start t := by
  cases hst with
  | @fatal cause m he =>
    have hasked : Watching model id start
        { s with model := m, phase := .failed, calls := .eval s.pins :: s.calls } := by
      refine ⟨h.books.failed he, h.start_le, h.sink_eq, ?_⟩
      rw [evaluations, evaluations_of_error h.books he]
      exact h.received_eq
    exact hasked.release rfl
  | noFinish => exact (h.enter .failed).release rfl

theorem Watched.of_admitted {r : Request} {stage : Stage} (h : Watched model id start s)
    (hr : r.Admitted stage s) : Watching model id start { s with phase := stage.phase } := by
  cases h with
  | watching h => exact h.enter stage.phase
  | closed hphase =>
    rw [hr.isOver_eq_false] at hphase
    cases hphase

theorem Watched.transition {r : Request} {a : Except SessionError Reply}
    (h : Watched model id start s) (hst : Transition s r a t) (hr : r.attached? = none) :
    Watched model id start t := by
  cases hst with
  | refused | tooLarge => exact h
  | advanced _ hadmitted _ ht => exact .watching ((h.of_admitted hadmitted).moves ht)
  | completed _ hadmitted _ hu =>
    exact (((h.of_admitted hadmitted).moves hu).enter .done).release rfl
  | failed hadmitted hu ht => exact ((h.of_admitted hadmitted).moves hu).fails ht
  | setFlags =>
    cases h with
    | watching h =>
      exact .watching
        ⟨⟨h.books.model_eq, h.books.time_eq⟩, h.start_le, h.sink_eq, h.received_eq⟩
    | closed hphase hsink h => exact .closed hphase hsink h
  | attach => cases hr

theorem Watched.attach (h : Watched model id start s) (hsink : s.sink ≠ some id)
    (hother : other ≠ id) : Watched model id start (s.attach other) := by
  cases h with
  | watching h => exact absurd h.sink_eq hsink
  | closed hphase _ h =>
    refine .closed ?_ ?_ ?_
    · rw [attach_eq]
      exact hphase
    · rw [attach_sink]
      simpa using hother
    · rw [attach_received, if_neg hsink, List.append_nil, h, attach_eq]
      rfl

theorem Watched.afterAll {rs : List Request} (h : Watched model id start s)
    (hrs : id ∉ attached rs) (hreplaced : replaced id s rs = false) :
    Watched model id start (s.afterAll rs) := by
  induction rs generalizing s with
  | nil => exact h
  | cons r rs ih =>
    obtain ⟨hr, hrest⟩ := not_mem_attached_cons.mp hrs
    rw [replaced, Bool.or_eq_false_iff] at hreplaced
    obtain ⟨hkept, hlater⟩ := hreplaced
    refine ih ?_ hrest hlater
    cases hattached : r.attached? with
    | none =>
      apply after_of_transition h
      intro r' hr' t a u htu ht
      exact ht.transition htu (Request.attached?_of_mem_parts hr' hattached)
    | some other =>
      have hother : other ≠ id := by
        rintro rfl
        exact hr hattached
      have hsink : s.sink ≠ some id := by simpa [hattached] using hkept
      rw [Request.eq_attach hattached]
      exact h.attach hsink hother

theorem Watched.received_eq (h : Watched model id start s) :
    s.received id =
      watched id start (s.evaluations model) ++ if s.sink = some id then [] else [.close id] := by
  cases h with
  | watching h => rw [if_pos h.sink_eq, List.append_nil, h.received_eq]
  | closed _ hsink h => rw [if_neg hsink, h]

theorem Watched.received_at_release (h : Watched model id start s) :
    s.release.received id = watched id start (s.evaluations model) ++ [.close id] := by
  rw [release_received, h.received_eq]
  split <;> simp

/-- A sink that is attached once, and that no other one takes the place of, is told of every
evaluation from then on. -/
theorem watched_afterAll (model : M) (flags : SessionFlags) {before later : List Request}
    (hbefore : id ∉ attached before) (hlater : id ∉ attached later)
    (hreplaced : replaced id (((new model flags).afterAll before).attach id) later = false) :
    Watched model id ((new model flags).afterAll before).time
      ((new model flags).afterAll (before ++ .attach id :: later)) := by
  have hnew : Without id [] (new model flags) := ⟨nofun, rfl⟩
  have hfresh := hnew.afterAll hbefore
  have hbooks := books_afterAll model flags before
  rw [afterAll_append]
  generalize (new model flags).afterAll before = s at hfresh hbooks hreplaced ⊢
  have hreceived : (s.attach id).received id = [] := by
    rw [attach_received, if_neg hfresh.sink_ne, hfresh.received_eq, List.append_nil]
  have hevaluations : (s.attach id).evaluations model = s.evaluations model := by
    rw [attach_eq]
    rfl
  have htime : (s.attach id).time = s.time := by rw [attach_eq]
  have hwatching : Watching model id s.time (s.attach id) := by
    refine ⟨hbooks.attach, Nat.le_of_eq htime.symm, attach_sink s, ?_⟩
    rw [hreceived, hevaluations, watched_of_length_le id (Nat.le_of_eq hbooks.time_eq.symm)]
  exact (Watched.watching hwatching).afterAll hlater hreplaced

end Session

end ByteBench
