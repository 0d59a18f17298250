import ByteBench.Proofs.Session.ClockPeriods
import ByteBench.Proofs.Session.Unwatched

/-!
# The books of a session

Main statement: `accounts_afterAll`, how the time, the cycles and the samples of a session go
together after any requests, and that a session goes the same way whether or not anybody watches.
-/

namespace ByteBench.Session

variable {M : Type} [Processor M]

/-- How the books of a session stand that was made with a model and some settings, and that was
asked for `rs`. -/
structure Accounts (model : M) (flags : SessionFlags) (rs : List Request) (s : Session M) :
    Prop where
  time_eq : s.time = (s.evaluations model).length
  /-- A sink that no other one takes the place of sees every evaluation from when it is attached. It
  is told nothing else, but that it is closed, when the session closes it. -/
  received_eq : ∀ (before later : List Request) (id : SinkId),
    rs = before ++ .attach id :: later → id ∉ attached before → id ∉ attached later →
    replaced id (((new model flags).afterAll before).attach id) later = false →
      s.received id =
        watched id ((new model flags).afterAll before).time (s.evaluations model) ++
          if s.sink = some id then [] else [.close id]
  /-- So it is when the session is given up, which closes the sink if nothing else has. -/
  received_at_release : ∀ (before later : List Request) (id : SinkId),
    rs = before ++ .attach id :: later → id ∉ attached before → id ∉ attached later →
    replaced id (((new model flags).afterAll before).attach id) later = false →
      s.release.received id =
        watched id ((new model flags).afterAll before).time (s.evaluations model) ++ [.close id]
  alternating : .untilFinish ∉ (new model flags).stages rs → Alternating (s.evaluations model)
  time_of_cycles : .untilFinish ∉ (new model flags).stages rs → s.phase ≠ .failed →
    s.time = 2 * s.cycles
  time_of_failed : .untilFinish ∉ (new model flags).stages rs → s.phase = .failed →
    s.time = 2 * s.cycles ∨ s.time = 2 * s.cycles + 1
  cycles_eq_zero : .untilFinish ∈ (new model flags).stages rs → s.cycles = 0
  unwatched_eq : s.unwatched = (new model flags).afterAll (others rs)
  answers_eq :
    ((rs.zip ((new model flags).answers rs)).filter (·.1.attached?.isNone)).map Prod.snd =
      (new model flags).answers (others rs)

theorem accounts_afterAll (model : M) (flags : SessionFlags) (rs : List Request) :
    Accounts model flags rs ((new model flags).afterAll rs) := by
  have hwatched : ∀ (before later : List Request) (id : SinkId),
      rs = before ++ .attach id :: later → id ∉ attached before → id ∉ attached later →
      replaced id (((new model flags).afterAll before).attach id) later = false →
        Watched model id ((new model flags).afterAll before).time
          ((new model flags).afterAll rs) := by
    rintro before later id rfl hbefore hlater hreplaced
    exact watched_afterAll model flags hbefore hlater hreplaced
  have hpaced : .untilFinish ∉ (new model flags).stages rs →
      Paced model ((new model flags).afterAll rs) := by
    intro hstages
    cases clocked_afterAll model flags rs with
    | phases h => exact h
    | free _ _ hmem => exact absurd hmem hstages
  refine
    { time_eq := (books_afterAll model flags rs).time_eq
      received_eq := ?_
      received_at_release := ?_
      alternating := fun h => (hpaced h).alternating
      time_of_cycles := fun h => (hpaced h).time_eq
      time_of_failed := fun h _ => (hpaced h).time_cases
      cycles_eq_zero := ?_
      unwatched_eq := unwatched_afterAll (new model flags) rs
      answers_eq := answers_unwatched (new model flags) rs }
  · intro before later id hrs hbefore hlater hreplaced
    exact (hwatched before later id hrs hbefore hlater hreplaced).received_eq
  · intro before later id hrs hbefore hlater hreplaced
    exact (hwatched before later id hrs hbefore hlater hreplaced).received_at_release
  · intro hmem
    cases clocked_afterAll model flags rs with
    | phases _ hstages => exact absurd hmem hstages
    | free _ hcycles => exact hcycles

end ByteBench.Session
