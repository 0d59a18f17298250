import ByteBench.Proofs.Session.ModelOwnership
import ByteBench.Proofs.Session.PinProtocol

/-!
# Sessions that are watched from the start

A session may be given a sink before anything is asked of it. Main statements: `dumps_eq`, what
such a sink is told of some evaluations, and `hasClosed_of_isOver`, once the session is over its
model has been closed.
-/

namespace ByteBench.Session

variable {M : Type}

/-- A session as it is at first, with a sink if one is given. -/
def opened (model : M) (flags : SessionFlags) (sink : Option SinkId) : Session M :=
  sink.elim (new model flags) fun id => (new model flags).attach id

theorem opened_eq (model : M) (flags : SessionFlags) (sink : Option SinkId) :
    opened model flags sink = { model, flags, sink } := by
  cases sink <;> rfl

/-- The samples of evaluations from the start, with the pins `rows`. -/
def samplesOf (rows : List Pins) (answers : List Outputs) : List Sample :=
  (rows.zip answers).mapIdx fun i x => ⟨i, x.1, x.2⟩

/-- All that a sink is told: samples, and in the end that it is closed. -/
def closing (sink : Option SinkId) (samples : List Sample) : List Post :=
  sink.elim [] fun id => samples.map (.dump id) ++ [.close id]

theorem dumps_eq {s : Session M} (htime : s.time = 0) (rows : List Pins)
    (answers : List Outputs) :
    s.dumps rows answers = s.sink.elim [] fun id => (samplesOf rows answers).map (.dump id) := by
  rw [dumps, htime]
  cases s.sink with
  | none => simp
  | some id =>
    simp only [samplesOf, List.mapIdx_eq_zipIdx_map, List.map_map, Option.elim_some]
    exact List.map_eq_flatMap.symm

variable [Processor M]

theorem opened_eq_afterAll (model : M) (flags : SessionFlags) (sink : Option SinkId) :
    opened model flags sink = (new model flags).afterAll (sink.toList.map .attach) := by
  cases sink <;> rfl

theorem hasClosed_of_isOver {model : M} {flags : SessionFlags} {sink : Option SinkId}
    (rs : List Request) (h : ((opened model flags sink).afterAll rs).phase.isOver = true) :
    HasClosed model ((opened model flags sink).afterAll rs) := by
  have howns := owns_afterAll model flags (sink.toList.map .attach ++ rs)
  rw [afterAll_append, ← opened_eq_afterAll] at howns
  cases howns with
  | holding hphase =>
    rw [h] at hphase
    cases hphase
  | ended _ hclosed => exact hclosed

end ByteBench.Session
