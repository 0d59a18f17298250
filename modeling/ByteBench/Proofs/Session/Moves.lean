import ByteBench.Proofs.Session.Outcome
import Mathlib.Logic.Relation

/-!
# Moves of a session

Within a phase a session does four things only: it sets pins, counts clock periods, asks its model
whether it has finished, and evaluates it. `Move` is one of these, and whatever a move keeps is kept
by every phase, in any session and with any model. Main statements: `drives_loadFrom`,
`drives_ticks`, `drives_readFrom` and `drives_finishWithin`, the loops of a session consist of moves
until something fails.
-/

namespace ByteBench

namespace Session

variable {M α β : Type}

/-! ### What a session tells its sink

Each of these takes its sink as an option, so that nobody has to ask whether there is one. -/

theorem evaluated_eq (outputs : Outputs) (s : Session M) :
    evaluated outputs s =
      { s with
        outputs
        time := s.time + 1
        posts := (s.sink.map fun id => Post.dump id ⟨s.time, s.pins, outputs⟩).toList ++
          s.posts } := by
  obtain ⟨model, isOpen, sink⟩ := s
  cases sink <;> rfl

theorem releaseSink_eq (s : Session M) :
    s.releaseSink =
      { s with sink := none, posts := (s.sink.map Post.close).toList ++ s.posts } := by
  obtain ⟨model, isOpen, sink⟩ := s
  cases sink <;> rfl

theorem attach_eq (id : SinkId) (s : Session M) :
    s.attach id =
      { s with sink := some id, posts := (s.sink.map Post.discard).toList ++ s.posts } := by
  obtain ⟨model, isOpen, sink⟩ := s
  cases sink <;> rfl

variable [Processor M]

theorem release_of_isOpen {s : Session M} (h : s.modelOpen = true) :
    s.release =
      { s with
        model := Processor.close s.model, modelOpen := false, sink := none
        calls := .close :: s.calls
        posts := (s.sink.map Post.close).toList ++ s.posts } := by
  rw [release, releaseModel, if_pos h, releaseSink_eq]

inductive Move : Session M → Session M → Prop
  | place (s : Session M) (pins : Pins) (cycles : Nat) : Move s (place s.phase pins cycles s)
  | ask (s : Session M) : Move s { s with calls := .finished :: s.calls }
  | evaluate {s : Session M} {outputs : Outputs} {model : M}
      (h : Processor.eval s.pins s.model = (.ok outputs, model)) :
      Move s (evaluated outputs { s with model, calls := .eval s.pins :: s.calls })

abbrev Moves : Session M → Session M → Prop := Relation.ReflTransGen Move

/-- How a phase fails: which error comes of it, and what is left of the session. -/
inductive Fails (s : Session M) : SessionError → Session M → Prop
  | fatal {cause : ModelError} {model : M}
      (h : Processor.eval s.pins s.model = (.error cause, model)) :
      Fails s (.fatal s.phase s.time cause)
        (abandon { s with model, calls := .eval s.pins :: s.calls })
  | noFinish (limit : Nat) : Fails s (.noFinish limit) s.abandon

/-- A session ends in moves, or in moves and a failure after them. -/
inductive Ends (s : Session M) : EStateM.Result SessionError (Session M) α → Prop
  | ok {t : Session M} (a : α) (h : Moves s t) : Ends s (.ok a t)
  | error {u t : Session M} {e : SessionError} (h : Moves s u) (hfails : Fails u e t) :
      Ends s (.error e t)

/-- An action that does nothing but move. -/
def Drives (x : Action M α) : Prop := ∀ s : Session M, Ends s (x s)

theorem Ends.of_moves {s t : Session M} {result : EStateM.Result SessionError (Session M) α}
    (hst : Moves s t) (h : Ends t result) : Ends s result := by
  cases h with
  | ok a h => exact .ok a (hst.trans h)
  | error h hfails => exact .error (hst.trans h) hfails

theorem Drives.bind {x : Action M α} {g : α → Action M β} (hx : Drives x)
    (hg : ∀ a, Drives (g a)) : Drives (x >>= g) := by
  intro s
  have hs := hx s
  cases h : x s with
  | ok a t =>
    rw [h] at hs
    rw [bind_of_ok h]
    cases hs with
    | ok _ hmoves => exact (hg a t).of_moves hmoves
  | error e t =>
    rw [h] at hs
    rw [bind_of_error h]
    cases hs with
    | error hmoves hfails => exact .error hmoves hfails

theorem drives_pure (a : α) : Drives (pure a : Action M α) := fun _ => .ok a .refl

theorem drives_modify {f : Session M → Session M} (h : ∀ s, Move s (f s)) :
    Drives (modify f) := fun s => .ok () (.single (h s))

theorem drives_setPins (f : Pins → Pins) : Drives (setPins f : Action M Unit) :=
  drives_modify fun s => .place s (f s.pins) s.cycles

theorem drives_askFinished : Drives (askFinished : Action M Bool) :=
  fun s => .ok (Processor.finished s.model) (.single (.ask s))

theorem drives_evaluate : Drives (evaluate : Action M Unit) := by
  intro s
  cases h : Processor.eval s.pins s.model with
  | mk answer model =>
    cases answer with
    | ok outputs =>
      rw [evaluate_of_ok h]
      exact .ok () (.single (.evaluate h))
    | error cause =>
      rw [evaluate_of_error h]
      exact .error .refl (.fatal h)

theorem drives_tick : Drives (tick : Action M Unit) := by
  rw [tick_def]
  apply (drives_setPins _).bind
  intro _
  apply drives_evaluate.bind
  intro _
  apply (drives_setPins _).bind
  intro _
  apply drives_evaluate.bind
  intro _
  exact drives_modify fun s => .place s s.pins (s.cycles + 1)

theorem drives_ticks (n : Nat) : Drives (ticks n : Action M Unit) := by
  induction n with
  | zero => exact drives_pure ()
  | succ n ih => exact drives_tick.bind fun _ => ih

theorem drives_loadFrom (address : UInt16) (words : List UInt8) :
    Drives (loadFrom address words : Action M Unit) := by
  induction words generalizing address with
  | nil => exact drives_pure ()
  | cons word words ih =>
    apply (drives_setPins _).bind
    intro _
    apply drives_tick.bind
    intro _
    exact ih (address + 1)

theorem drives_get {g : Session M → Action M α} (h : ∀ s, Drives (g s)) :
    Drives (get >>= g) := fun s => h s s

theorem drives_readFrom (cycle : UInt16) (seen : List TraceEntry) (n : Nat) :
    Drives (readFrom cycle seen n : Action M (List TraceEntry)) := by
  induction n generalizing cycle seen with
  | zero => exact drives_pure seen.reverse
  | succ n ih =>
    apply drives_tick.bind
    intro _
    apply (drives_setPins _).bind
    intro _
    apply drives_get
    intro s
    exact ih (cycle + 1) (⟨cycle, s.outputs.dataOut⟩ :: seen)

theorem drives_finishWithin (limit n : Nat) : Drives (finishWithin limit n : Action M Unit) := by
  induction n with
  | zero =>
    apply drives_askFinished.bind
    intro finished
    cases finished with
    | true => exact drives_pure ()
    | false => exact fun s => .error .refl (.noFinish limit)
  | succ n ih =>
    apply drives_askFinished.bind
    intro finished
    cases finished with
    | true => exact drives_pure ()
    | false => exact drives_evaluate.bind fun _ => ih

/-- What a move keeps is kept by moves. -/
theorem Moves.keeps {P : Session M → Prop} {s t : Session M} (h : Moves s t) (hs : P s)
    (hmove : ∀ {s t}, Move s t → P s → P t) : P t := by
  induction h with
  | refl => exact hs
  | tail _ h ih => exact hmove h ih

theorem Move.phase_eq {s t : Session M} (h : Move s t) : t.phase = s.phase := by
  cases h with
  | place | ask => rfl
  | evaluate => rw [evaluated_eq]

theorem Moves.phase_eq {s t : Session M} (h : Moves s t) : t.phase = s.phase :=
  h.keeps (P := (·.phase = s.phase)) rfl fun hmove hs => hmove.phase_eq.trans hs

end Session

end ByteBench
