import ByteBench.Session.Request

/-!
# What the phases of a session are made of

A phase looks at the session, sets pins, and does clock periods or evaluations, one thing after the
other. Main statements: `Inherited.perform` and `Inherited.runUntilFinish`, a property that these
steps have, and that goes over from two actions to one after the other, is a property of every
phase.
-/

namespace ByteBench.Session

variable {M : Type} [Processor M]

/-- A property that actions have if their steps have it. What the model is asked is not among the
steps, as properties differ in what they say of it. -/
structure Inherited (P : (α : Type) → Action M α → Prop) : Prop where
  pure : ∀ {α : Type} (a : α), P α (pure a)
  bind : ∀ {α β : Type} {x : Action M α} {g : α → Action M β},
    P α x → (∀ a, P β (g a)) → P β (x >>= g)
  throw : ∀ e : SessionError, P Unit (throw e)
  /-- Of the session only these are looked at. -/
  look : ∀ {α : Type} {g : Phase → SessionFlags → Outputs → Nat → Action M α},
    (∀ phase flags outputs time, P α (g phase flags outputs time)) →
      P α (get >>= fun s => g s.phase s.flags s.outputs s.time)
  enter : ∀ phase : Phase, P Unit (enter phase)
  setFlags : ∀ flags : SessionFlags, P Unit (modify fun s => { s with flags })
  /-- The clock is left to the clock periods. -/
  setPins : ∀ {f : Pins → Pins}, (∀ p, (f p).clock = p.clock) → P Unit (setPins f)
  complete : P Unit complete

namespace Inherited

variable {P : (α : Type) → Action M α → Prop} {α : Type} {x : Action M α} {r : Request}

theorem setPins_bind {f : Pins → Pins} (h : Inherited P) (hf : ∀ p, (f p).clock = p.clock)
    (hx : P α x) : P α (Session.setPins f >>= fun _ => x) := h.bind (h.setPins hf) fun _ => hx

theorem enter_bind (h : Inherited P) (phase : Phase) (hx : P α x) :
    P α (Session.enter phase >>= fun _ => x) := h.bind (h.enter phase) fun _ => hx

theorem expectPhase_bind (h : Inherited P) (phase : Phase) (hx : P α x) :
    P α (expectPhase phase >>= fun _ => x) := by
  have hexpect : P Unit (expectPhase phase) := by
    refine h.look (g := fun found _ _ _ => if found = phase then Pure.pure () else
      (MonadExcept.throw (SessionError.phaseOrder phase found) : Action M Unit)) ?_
    intro found _ _ _
    split
    · exact h.pure ()
    · exact h.throw _
  exact h.bind hexpect fun _ => hx

theorem ticks (h : Inherited P) (htick : P Unit tick) (n : Nat) : P Unit (Session.ticks n) := by
  induction n with
  | zero => exact h.pure ()
  | succ n ih => exact h.bind htick fun _ => ih

theorem loadFrom (h : Inherited P) (htick : P Unit tick) (address : UInt16) (words : List UInt8) :
    P Unit (Session.loadFrom address words) := by
  induction words generalizing address with
  | nil => exact h.pure ()
  | cons word words ih =>
    refine h.setPins_bind (fun _ => rfl) ?_
    exact h.bind htick fun _ => ih (address + 1)

theorem readFrom (h : Inherited P) (htick : P Unit tick) (cycle : UInt16) (seen : List TraceEntry)
    (n : Nat) : P (List TraceEntry) (Session.readFrom cycle seen n) := by
  induction n generalizing cycle seen with
  | zero => exact h.pure seen.reverse
  | succ n ih =>
    refine h.bind htick fun _ => ?_
    refine h.setPins_bind (fun _ => rfl) ?_
    exact h.look fun _ _ outputs _ => ih (cycle + 1) (⟨cycle, outputs.dataOut⟩ :: seen)

theorem reset (h : Inherited P) (htick : P Unit tick) : P Unit Session.reset := by
  refine h.expectPhase_bind .idle ?_
  refine h.enter_bind .reset ?_
  refine h.setPins_bind (fun _ => rfl) ?_
  exact h.bind htick fun _ => h.setPins fun _ => rfl

theorem load (h : Inherited P) (htick : P Unit tick) (p : Program) : P Unit (Session.load p) := by
  have hbody : P Unit (Session.enter .load >>= fun _ => Session.loadFrom 0 p.words >>= fun _ =>
      Session.setPins ({ · with writeEnable := false })) := by
    refine h.enter_bind .load ?_
    exact h.bind (h.loadFrom htick 0 p.words) fun _ => h.setPins fun _ => rfl
  refine h.expectPhase_bind .reset ?_
  split
  · exact h.bind (h.throw _) fun _ => hbody
  · exact hbody

theorem run (h : Inherited P) (htick : P Unit tick) : P Unit Session.run := by
  refine h.expectPhase_bind .load ?_
  refine h.enter_bind .run ?_
  refine h.setPins_bind (fun _ => rfl) ?_
  exact h.look fun _ flags _ _ => h.ticks htick flags.runCycles.toNat

theorem readback (h : Inherited P) (htick : P Unit tick) : P Trace Session.readback := by
  refine h.expectPhase_bind .run ?_
  refine h.enter_bind .readback ?_
  refine h.setPins_bind (fun _ => rfl) ?_
  refine h.look (g := fun _ flags _ _ => Session.readFrom 0 [] flags.readbackCycles.toNat >>=
    fun entries => Session.complete >>= fun _ => (Pure.pure (Trace.mk entries) : Action M Trace)) ?_
  intro _ flags _ _
  refine h.bind (h.readFrom htick 0 [] flags.readbackCycles.toNat) fun _ => ?_
  exact h.bind h.complete fun _ => h.pure _

/-- Whatever is asked for, but for a sink and for a run until the model has finished. -/
theorem perform (h : Inherited P) (htick : P Unit tick) (hfinish : r ≠ .runUntilFinish)
    (hattach : ∀ id, r ≠ .attach id) : P Reply (Session.perform r) := by
  cases r with
  | reset => exact h.bind (h.reset htick) fun _ => h.pure _
  | load p => exact h.bind (h.load htick p) fun _ => h.pure _
  | run => exact h.bind (h.run htick) fun _ => h.pure _
  | readback => exact h.bind (h.readback htick) fun _ => h.pure _
  | execute p =>
    have hexecute : P Trace (execute p) := by
      refine h.bind (h.reset htick) fun _ => ?_
      refine h.bind (h.load htick p) fun _ => ?_
      exact h.bind (h.run htick) fun _ => h.readback htick
    exact h.bind hexecute fun _ => h.pure _
  | runUntilFinish => exact absurd rfl hfinish
  | setFlags flags => exact h.bind (h.setFlags flags) fun _ => h.pure _
  | attach id => exact absurd rfl (hattach id)

theorem finishWithin (h : Inherited P) (hevaluate : P Unit evaluate) (hasked : P Bool askFinished)
    (habandon : P Unit (modify abandon)) (limit n : Nat) :
    P Unit (Session.finishWithin limit n) := by
  induction n with
  | zero =>
    refine h.bind hasked fun finished => ?_
    cases finished with
    | true => exact h.pure ()
    | false => exact h.bind habandon fun _ => h.throw _
  | succ n ih =>
    refine h.bind hasked fun finished => ?_
    cases finished with
    | true => exact h.pure ()
    | false => exact h.bind hevaluate fun _ => ih

theorem runUntilFinish (h : Inherited P) (hevaluate : P Unit evaluate)
    (hasked : P Bool askFinished) (habandon : P Unit (modify abandon)) :
    P Reply (Session.perform .runUntilFinish) := by
  have hrun : P Nat Session.runUntilFinish := by
    refine h.expectPhase_bind .idle ?_
    refine h.enter_bind .run ?_
    refine h.look (g := fun _ flags _ start =>
      Session.finishWithin flags.finishLimit.toNat flags.finishLimit.toNat >>= fun _ =>
      Session.complete >>= fun _ =>
      get >>= fun s => (Pure.pure (s.time - start) : Action M Nat)) ?_
    intro _ flags _ start
    refine h.bind (h.finishWithin hevaluate hasked habandon _ _) fun _ => ?_
    refine h.bind h.complete fun _ => ?_
    exact h.look fun _ _ _ time => h.pure (time - start)
  exact h.bind hrun fun _ => h.pure _

end Inherited

end ByteBench.Session
