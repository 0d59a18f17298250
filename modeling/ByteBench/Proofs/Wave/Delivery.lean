import ByteBench.Wave.Channel

/-!
# What a channel delivers

A waveform is fed and closed at one end of its channel, and at the other end samples are taken out or
the receiver is given up, in any order. The channel may be any lawful one. Main statements:
`Kept.step`, what each event does to the samples on their way, and `delivers_after`, what was
received and what is still to come after any events.
-/

namespace ByteBench

def Received.sample? : Received → Option Sample
  | .sample s => some s
  | .empty | .disconnected => none

namespace ChannelWave

open SampleChannel LawfulChannel

inductive Event
  | dump (s : Sample)
  | close
  | receive
  | dropReceiver
  deriving DecidableEq

/-- A waveform, and what was taken out of its channel, the oldest first. -/
structure Exchange (C : Type) [SampleChannel C] where
  wave : ChannelWave C := {}
  received : List Sample := []

namespace Exchange

variable {C : Type} [SampleChannel C]

def channelState (x : Exchange C) : ChannelState := state x.wave.channel

@[simp] theorem channelState_mk (channel : C) (isOpen : Bool) (received : List Sample) :
    channelState ⟨⟨channel, isOpen⟩, received⟩ = state channel := rfl

/-- What the receiver would be told if it asked for a sample. -/
def answer (x : Exchange C) : Received := (receive x.wave.channel).1

/-- Where the receiver was given up nothing waits, so that nothing is received. -/
def step (x : Exchange C) : Event → Exchange C
  | .dump s => { x with wave := x.wave.dump s }
  | .close => { x with wave := x.wave.close }
  | .receive =>
    let (answer, channel) := receive x.wave.channel
    { wave := { x.wave with channel }, received := x.received ++ answer.sample?.toList }
  | .dropReceiver => { x with wave := x.wave.withChannel dropReceiver }

/-- What some events lead to. The newest event is the first. -/
def after (past : List Event) (x : Exchange C) : Exchange C := past.foldr (fun e x => x.step e) x

end Exchange

def dumpedBeforeClose : List Event → List Sample
  | [] => []
  | .dump s :: past => dumpedBeforeClose past ++ if .close ∈ past then [] else [s]
  | .close :: past | .receive :: past | .dropReceiver :: past => dumpedBeforeClose past

/-- A sample was dumped after the receiver was given up. -/
def DumpedUnheard : List Event → Prop
  | [] => False
  | .dump _ :: past => .dropReceiver ∈ past ∨ DumpedUnheard past
  | .close :: past | .receive :: past | .dropReceiver :: past => DumpedUnheard past

/-- What holds of an exchange that the events `past` have led to. -/
structure Delivers {C : Type} [SampleChannel C] (past : List Event) (x : Exchange C) : Prop where
  receiving_iff : x.channelState.receiving = true ↔ .dropReceiver ∉ past
  received_append : x.channelState.receiving = true →
    x.received ++ x.channelState.waiting = dumpedBeforeClose past
  isOpen_iff : x.wave.isOpen = true ↔ .close ∉ past ∧ ¬ DumpedUnheard past
  sample_iff : ∀ s, x.answer = .sample s ↔ x.channelState.waiting.head? = some s
  empty_iff : x.answer = .empty ↔ x.wave.isOpen = true ∧ x.channelState.waiting = []
  disconnected_iff : x.answer = .disconnected ↔
    x.wave.isOpen = false ∧ x.channelState.waiting = []
  unheard : x.channelState.receiving = false → ∀ s, (x.step (.dump s)).wave.isOpen = false
  closed_forever : x.wave.isOpen = false → ∀ later, (x.after later).wave.isOpen = false ∧
    ∀ s, (x.after later).step (.dump s) = x.after later
  close_again : (x.step .close).step .close = x.step .close

variable {C : Type} [SampleChannel C] {w : ChannelWave C} {x x' : Exchange C} {e : Event}
  {past : List Event} {s : Sample}

theorem close_of_open (h : w.isOpen = true) :
    w.close = { channel := dropSender w.channel, isOpen := false } := by
  rw [close, if_pos h]

theorem dump_of_open (s : Sample) (h : w.isOpen = true) :
    w.dump s =
      if (send s w.channel).1 then { channel := (send s w.channel).2, isOpen := true }
      else { channel := dropSender (send s w.channel).2, isOpen := false } := by
  obtain ⟨channel, isOpen⟩ := w
  cases h
  rw [dump, if_pos rfl]
  rcases send s channel with ⟨_ | _, c⟩ <;> rfl

theorem step_dump_of_closed (s : Sample) (h : x.wave.isOpen = false) : x.step (.dump s) = x := by
  rw [Exchange.step, dump_of_closed s h]

theorem step_close_of_closed (h : x.wave.isOpen = false) : x.step .close = x := by
  rw [Exchange.step, close_of_closed h]

/-- What an event does. A sample that nobody receives closes the waveform, and one that comes to a
closed waveform does nothing. -/
inductive Step (x : Exchange C) : Event → Exchange C → Prop
  | sent {s : Sample} {c : C} (hopen : x.wave.isOpen = true)
      (hreceiving : x.channelState.receiving = true)
      (hc : state c = { x.channelState with waiting := x.channelState.waiting ++ [s] }) :
      Step x (.dump s) { x with wave := { channel := c, isOpen := true } }
  | unheard {s : Sample} {c : C} (hopen : x.wave.isOpen = true)
      (hreceiving : x.channelState.receiving = false)
      (hc : state c = { x.channelState with senders := x.channelState.senders - 1 }) :
      Step x (.dump s) { x with wave := { channel := c, isOpen := false } }
  | lost {s : Sample} (hclosed : x.wave.isOpen = false) : Step x (.dump s) x
  | closed {c : C} (hopen : x.wave.isOpen = true)
      (hc : state c = { x.channelState with senders := x.channelState.senders - 1 }) :
      Step x .close { x with wave := { channel := c, isOpen := false } }
  | closedAgain (hclosed : x.wave.isOpen = false) : Step x .close x
  | taken {s : Sample} {rest : List Sample} {c : C} (h : x.channelState.waiting = s :: rest)
      (hc : state c = { x.channelState with waiting := rest }) :
      Step x .receive
        { wave := { x.wave with channel := c }, received := x.received ++ [s] }
  | missed {c : C} (h : x.channelState.waiting = []) (hc : state c = x.channelState) :
      Step x .receive { x with wave := { x.wave with channel := c } }
  | dropped {c : C} (hc : state c = { x.channelState with waiting := [], receiving := false }) :
      Step x .dropReceiver { x with wave := { x.wave with channel := c } }

theorem step_dump_of_open [LawfulChannel C] (s : Sample) (hopen : x.wave.isOpen = true) :
    Step x (.dump s) (x.step (.dump s)) := by
  rw [Exchange.step, dump_of_open s hopen]
  cases hreceiving : x.channelState.receiving with
  | true =>
    obtain ⟨hsent, hstate⟩ := send_of_receiving s _ hreceiving
    rw [if_pos hsent]
    exact .sent hopen hreceiving hstate
  | false =>
    obtain ⟨hsent, hstate⟩ := send_of_not_receiving s _ hreceiving
    rw [if_neg (by simp [hsent])]
    exact .unheard hopen hreceiving (by rw [state_dropSender, hstate, Exchange.channelState])

theorem step_receive [LawfulChannel C] (x : Exchange C) : Step x .receive (x.step .receive) := by
  have hstep : x.step .receive =
      { wave := { x.wave with channel := (receive x.wave.channel).2 }
        received := x.received ++ (receive x.wave.channel).1.sample?.toList } := rfl
  rw [hstep]
  cases h : x.channelState.waiting with
  | nil =>
    obtain ⟨hanswer, hstate⟩ := receive_of_nil _ h
    have hnone : (receive x.wave.channel).1.sample? = none := by
      rw [hanswer]
      split <;> rfl
    rw [hnone, Option.toList_none, List.append_nil]
    exact .missed h hstate
  | cons s rest =>
    obtain ⟨hanswer, hstate⟩ := receive_of_cons s rest _ h
    rw [hanswer]
    exact .taken h hstate

theorem step_step [LawfulChannel C] (x : Exchange C) (e : Event) : Step x e (x.step e) := by
  cases e with
  | dropReceiver => exact .dropped (state_dropReceiver _)
  | receive => exact step_receive x
  | close =>
    cases hopen : x.wave.isOpen with
    | true =>
      rw [Exchange.step, close_of_open hopen]
      exact .closed hopen (state_dropSender _)
    | false =>
      rw [step_close_of_closed hopen]
      exact .closedAgain hopen
  | dump s =>
    cases hopen : x.wave.isOpen with
    | true => exact step_dump_of_open s hopen
    | false =>
      rw [step_dump_of_closed s hopen]
      exact .lost hopen

/-- What every event keeps. A waveform holds the one sender there is as long as it is open. -/
structure Kept (past : List Event) (x : Exchange C) : Prop where
  senders_eq : x.channelState.senders = if x.wave.isOpen then 1 else 0
  receiving_iff : x.channelState.receiving = true ↔ .dropReceiver ∉ past
  isOpen_iff : x.wave.isOpen = true ↔ .close ∉ past ∧ ¬ DumpedUnheard past
  received_append : x.channelState.receiving = true →
    x.received ++ x.channelState.waiting = dumpedBeforeClose past

theorem kept_nil [LawfulChannel C] : Kept [] ({} : Exchange C) := by
  have hstate : ({} : Exchange C).channelState = { waiting := [], senders := 1, receiving := true } :=
    state_new
  refine ⟨?_, ?_, ?_, ?_⟩
  · simp [hstate]
  · simp [hstate]
  · simp [DumpedUnheard]
  · simp [hstate, dumpedBeforeClose]

theorem dropReceiver_mem_of_unheard (h : DumpedUnheard past) : .dropReceiver ∈ past := by
  fun_induction DumpedUnheard past with
  | case1 => exact h.elim
  | case2 s past ih => exact List.mem_cons_of_mem _ (h.elim id ih)
  | case3 past ih | case4 past ih | case5 past ih => exact List.mem_cons_of_mem _ (ih h)

/-- As long as there is a receiver, only closing closes. -/
theorem Kept.isOpen_iff_of_receiving (h : Kept past x)
    (hreceiving : x.channelState.receiving = true) : x.wave.isOpen = true ↔ .close ∉ past := by
  have hheard : ¬ DumpedUnheard past :=
    mt dropReceiver_mem_of_unheard (h.receiving_iff.mp hreceiving)
  rw [h.isOpen_iff, and_iff_left hheard]

theorem Kept.step (h : Kept past x) (hstep : Step x e x') : Kept (e :: past) x' := by
  have hsenders := h.senders_eq
  have hreceiver := h.receiving_iff
  have hopening := h.isOpen_iff
  have happend := h.received_append
  cases hstep with
  | @sent s c hopen hreceiving hc =>
    obtain ⟨hclose, hheard⟩ := hopening.mp hopen
    have hdrop := hreceiver.mp hreceiving
    rw [if_pos hopen] at hsenders
    refine ⟨?_, ?_, ?_, fun _ => ?_⟩
    · simp [hc, ← hsenders]
    · simpa [hc] using hreceiver
    · simp [DumpedUnheard, hclose, hheard, hdrop]
    · rw [dumpedBeforeClose, if_neg hclose, ← happend hreceiving]
      simp [hc]
  | @unheard s c hopen hreceiving hc =>
    have hdrop : .dropReceiver ∈ past := by
      rwa [← Bool.not_eq_true, hreceiver, Decidable.not_not] at hreceiving
    rw [if_pos hopen] at hsenders
    refine ⟨?_, ?_, ?_, ?_⟩
    · simp [hc, hsenders]
    · simpa [hc] using hreceiver
    · simp [DumpedUnheard, hdrop]
    · intro hagain
      simp [hc, hreceiving] at hagain
  | @lost s hclosed =>
    refine ⟨hsenders, by simpa using hreceiver, ?_, fun hreceiving => ?_⟩
    · have hnot : ¬ (.close ∉ past ∧ ¬ DumpedUnheard past) := by simp [← hopening, hclosed]
      rw [hclosed, DumpedUnheard]
      simp only [Bool.false_eq_true, false_iff]
      rintro ⟨hclose, hunheard⟩
      exact hnot ⟨fun h => hclose (List.mem_cons_of_mem _ h), fun h => hunheard (Or.inr h)⟩
    · have hclose : .close ∈ past := by
        rwa [← Bool.not_eq_true, h.isOpen_iff_of_receiving hreceiving, Decidable.not_not] at hclosed
      rw [dumpedBeforeClose, if_pos hclose, List.append_nil]
      exact happend hreceiving
  | @closed c hopen hc =>
    rw [if_pos hopen] at hsenders
    refine ⟨?_, ?_, by simp, ?_⟩
    · simp [hc, hsenders]
    · simpa [hc] using hreceiver
    · simpa [hc, dumpedBeforeClose] using happend
  | closedAgain hclosed =>
    exact ⟨hsenders, by simpa using hreceiver, by simp [hclosed], happend⟩
  | @taken s rest c hwaiting hc =>
    refine ⟨?_, ?_, by simpa [DumpedUnheard] using hopening, ?_⟩
    · simpa [hc] using hsenders
    · simpa [hc] using hreceiver
    · rw [hwaiting] at happend
      simpa [hc, dumpedBeforeClose] using happend
  | @missed c hwaiting hc =>
    refine ⟨?_, ?_, by simpa [DumpedUnheard] using hopening, ?_⟩
    · simpa [hc] using hsenders
    · simpa [hc] using hreceiver
    · simpa [hc, dumpedBeforeClose] using happend
  | @dropped c hc =>
    refine ⟨?_, ?_, by simpa [DumpedUnheard] using hopening, ?_⟩
    · simpa [hc] using hsenders
    · simp [hc]
    · simp [hc]

theorem Step.isOpen_eq_false (hstep : Step x e x') (h : x.wave.isOpen = false) :
    x'.wave.isOpen = false := by
  cases hstep with
  | sent hopen =>
    rw [hopen] at h
    cases h
  | unheard | closed => rfl
  | lost | closedAgain | taken | missed | dropped => exact h

section Lawful

variable [LawfulChannel C]

theorem kept_after (past : List Event) : Kept past (Exchange.after past ({} : Exchange C)) := by
  induction past with
  | nil => exact kept_nil
  | cons e past ih => exact ih.step (step_step _ e)

theorem isOpen_after (later : List Event) (h : x.wave.isOpen = false) :
    (x.after later).wave.isOpen = false := by
  induction later with
  | nil => exact h
  | cons e later ih => exact (step_step _ e).isOpen_eq_false ih

/-- The oldest sample that waits is received. Where none waits, it is asked whether one can come. -/
theorem Kept.answer_eq (h : Kept past x) :
    x.answer =
      match x.channelState.waiting with
      | s :: _ => .sample s
      | [] => if x.wave.isOpen then .empty else .disconnected := by
  cases hwaiting : x.channelState.waiting with
  | cons s rest => exact (receive_of_cons s rest _ hwaiting).1
  | nil =>
    have hsenders : (state x.wave.channel).senders = if x.wave.isOpen then 1 else 0 := h.senders_eq
    rw [Exchange.answer, (receive_of_nil _ hwaiting).1, hsenders]
    cases x.wave.isOpen <;> rfl

theorem step_dump_of_not_receiving (s : Sample) (h : x.channelState.receiving = false) :
    (x.step (.dump s)).wave.isOpen = false := by
  cases hopen : x.wave.isOpen with
  | true =>
    obtain ⟨hsent, -⟩ := send_of_not_receiving s _ h
    rw [Exchange.step, dump_of_open s hopen, if_neg (by simp [hsent])]
  | false =>
    rw [step_dump_of_closed s hopen]
    exact hopen

theorem delivers_after (C : Type) [SampleChannel C] [LawfulChannel C] (past : List Event) :
    Delivers past (Exchange.after past ({} : Exchange C)) := by
  obtain ⟨x, hx⟩ : ∃ x, Exchange.after past ({} : Exchange C) = x := ⟨_, rfl⟩
  have hkept : Kept past x := by
    rw [← hx]
    exact kept_after past
  rw [hx]
  constructor
  case receiving_iff => exact hkept.receiving_iff
  case received_append => exact hkept.received_append
  case isOpen_iff => exact hkept.isOpen_iff
  case sample_iff =>
    intro s
    rw [hkept.answer_eq]
    cases x.channelState.waiting <;> cases x.wave.isOpen <;> simp
  case empty_iff =>
    rw [hkept.answer_eq]
    cases x.channelState.waiting <;> cases x.wave.isOpen <;> simp
  case disconnected_iff =>
    rw [hkept.answer_eq]
    cases x.channelState.waiting <;> cases x.wave.isOpen <;> simp
  case unheard => exact fun h s => step_dump_of_not_receiving s h
  case closed_forever =>
    intro h later
    have hclosed := isOpen_after later h
    exact ⟨hclosed, fun s => step_dump_of_closed s hclosed⟩
  case close_again => exact step_close_of_closed (isOpen_close _)

end Lawful

/-- One sample is taken, and the next one comes when the receiver has been given up. -/
theorem delivers_after_channel :
    LawfulChannel Channel ∧
      Delivers [.close, .dump { time := 1 }, .dropReceiver, .receive, .dump { time := 0 }]
        (Exchange.after [.close, .dump { time := 1 }, .dropReceiver, .receive, .dump { time := 0 }]
          ({} : Exchange Channel)) :=
  ⟨inferInstance, delivers_after Channel _⟩

example (s t u : Sample) :
    (Exchange.after [.receive, .dump u, .close, .receive, .dump t, .dump s]
      ({} : Exchange Channel)).received = [s, t] :=
  rfl

end ChannelWave

end ByteBench
