import ByteBench.Wave.Sample

/-!
# Sample channels

A channel hands samples on in the order in which they were sent. It has any number of senders and
one receiver. What it must do is said by `SampleChannel` and `LawfulChannel`, and `Channel` is one
that does so. A waveform holds one sender until it is closed, or until it finds that nobody
receives.
Main statements: `dump_of_closed` and `close_of_closed`, nothing happens to a closed waveform, and
`Channel` is lawful.
-/

namespace ByteBench

inductive Received
  | sample (s : Sample)
  | empty
  /-- Nothing is waiting, and nothing can come. -/
  | disconnected
  deriving DecidableEq

/-- What both ends of a channel can tell of it together. -/
structure ChannelState where
  /-- The samples that wait, the oldest first. -/
  waiting : List Sample
  senders : Nat
  receiving : Bool

class SampleChannel (C : Type) where
  new : C
  /-- Sends a sample, and tells whether it was taken. -/
  send : Sample → C → Bool × C
  /-- Receives a sample, without waiting for one. -/
  receive : C → Received × C
  dropSender : C → C
  dropReceiver : C → C
  state : C → ChannelState

section Laws

open SampleChannel

/-- A channel without bounds: every sample that is sent while there is a receiver is taken, and what
is taken is received in order, also after the last sender is gone. -/
class LawfulChannel (C : Type) [SampleChannel C] : Prop where
  state_new : state (new : C) = { waiting := [], senders := 1, receiving := true }
  send_of_receiving : ∀ (s : Sample) (c : C), (state c).receiving = true →
    (send s c).1 = true ∧
      state (send s c).2 = { state c with waiting := (state c).waiting ++ [s] }
  send_of_not_receiving : ∀ (s : Sample) (c : C), (state c).receiving = false →
    (send s c).1 = false ∧ state (send s c).2 = state c
  receive_of_cons : ∀ (s : Sample) (rest : List Sample) (c : C), (state c).waiting = s :: rest →
    (receive c).1 = .sample s ∧ state (receive c).2 = { state c with waiting := rest }
  receive_of_nil : ∀ c : C, (state c).waiting = [] →
    (receive c).1 = (if (state c).senders = 0 then .disconnected else .empty) ∧
      state (receive c).2 = state c
  state_dropSender : ∀ c : C,
    state (dropSender c) = { state c with senders := (state c).senders - 1 }
  /-- What was waiting for the receiver is given up with it. -/
  state_dropReceiver : ∀ c : C,
    state (dropReceiver c) = { state c with waiting := [], receiving := false }

end Laws

structure Channel where
  /-- The samples that wait, the oldest first. -/
  queue : Array Sample := #[]
  senders : Nat := 1
  receiving : Bool := true

namespace Channel

def send (s : Sample) (c : Channel) : Bool × Channel :=
  if c.receiving then (true, { c with queue := c.queue.push s }) else (false, c)

def receive (c : Channel) : Received × Channel :=
  -- what is waiting is received even after the last sender is gone
  match c.queue[0]? with
  | some s => (.sample s, { c with queue := c.queue.extract 1 })
  | none => (if c.senders = 0 then .disconnected else .empty, c)

def drain (c : Channel) : Array Sample × Channel := (c.queue, { c with queue := #[] })

def dropSender (c : Channel) : Channel := { c with senders := c.senders - 1 }

/-- Gives up the receiver, and what was waiting for it. -/
def dropReceiver (c : Channel) : Channel := { c with queue := #[], receiving := false }

def isDisconnected (c : Channel) : Bool := c.queue.isEmpty && c.senders == 0

instance : SampleChannel Channel where
  new := {}
  send := send
  receive := receive
  dropSender := dropSender
  dropReceiver := dropReceiver
  state c := { waiting := c.queue.toList, senders := c.senders, receiving := c.receiving }

variable {c : Channel}

theorem send_eq_of_receiving (s : Sample) (h : c.receiving = true) :
    c.send s = (true, { c with queue := c.queue.push s }) := by
  rw [send, if_pos h]

theorem send_eq_of_not_receiving (s : Sample) (h : c.receiving = false) :
    c.send s = (false, c) := by
  rw [send, if_neg (by simp [h])]

theorem receive_eq_of_nil (h : c.queue.toList = []) :
    c.receive = (if c.senders = 0 then .disconnected else .empty, c) := by
  have hnone : c.queue[0]? = none := by simp [← Array.getElem?_toList, h]
  rw [receive, hnone]

theorem receive_eq_of_cons {s : Sample} {rest : List Sample} (h : c.queue.toList = s :: rest) :
    c.receive = (.sample s, { c with queue := rest.toArray }) := by
  have hqueue : c.queue = (s :: rest).toArray := by rw [← h]
  have hrest : c.queue.extract 1 = rest.toArray := by simp [hqueue]
  have hsome : c.queue[0]? = some s := by simp [hqueue]
  rw [receive, hsome]
  simp only [hrest]

instance : LawfulChannel Channel where
  state_new := rfl
  send_of_receiving s c h := by
    have hsend : SampleChannel.send s c = c.send s := rfl
    rw [hsend, send_eq_of_receiving s h]
    simp [SampleChannel.state]
  send_of_not_receiving s c h := by
    have hsend : SampleChannel.send s c = c.send s := rfl
    rw [hsend, send_eq_of_not_receiving s h]
    simp
  receive_of_cons s rest c h := by
    have hreceive : SampleChannel.receive c = c.receive := rfl
    rw [hreceive, receive_eq_of_cons h]
    simp [SampleChannel.state]
  receive_of_nil c h := by
    have hreceive : SampleChannel.receive c = c.receive := rfl
    rw [hreceive, receive_eq_of_nil h]
    simp [SampleChannel.state]
  state_dropSender _ := rfl
  state_dropReceiver _ := rfl

end Channel

structure ChannelWave (C : Type := Channel) [SampleChannel C] where
  channel : C := SampleChannel.new
  isOpen : Bool := true

namespace ChannelWave

open SampleChannel

variable {C : Type} [SampleChannel C]

def close (w : ChannelWave C) : ChannelWave C :=
  if w.isOpen then { channel := dropSender w.channel, isOpen := false } else w

/-- Hands a sample to the waveform. A waveform closes itself when nobody receives. -/
def dump (s : Sample) (w : ChannelWave C) : ChannelWave C :=
  if w.isOpen then
    -- the waveform is taken apart first, so that its queue has one owner and grows in place
    let ⟨channel, _⟩ := w
    match send s channel with
    | (true, channel) => { channel, isOpen := true }
    | (false, channel) => { channel := dropSender channel, isOpen := false }
  else w

def withChannel (f : C → C) (w : ChannelWave C) : ChannelWave C :=
  { w with channel := f w.channel }

theorem dump_of_closed {w : ChannelWave C} (s : Sample) (h : w.isOpen = false) : w.dump s = w := by
  rw [dump, if_neg (by simp [h])]

theorem close_of_closed {w : ChannelWave C} (h : w.isOpen = false) : w.close = w := by
  rw [close, if_neg (by simp [h])]

@[simp] theorem isOpen_close (w : ChannelWave C) : w.close.isOpen = false := by
  unfold close
  split
  · rfl
  · next h => simpa using h

end ChannelWave

end ByteBench
