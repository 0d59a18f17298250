import ByteBench.Session.Request
import ByteBench.Wave.Buffer
import ByteBench.Wave.Channel

/-!
# Benches

A bench is a session with the sinks that were made for it. The sinks have other ends, which stay in
use between requests: buffers are read and guarded, channels are received from or given up. What the
session told its sinks is delivered after every request.
-/

namespace ByteBench

inductive Sink
  /-- A buffer, to which the session holds one handle. -/
  | buffer (b : Buffer)
  /-- A channel, with the samples that were taken out of it. -/
  | channel (w : ChannelWave) (taken : Array Sample)

namespace Sink

inductive Kind
  | buffered | channel
  deriving DecidableEq

def new : Kind → Sink
  | .buffered => buffer {}
  | .channel => channel {} #[]

def dump (s : Sample) : Sink → Sink
  | buffer b => buffer (b.dump 0 s)
  | channel w taken => channel (w.dump s) taken

def close : Sink → Sink
  | buffer b => buffer (b.close 0)
  | channel w taken => channel w.close taken

/-- Lets go of a sink. A channel loses its sender either way. -/
def discard : Sink → Sink
  -- the samples stay where they are, and the handle is not closed
  | buffer b => buffer b
  | channel w taken => channel w.close taken

def guardWith (f : Buffer → Buffer) : Sink → Sink
  | buffer b => buffer (f b)
  | channel w taken => channel w taken

def dropReceiver : Sink → Sink
  | buffer b => buffer b
  | channel w taken => channel (w.withChannel Channel.dropReceiver) taken

def collect : Sink → Sink
  | buffer b => buffer b
  | channel w taken =>
    let (waiting, c) := w.channel.drain
    channel { w with channel := c } (taken ++ waiting)

/-- The samples that arrived, as far as they have been collected. -/
def samples : Sink → Array Sample
  | buffer b => b.samples
  | channel _ taken => taken

/-- Whether no more samples can come, where somebody still receives them. -/
def disconnected? : Sink → Option Bool
  | buffer _ => none
  | channel w _ => if w.channel.receiving then some w.channel.isDisconnected else none

end Sink

structure Bench (M : Type) where
  session : Session M
  dropped : Bool := false
  /-- The sinks; their indices are their numbers. -/
  sinks : Array Sink := #[]
  /-- The sinks on which a guard is held, the newest first. -/
  guarded : List SinkId := []

namespace Bench

variable {M : Type}

def deliver (sinks : Array Sink) : Post → Array Sink
  | .dump id s => sinks.modify id (Sink.dump s)
  | .close id => sinks.modify id Sink.close
  | .discard id => sinks.modify id Sink.discard

def deliverAll (b : Bench M) : Bench M :=
  -- posts are kept newest first, and are delivered in the order in which they were made
  { b with
    session := { b.session with posts := [] }
    sinks := b.session.posts.reverse.foldl deliver b.sinks }

/-- Holds a guard to read a buffer. Where there is no buffer there is nothing to guard. -/
def hold (id : SinkId) (b : Bench M) : Bench M :=
  match b.sinks[id]? with
  | some (.buffer _) =>
    { b with
      sinks := b.sinks.modify id (Sink.guardWith (Buffer.hold .reading))
      guarded := id :: b.guarded }
  | _ => b

def unhold (b : Bench M) : Bench M :=
  match b.guarded with
  | [] => b
  | id :: guarded =>
    { b with sinks := b.sinks.modify id (Sink.guardWith Buffer.release), guarded }

def dropReceiver (id : SinkId) (b : Bench M) : Bench M :=
  { b with sinks := b.sinks.modify id Sink.dropReceiver }

def collect (id : SinkId) (b : Bench M) : Bench M :=
  { b with sinks := b.sinks.modify id Sink.collect }

def withModel (f : M → M) (b : Bench M) : Bench M :=
  { b with session := { b.session with model := f b.session.model } }

variable [Processor M]

def request (r : Request) (b : Bench M) : Except SessionError Reply × Bench M :=
  let (answer, session) := b.session.answer r
  (answer, { b with session }.deliverAll)

def attachNew (kind : Sink.Kind) (b : Bench M) : Bench M :=
  let id := b.sinks.size
  (request (.attach id) { b with sinks := b.sinks.push (.new kind) }).2

/-- Gives up the session, which releases what it still holds. A second time changes nothing. -/
def drop (b : Bench M) : Bench M :=
  if b.dropped then b
  else { b with session := b.session.release, dropped := true }.deliverAll

end Bench

end ByteBench
