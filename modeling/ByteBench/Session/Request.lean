import ByteBench.Session.Phases

/-!
# Requests to a session

Everything that can be asked of a session, as one type, so that one can speak of any sequence of
requests.
-/

namespace ByteBench

inductive Request
  | reset
  | load (p : Program)
  | run
  | readback
  | execute (p : Program)
  | runUntilFinish
  | setFlags (flags : SessionFlags)
  | attach (sink : SinkId)

/-- What a session answers to a request that it carries out. -/
inductive Reply
  | done
  | trace (t : Trace)
  | evaluations (n : Nat)

namespace Session

variable {M : Type} [Processor M]

def perform : Request → Action M Reply
  | .reset => do
    reset
    pure .done
  | .load p => do
    load p
    pure .done
  | .run => do
    run
    pure .done
  | .readback => return .trace (← readback)
  | .execute p => return .trace (← execute p)
  | .runUntilFinish => return .evaluations (← runUntilFinish)
  | .setFlags flags => do
    modify fun s => { s with flags }
    pure .done
  | .attach sink => do
    modify (attach sink)
    pure .done

/-- Carries out a request, and gives both the answer and the session afterwards. -/
def answer (s : Session M) (r : Request) : Except SessionError Reply × Session M :=
  match perform r s with
  | .ok reply s => (.ok reply, s)
  | .error error s => (.error error, s)

def after (s : Session M) (r : Request) : Session M := (s.answer r).2

def afterAll (s : Session M) (rs : List Request) : Session M := rs.foldl after s

end Session

end ByteBench
