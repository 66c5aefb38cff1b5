import FleetFeed.Session.Frame

/-! One subscription over one socket: what each event at the socket makes of the state, and what is to be done. -/
namespace FleetFeed.Session

open Json Graphql

inductive Phase where
  /-- The socket is not open yet. -/
  | connecting
  /-- The first frame was sent, its acknowledgement is awaited. -/
  | awaitingAck
  /-- The subscription was sent. -/
  | streaming
  /-- The server ended the subscription. -/
  | completed
  /-- The socket is closed. -/
  | closed
  deriving DecidableEq, Repr

/-- What happens to a session. -/
inductive Call where
  /-- The socket opened. -/
  | opened
  | text (t : String)
  | frame (f : ServerFrame)
  /-- The socket closed. -/
  | closed
  /-- The subscription is given up. -/
  | cancelled
  deriving DecidableEq, Repr

inductive Action where
  | send (frame : ClientFrame)
  | data (v : Value)
  | error (e : ClassifiedError)
  | completed
  | ignore
  deriving DecidableEq, Repr

structure State where
  phase : Phase
  cancelled : Bool
  request : Request
  deriving DecidableEq, Repr

def start (request : Request) : State := ⟨.connecting, false, request⟩

namespace State

def socketOpen (s : State) : Bool := match s.phase with
  | .awaitingAck | .streaming | .completed => true
  | .connecting | .closed => false

/-- The socket opened. -/
def opened (s : State) : State × ClientFrame := ({ s with phase := .awaitingAck }, .init)

/-- The socket closed. -/
def closed (s : State) : State := { s with phase := .closed }

/-- A frame arrived. -/
def onFrame (s : State) (f : ServerFrame) : State × Action :=
  if s.cancelled then (s, .ignore)
  else match f with
    | .connectionAck _ =>
      if s.phase = .awaitingAck then ({ s with phase := .streaming }, .send (.start s.request)) else (s, .ignore)
    | .next _ payload => match payload.result with
      | .ok v => (s, .data v)
      | .error e => (s, .error e)
    | .error _ payload => (s, .error payload.classified)
    | .complete _ => ({ s with phase := .completed }, .completed)
    | .ping _ => (s, .send (.pong none))
    | .pong _ | .unknown => (s, .ignore)

/-- A text arrived. -/
def onText (s : State) (text : String) : State × Action :=
  if s.cancelled then (s, .ignore)
  else match ServerFrame.ofText text with
    | .ok f => s.onFrame f
    | .error e => (s, .error (.malformed e))

/-- The subscription is given up: the first time, and while the socket is open, with a frame to send. -/
def cancel (s : State) : State × Option ClientFrame :=
  if s.cancelled then (s, none)
  else ({ s with cancelled := true }, if s.socketOpen then some .finish else none)

/-- One call, and what it answers; some answer nothing. -/
def step (s : State) : Call → State × Option Action
  | .opened => let (s, f) := s.opened; (s, some (.send f))
  | .text t => let (s, a) := s.onText t; (s, some a)
  | .frame f => let (s, a) := s.onFrame f; (s, some a)
  | .closed => (s.closed, none)
  | .cancelled => let (s, f) := s.cancel; (s, f.map .send)

/-- The session after some calls. -/
def run (s : State) (calls : List Call) : State := calls.foldl (fun s c => (s.step c).1) s

end State

end FleetFeed.Session
