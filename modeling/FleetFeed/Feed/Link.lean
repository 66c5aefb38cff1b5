import FleetFeed.Event.Subscription
import FleetFeed.Feed.Registry
import FleetFeed.Session.Machine
import FleetFeed.Url.Requestable

/-! The link of one channel: a single socket, which is opened once and never again. Each event at the socket is handled to
its end; a link that is lost says so once. -/
namespace FleetFeed.Feed

open Event Session

inductive Stage where
  /-- The link was made, nothing was tried yet. -/
  | waiting
  /-- The socket is being opened. -/
  | connecting
  /-- The socket is open. -/
  | streaming
  /-- Nothing more will happen. -/
  | ended
  deriving DecidableEq, Repr

/-- What happens at the socket of a link. -/
inductive LinkEvent where
  /-- The link begins its work. -/
  | launched
  /-- The peer accepted the socket. -/
  | opened
  /-- There is no socket: nobody listens, or the peer did not accept. -/
  | refused
  | text (t : String)
  /-- A frame that carries no text. -/
  | binary
  /-- The peer closed the socket, with a reason or without one. -/
  | closed (reason : Option String)
  /-- The socket broke off, or something came that is no frame. -/
  | broken
  /-- There is nothing more to read. -/
  | exhausted
  /-- Nothing goes out through the socket any more. -/
  | muted
  /-- The owner of the link gave it up. -/
  | cancelled
  /-- The owner of the link let go of it. -/
  | dropped
  deriving DecidableEq, Repr

inductive LinkAction where
  /-- A frame is given to the socket. -/
  | send (f : ClientFrame)
  /-- The socket is closed from this side. -/
  | close
  | deliver (p : Push Record)
  deriving DecidableEq, Repr

structure Link where
  url : Url
  /-- What the records that arrive are about. -/
  topic : Topic
  stage : Stage
  cancelled : Bool
  /-- A frame that is given to the socket does not go out. -/
  mute : Bool
  session : Session.State
  deriving DecidableEq, Repr

namespace Link

/-- A link that asks for what is in `request`. -/
def new (url : Url) (c : Topic) (request : Graphql.Request) : Link :=
  ⟨url, c, .waiting, false, false, Session.start request⟩

def start (url : Url) (t : Target) : Link := .new url t.topic t.request

/-! ### How a link is lost -/

def unusable (u : Url) : ClassifiedError := (ClassifiedError.websocket ("Invalid WebSocket URL " ++ u.write)).withCause

def notConnected (u : Url) : ClassifiedError :=
  (ClassifiedError.websocket ("WebSocket connection to " ++ u.write ++ " failed")).withCause

/-- An empty reason is none. -/
def closedFor (reason : Option String) : ClassifiedError :=
  .websocket ("WebSocket closed: " ++ (reason.filter fun r => !r.isEmpty).getD "connection closed")

def brokenOff : ClassifiedError := (ClassifiedError.websocket "WebSocket error").withCause

def dropped : ClassifiedError := .websocket "WebSocket connection dropped"

def unsent : ClassifiedError := (ClassifiedError.websocket "Failed to send frame").withCause

/-- Codes with which a peer may close a socket. -/
def isCloseCode (code : Nat) : Bool :=
  [1000, 1001, 1002, 1003, 1007, 1008, 1009, 1010, 1011, 1012, 1013].contains code || (3000 ≤ code && code ≤ 4999)

/-- A close frame, whose code and reason are both given or neither. The reason beside a code that no peer may send is not
shown. -/
def closeFrame (frame : Option (Nat × String)) : LinkEvent :=
  .closed (frame.map fun f => if isCloseCode f.1 then f.2 else "Protocol violation")

/-! ### Events -/

def ended (l : Link) : Link := { l with stage := .ended, session := l.session.closed }

def fail (l : Link) (e : ClassifiedError) : Link × List LinkAction := (l.ended, [.deliver (.error e)])

/-- The socket came to its end, which is no failure after the server completed the subscription. -/
def finish (l : Link) (e : ClassifiedError) : Link × List LinkAction :=
  if l.session.phase = .completed then (l.ended, []) else l.fail e

/-- What a record or its refusal is to those who watch. -/
def push (c : Topic) (data : Json.Value) : Push Record := match c.decode data with
  | .ok r => .event r
  | .error e => .error e

/-- Gives a frame to the socket. One that does not go out is the end of the link. -/
def say (l : Link) (f : ClientFrame) : Link × List LinkAction :=
  if l.mute then (l.ended, [.send f, .deliver (.error unsent)]) else (l, [.send f])

/-- Does what an answer of the session asks for. -/
def react (l : Link) : Action → Link × List LinkAction
  | .send f => l.say f
  | .data v => (l, [.deliver (push l.topic v)])
  | .error e => (l, [.deliver (.error e)])
  | .completed | .ignore => (l, [])

/-- The link is given up. While the socket is open the server is told first, whether that goes out or not. -/
def cancel (l : Link) : Link × List LinkAction :=
  if l.cancelled then (l, [])
  else if l.stage = .streaming then
    let (s, f) := l.session.cancel
    ({ l with stage := .ended, cancelled := true, session := s }, (f.map LinkAction.send).toList ++ [.close])
  else ({ l with stage := .ended, cancelled := true }, [])

def step (l : Link) (e : LinkEvent) : Link × List LinkAction := match l.stage, e with
  | _, .cancelled | _, .dropped => l.cancel
  | .waiting, .launched => if l.url.isRequestable then ({ l with stage := .connecting }, []) else l.fail (unusable l.url)
  | .connecting, .opened =>
    let (s, f) := l.session.opened
    { l with stage := .streaming, session := s }.say f
  | .connecting, .refused => l.fail (notConnected l.url)
  | .streaming, .text t =>
    let (s, a) := l.session.onText t
    { l with session := s }.react a
  | .streaming, .closed reason => l.finish (closedFor reason)
  | .streaming, .broken => l.fail brokenOff
  | .streaming, .exhausted => l.finish dropped
  | .connecting, .muted | .streaming, .muted => ({ l with mute := true }, [])
  | _, _ => (l, [])

/-- The link after some events, and all that it did. -/
def run (l : Link) (es : List LinkEvent) : Link × List LinkAction :=
  es.foldl (fun (l, done) e => let (l, more) := l.step e; (l, done ++ more)) (l, [])

end Link

end FleetFeed.Feed
