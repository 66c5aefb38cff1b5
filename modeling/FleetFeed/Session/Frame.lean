import FleetFeed.Graphql.Request
import FleetFeed.Graphql.Response
import FleetFeed.Json.Variant
import FleetFeed.Json.Writer

/-! The frames of the subscription protocol. A frame is a record whose kind stands in its member `type`. -/
namespace FleetFeed.Session

open Json Graphql

/-- The name under which a socket asks for this protocol. -/
def subprotocol : String := "graphql-transport-ws"

/-- The one subscription of a socket. -/
def subscriptionId : String := "1"

inductive ClientFrame where
  | connectionInit (payload : Value)
  | subscribe (id : String) (payload : Request)
  | complete (id : String)
  | pong (payload : Option Value)
  deriving DecidableEq, Repr

/-- The payload of an error frame, a list or a single error. -/
inductive ErrorPayload where
  | many (errors : List ReportedError)
  | one (error : ReportedError)
  deriving DecidableEq, Repr

inductive ServerFrame where
  | connectionAck (payload : Option Value)
  | next (id : Option String) (payload : Response)
  | error (id : Option String) (payload : ErrorPayload)
  | complete (id : Option String)
  | ping (payload : Option Value)
  | pong (payload : Option Value)
  /-- Any other kind. -/
  | unknown
  deriving DecidableEq, Repr

namespace ClientFrame

inductive Kind where
  | connectionInit
  | subscribe
  | complete
  | pong

def kinds : List (String × Kind) :=
  [("connection_init", .connectionInit), ("subscribe", .subscribe), ("complete", .complete), ("pong", .pong)]

def kind (name : String) : Except DecodeError Kind := match kinds.lookup name with
  | some k => .ok k
  | none => .error (.unknownVariant name (kinds.map Prod.fst))

def fields : Kind → Decoder ClientFrame
  | .connectionInit => (connectionInit <$> Fields.required "payload" Decoder.free).decoder "struct variant ClientMessage::ConnectionInit"
  | .subscribe => (subscribe <$> Fields.required "id" Decoder.string <*> Fields.required "payload" Request.decoder).decoder
      "struct variant ClientMessage::Subscribe"
  | .complete => (complete <$> Fields.required "id" Decoder.string).decoder "struct variant ClientMessage::Complete"
  | .pong => (pong <$> Fields.optional "payload" Decoder.free).decoder "struct variant ClientMessage::Pong"

def decoder : Decoder ClientFrame := Variant.decoder "ClientMessage" kind fields

def toTree : ClientFrame → Tree
  | .connectionInit payload => .record [("type", .str "connection_init"), ("payload", payload.toTree)]
  | .subscribe id payload => .record [("type", .str "subscribe"), ("id", .str id), ("payload", payload.toTree)]
  | .complete id => .record [("type", .str "complete"), ("id", .str id)]
  | .pong payload => .record ([("type", .str "pong")] ++ Tree.fieldOf "payload" Value.toTree payload)

def text (f : ClientFrame) : String := f.toTree.write

/-- The first frame on a socket. -/
def init : ClientFrame := .connectionInit (.obj [])

def start (request : Request) : ClientFrame := .subscribe subscriptionId request

def finish : ClientFrame := .complete subscriptionId

end ClientFrame

namespace ErrorPayload

/-- A list where it reads as one, else a single error; which of the two went wrong is not told. -/
def decoder : Decoder ErrorPayload := fun s t => do
  let t ← Decoder.buffered s t
  match Decoder.list ReportedError.decoder .buffer t with
  | .ok errors => return .many errors
  | .error _ => match ReportedError.decoder .buffer t with
    | .ok error => return .one error
    | .error _ => throw (.noVariant "ErrorPayload")

def toTree : ErrorPayload → Tree
  | .many errors => .arr (errors.map ReportedError.toTree)
  | .one error => error.toTree

def classified : ErrorPayload → ClassifiedError
  | .many (e :: _) | .one e => e.classified
  | .many [] => .plain "Subscription failed" none

end ErrorPayload

namespace ServerFrame

inductive Kind where
  | connectionAck
  | next
  | error
  | complete
  | ping
  | pong
  | unknown
  deriving DecidableEq, Repr

def kinds : List (String × Kind) :=
  [("connection_ack", .connectionAck), ("next", .next), ("error", .error), ("complete", .complete), ("ping", .ping),
   ("pong", .pong)]

def kind (name : String) : Kind := (kinds.lookup name).getD .unknown

def fields : Kind → Decoder ServerFrame
  | .connectionAck => (connectionAck <$> Fields.optional "payload" Decoder.free).decoder "struct variant ServerMessage::ConnectionAck"
  | .next => (next <$> Fields.optional "id" Decoder.string <*> Fields.required "payload" Response.decoder).decoder
      "struct variant ServerMessage::Next"
  | .error => (error <$> Fields.optional "id" Decoder.string <*> Fields.required "payload" ErrorPayload.decoder).decoder
      "struct variant ServerMessage::Error"
  | .complete => (complete <$> Fields.optional "id" Decoder.string).decoder "struct variant ServerMessage::Complete"
  | .ping => (ping <$> Fields.optional "payload" Decoder.free).decoder "struct variant ServerMessage::Ping"
  | .pong => (pong <$> Fields.optional "payload" Decoder.free).decoder "struct variant ServerMessage::Pong"
  | .unknown => Variant.unit unknown

def decoder : Decoder ServerFrame := Variant.decoder "ServerMessage" (fun name => .ok (kind name)) fields

def ofText (text : String) : Except DecodeError ServerFrame := decoder.ofText text

def optional (payload : Option Value) : List (String × Tree) := Tree.fieldOf "payload" Value.toTree payload

def toTree : ServerFrame → Tree
  | .connectionAck payload => .record ([("type", .str "connection_ack")] ++ optional payload)
  | .next id payload => .record [("type", .str "next"), ("id", Tree.ofOption .str id), ("payload", payload.toTree)]
  | .error id payload => .record [("type", .str "error"), ("id", Tree.ofOption .str id), ("payload", payload.toTree)]
  | .complete id => .record [("type", .str "complete"), ("id", Tree.ofOption .str id)]
  | .ping payload => .record ([("type", .str "ping")] ++ optional payload)
  | .pong payload => .record ([("type", .str "pong")] ++ optional payload)
  | .unknown => .record [("type", .str "unknown")]

end ServerFrame

end FleetFeed.Session
