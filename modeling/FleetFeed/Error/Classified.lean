import FleetFeed.Error.Code
import FleetFeed.Json.DecodeError

/-! Errors as they reach a caller: a message, a code where the vocabulary has one, and whether a lower failure lies
beneath. -/
namespace FleetFeed

structure ClassifiedError where
  message : String
  code : Option ErrorCode
  hasCause : Bool
  deriving DecidableEq, Repr

namespace ClassifiedError

def plain (message : String) (code : Option ErrorCode) : ClassifiedError := ⟨message, code, false⟩

/-- A code outside the vocabulary is dropped. -/
def ofWireCode (message : String) (code : Option String) : ClassifiedError := plain message (code.bind ErrorCode.ofWire?)

/-- A failure of the socket. -/
def websocket (message : String) : ClassifiedError := plain message (some .websocketError)

def withCause (e : ClassifiedError) : ClassifiedError := { e with hasCause := true }

/-- A failure below the protocol. -/
def transport (message : String) : ClassifiedError := ⟨message, none, true⟩

/-- A payload that is not of the expected shape. -/
def malformed (e : Json.DecodeError) : ClassifiedError := ⟨"Malformed payload: " ++ e.message, none, true⟩

/-- Errors are alike when message and code are; what lies beneath does not count. -/
def alike (a b : ClassifiedError) : Bool := a.message == b.message && a.code == b.code

def classification (e : ClassifiedError) : Classification := classify e.code

def isRetryable (e : ClassifiedError) : Bool := e.classification.retryable

/-- The sentence shown to a user: that of the code, else the message. -/
def userMessage (e : ClassifiedError) : String := (e.code.map ErrorCode.userMessage).getD e.message

end ClassifiedError

end FleetFeed
