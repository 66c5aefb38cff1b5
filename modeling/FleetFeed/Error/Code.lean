/-! The closed vocabulary of error codes, and what follows from a code. -/
namespace FleetFeed

inductive ErrorCode where
  | containerNotFound
  | agentNotFound
  | agentUnavailable
  | unauthorized
  | forbidden
  | badRequest
  | internalServerError
  | grpcError
  | websocketError
  deriving DecidableEq, Repr

namespace ErrorCode

def all : List ErrorCode :=
  [.containerNotFound, .agentNotFound, .agentUnavailable, .unauthorized, .forbidden, .badRequest, .internalServerError,
   .grpcError, .websocketError]

/-- The code as it is sent. -/
def wire : ErrorCode → String
  | .containerNotFound => "CONTAINER_NOT_FOUND"
  | .agentNotFound => "AGENT_NOT_FOUND"
  | .agentUnavailable => "AGENT_UNAVAILABLE"
  | .unauthorized => "UNAUTHORIZED"
  | .forbidden => "FORBIDDEN"
  | .badRequest => "BAD_REQUEST"
  | .internalServerError => "INTERNAL_SERVER_ERROR"
  | .grpcError => "GRPC_ERROR"
  | .websocketError => "WEBSOCKET_ERROR"

def ofWire? (s : String) : Option ErrorCode := all.find? (·.wire = s)

def unknownMessage (s : String) : String := "unknown error code: " ++ s

/-- The sentence shown to a user. -/
def userMessage : ErrorCode → String
  | .containerNotFound => "The container could not be found. It may have been removed."
  | .agentNotFound => "The agent could not be found. It may have been deregistered."
  | .agentUnavailable => "The agent is currently unavailable. Please try again shortly."
  | .unauthorized => "You are not signed in. Please authenticate and try again."
  | .forbidden => "You do not have permission to perform this action."
  | .badRequest => "The request was invalid."
  | .internalServerError => "The server encountered an internal error. Please try again."
  | .grpcError => "Communication with the agent failed. Please try again."
  | .websocketError => "The live connection to the server was lost."

end ErrorCode

structure Classification where
  notFound : Bool
  unavailable : Bool
  unauthorized : Bool
  forbidden : Bool
  internal : Bool
  badRequest : Bool
  retryable : Bool
  deriving DecidableEq, Repr

/-- Without a code nothing holds. -/
def classify : Option ErrorCode → Classification
  | none => ⟨false, false, false, false, false, false, false⟩
  | some c => {
      notFound := c = .containerNotFound || c = .agentNotFound
      unavailable := c = .agentUnavailable
      unauthorized := c = .unauthorized
      forbidden := c = .forbidden
      internal := c = .internalServerError
      badRequest := c = .badRequest
      retryable := c = .agentUnavailable || c = .grpcError || c = .internalServerError || c = .websocketError }

end FleetFeed
