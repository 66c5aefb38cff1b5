import FleetFeed.Graphql.Response

/-! What an HTTP reply means. -/
namespace FleetFeed.Graphql

open Json

structure Reply where
  status : Nat
  body : String
  deriving DecidableEq, Repr

namespace Reply

def isSuccess (status : Nat) : Bool := 200 ≤ status && status < 300

def statusCode (status : Nat) : Option ErrorCode :=
  if status = 400 then some .badRequest
  else if status = 401 then some .unauthorized
  else if status = 403 then some .forbidden
  else if 500 ≤ status ∧ status ≤ 599 then some .internalServerError
  else none

def statusError (status : Nat) : ClassifiedError := .plain ("HTTP " ++ Nat.repr status) (statusCode status)

/-- An error that the body reports wins over the status, the status over a body that cannot be read. -/
def data (r : Reply) : Except ClassifiedError Value :=
  match Response.decoder.ofText r.body with
  | .ok response => match response.result with
    | .error e => .error e
    | .ok v => if isSuccess r.status then .ok v else .error (statusError r.status)
  | .error e => .error (if isSuccess r.status then .malformed e else statusError r.status)

end Reply

end FleetFeed.Graphql
