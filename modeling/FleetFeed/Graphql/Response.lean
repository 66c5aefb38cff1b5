import FleetFeed.Error.Classified
import FleetFeed.Json.Record

/-! Responses: data, or errors of which only the first is shown. -/
namespace FleetFeed.Graphql

open Json

structure Extensions where
  code : Option String
  deriving DecidableEq, Repr

structure ReportedError where
  message : String
  extensions : Option Extensions
  path : Option (List Value)
  deriving DecidableEq, Repr

structure Response where
  data : Option Value
  errors : Option (List ReportedError)
  deriving DecidableEq, Repr

namespace Extensions

def decoder : Decoder Extensions :=
  (Extensions.mk <$> Fields.optional "code" Decoder.string).decoder "struct ErrorExtensions"

def toTree (e : Extensions) : Tree := .record [("code", Tree.ofOption .str e.code)]

end Extensions

namespace ReportedError

def decoder : Decoder ReportedError :=
  (ReportedError.mk <$> Fields.defaulted "message" Decoder.string "" <*> Fields.optional "extensions" Extensions.decoder
    <*> Fields.optional "path" (Decoder.list Decoder.free)).decoder "struct GraphqlError"

def toTree (e : ReportedError) : Tree :=
  .record ([("message", .str e.message), ("extensions", Tree.ofOption Extensions.toTree e.extensions)]
    ++ Tree.fieldOf "path" (fun p => .arr (p.map Value.toTree)) e.path)

def code (e : ReportedError) : Option String := e.extensions.bind Extensions.code

def classified (e : ReportedError) : ClassifiedError := .ofWireCode e.message e.code

end ReportedError

namespace Response

def decoder : Decoder Response :=
  (Response.mk <$> Fields.optional "data" Decoder.free <*> Fields.optional "errors" (Decoder.list ReportedError.decoder)).decoder
    "struct GraphqlResponse"

def toTree (r : Response) : Tree :=
  .record [("data", Tree.ofOption Value.toTree r.data),
    ("errors", Tree.ofOption (fun es => .arr (es.map ReportedError.toTree)) r.errors)]

/-- The first error where there is one, else the data; absent data are null. -/
def result (r : Response) : Except ClassifiedError Value := match r.errors with
  | some (e :: _) => .error e.classified
  | _ => .ok (r.data.getD .null)

end Response

end FleetFeed.Graphql
