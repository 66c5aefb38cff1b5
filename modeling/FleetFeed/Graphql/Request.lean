import FleetFeed.Json.Record

/-! A document and its variables, as they are sent. -/
namespace FleetFeed.Graphql

open Json

structure Request where
  query : String
  vars : Option Value
  deriving DecidableEq, Repr

namespace Request

def decoder : Decoder Request :=
  (Request.mk <$> Fields.required "query" Decoder.string <*> Fields.optional "variables" Decoder.free).decoder
    "struct GraphqlRequest"

def toTree (r : Request) : Tree :=
  .record ([("query", .str r.query)] ++ Tree.fieldOf "variables" Value.toTree r.vars)

end Request

end FleetFeed.Graphql
