import FleetFeed.Proofs.Json.Codecs
import FleetFeed.Session.Frame

/-! What is sent and what is received, written and read back. Nothing of a frame, a request or a response gets lost on the way but
the difference between no value and null, where any JSON may stand. -/
namespace FleetFeed

open Json

/-- A string or null. -/
def text : Codec (Option String) :=
  (Codec.optional .string nofun).copy Decoder.string.option (Tree.ofOption .str) (fun _ => []) id rfl rfl
    (funext fun s => by cases s <;> rfl) (funext fun s => by cases s <;> rfl)

/-! ### Requests and responses -/

namespace Graphql

namespace Request

/-- The values inside that can be any JSON. -/
def free (r : Request) : List Value := r.vars.toList

def settle (r : Request) : Request := { r with vars := Codec.present r.vars }

def record : RecordCodec Request :=
  ((RecordCodec.required "query" .string).pair (.skipped "variables" .anything rfl rfl) (by decide)).iso
    (fun p => mk p.1 p.2) (fun r => (r.query, r.vars)) fun _ => rfl

def codec : Codec Request :=
  (record.codec "struct GraphqlRequest").copy decoder toTree free settle
    (congrArg (Fields.decoder · _) (RecordCodec.map_pair (fun p => mk p.1 p.2) _ _).symm) rfl rfl rfl

end Request

namespace Extensions

def record : RecordCodec Extensions :=
  (RecordCodec.defaulted "code" text none rfl rfl rfl).iso mk code fun _ => rfl

def codec : Codec Extensions :=
  (record.codec "struct ErrorExtensions").copy decoder toTree (fun _ => []) id rfl rfl rfl rfl

end Extensions

namespace ReportedError

def free (e : ReportedError) : List Value := e.path.getD []

def record : RecordCodec ReportedError :=
  (((RecordCodec.defaulted "message" .string "" rfl rfl rfl).pair
    (.defaulted "extensions" (.optional Extensions.codec nofun) none rfl rfl rfl) (by decide)).pair
    (.skipped "path" (.optional (.list .value) nofun) rfl rfl) (by decide)).iso
    (fun p => mk p.1.1 p.1.2 p.2) (fun e => ((e.message, e.extensions), e.path)) fun _ => rfl

theorem free_eq (e : ReportedError) : e.free = record.free e := by
  obtain ⟨message, extensions, path⟩ := e
  cases extensions <;> cases path
  case none.some p | some.some p => exact (List.flatMap_singleton' p).symm
  all_goals rfl

theorem settle_eq (e : ReportedError) : id e = record.settle e := by
  obtain ⟨message, extensions, path⟩ := e
  cases extensions <;> cases path
  case none.some p | some.some p => exact congrArg (fun p => ReportedError.mk _ _ (some p)) (List.map_id p).symm
  all_goals rfl

def codec : Codec ReportedError :=
  (record.codec "struct GraphqlError").copy decoder toTree free id
    (congrArg (Fields.decoder · _) (RecordCodec.map_triple (fun p => mk p.1.1 p.1.2 p.2) _ _ _).symm) rfl
    (funext free_eq) (funext settle_eq)

end ReportedError

namespace Response

def free (r : Response) : List Value := r.data.toList ++ (r.errors.getD []).flatMap ReportedError.free

def settle (r : Response) : Response := { r with data := Codec.present r.data }

def record : RecordCodec Response :=
  ((RecordCodec.defaulted "data" .anything none rfl rfl rfl).pair
    (.defaulted "errors" (.optional (.list ReportedError.codec) nofun) none rfl rfl rfl) (by decide)).iso
    (fun p => mk p.1 p.2) (fun r => (r.data, r.errors)) fun _ => rfl

theorem free_eq (r : Response) : r.free = record.free r := by
  obtain ⟨data, errors⟩ := r
  cases errors <;> rfl

theorem settle_eq (r : Response) : r.settle = record.settle r := by
  obtain ⟨data, errors⟩ := r
  cases errors with
  | none => rfl
  | some es => exact congrArg (fun es => Response.mk _ (some es)) (List.map_id es).symm

def codec : Codec Response :=
  (record.codec "struct GraphqlResponse").copy decoder toTree free settle
    (congrArg (Fields.decoder · _) (RecordCodec.map_pair (fun p => mk p.1 p.2) _ _).symm) rfl (funext free_eq) (funext settle_eq)

end Response

end Graphql

/-! ### Frames -/

namespace Session

open Graphql

namespace ErrorPayload

def free : ErrorPayload → List Value
  | .many errors => errors.flatMap ReportedError.free
  | .one error => error.free

/-- The list of errors that an error frame may carry. -/
def errorList : Codec (List ReportedError) := .list ReportedError.codec

theorem decoder_eq_ok_iff {s : Source} {t : Tree} {p : ErrorPayload} :
    decoder s t = .ok p ↔ (t.value?.isSome ∧ s.admits t) ∧
      ((∃ es, errorList.decoder .buffer t = .ok es ∧ p = .many es) ∨
        (∀ es, errorList.decoder .buffer t ≠ .ok es) ∧ ∃ e, ReportedError.decoder .buffer t = .ok e ∧ p = .one e) := by
  have hlist : errorList.decoder = Decoder.list ReportedError.decoder := rfl
  simp only [decoder, except_bind_eq_ok, Decoder.buffered_eq_ok_iff, hlist]
  constructor
  · rintro ⟨_, ⟨hadmits, rfl⟩, hp⟩
    refine ⟨hadmits, ?_⟩
    cases hes : Decoder.list ReportedError.decoder .buffer t with
    | ok es =>
      rw [hes] at hp
      exact .inl ⟨es, rfl, (Except.ok.inj hp).symm⟩
    | error =>
      rw [hes] at hp
      cases he : ReportedError.decoder .buffer t with
      | ok e =>
        rw [he] at hp
        exact .inr ⟨by simp, e, rfl, (Except.ok.inj hp).symm⟩
      | error =>
        rw [he] at hp
        cases hp
  · rintro ⟨hadmits, ⟨es, hes, rfl⟩ | ⟨hno, e, he, rfl⟩⟩
    · exact ⟨t, ⟨hadmits, rfl⟩, by rw [hes]; rfl⟩
    · refine ⟨t, ⟨hadmits, rfl⟩, ?_⟩
      cases hes : Decoder.list ReportedError.decoder .buffer t with
      | ok es => exact absurd hes (hno es)
      | error => rw [he]; rfl

def codec : Codec ErrorPayload where
  decoder := decoder
  toTree := toTree
  free := free
  settle := id
  readable
    | .many errors => errorList.readable errors
    | .one error => ReportedError.codec.readable error
  numbers {p n} := by
    cases p with
    | many errors => exact errorList.numbers
    | one error => exact ReportedError.codec.numbers
  reads {p s} hsorted hs := by
    cases p with
    | many errors =>
      have hread := errorList.reads (s := .buffer) hsorted rfl
      refine decoder_eq_ok_iff.2 ⟨⟨errorList.readable errors, hs⟩, .inl ⟨_, hread, ?_⟩⟩
      exact congrArg many (List.map_id errors).symm
    | one error =>
      have hread := ReportedError.codec.reads (s := .buffer) hsorted rfl
      exact decoder_eq_ok_iff.2 ⟨⟨ReportedError.codec.readable error, hs⟩, .inr ⟨nofun, error, hread, rfl⟩⟩
  origin {s t p} h := by
    obtain ⟨⟨-, hadmits⟩, ⟨es, hes, rfl⟩ | ⟨-, e, he, rfl⟩⟩ := decoder_eq_ok_iff.1 h
    · obtain ⟨-, hsorted, hwithin⟩ := errorList.origin hes
      exact ⟨rfl, hsorted, hwithin.mono (Source.height_le_room hadmits) (List.Subset.refl _)⟩
    · obtain ⟨-, hsorted, hwithin⟩ := ReportedError.codec.origin he
      exact ⟨rfl, hsorted, hwithin.mono (Source.height_le_room hadmits) (List.Subset.refl _)⟩

end ErrorPayload

/-- The field of a frame that may bring along any JSON. -/
def extraRecord : RecordCodec (Option Value) := .skipped "payload" .anything rfl rfl

def idRecord : RecordCodec (Option String) := .defaulted "id" text none rfl rfl rfl

namespace ClientFrame

def free : ClientFrame → List Value
  | .connectionInit payload => [payload]
  | .subscribe _ payload => payload.free
  | .complete _ => []
  | .pong payload => payload.toList

def settle : ClientFrame → ClientFrame
  | .connectionInit payload => .connectionInit payload
  | .subscribe id payload => .subscribe id payload.settle
  | .complete id => .complete id
  | .pong payload => .pong (Codec.present payload)

def initRecord : RecordCodec Value := .required "payload" .value

def subscribeRecord : RecordCodec (String × Request) :=
  (RecordCodec.required "id" .string).pair (.required "payload" Request.codec) (by decide)

theorem fields_subscribe : fields .subscribe =
    ((fun p => subscribe p.1 p.2) <$> subscribeRecord.fields).decoder "struct variant ClientMessage::Subscribe" :=
  congrArg (Fields.decoder · _) (RecordCodec.map_pair (fun p => subscribe p.1 p.2) _ _).symm

def completeRecord : RecordCodec String := .required "id" .string

def codec : Codec ClientFrame where
  decoder := decoder
  toTree := toTree
  free := free
  settle := settle
  readable f := by
    cases f with
    | connectionInit payload => exact initRecord.isSome_value?_tagged
    | subscribe id payload => exact RecordCodec.isSome_value?_tagged (c := subscribeRecord) (a := (id, payload))
    | complete id => exact RecordCodec.isSome_value?_tagged (c := completeRecord)
    | pong payload => exact RecordCodec.isSome_value?_tagged (c := extraRecord)
  numbers {f n} := by
    cases f with
    | connectionInit payload => exact RecordCodec.mem_numbers_tagged (c := initRecord)
    | subscribe id payload => exact RecordCodec.mem_numbers_tagged (c := subscribeRecord) (a := (id, payload))
    | complete id => exact RecordCodec.mem_numbers_tagged (c := completeRecord)
    | pong payload => exact RecordCodec.mem_numbers_tagged (c := extraRecord)
  reads {f s} hsorted hs := by
    cases f with
    | connectionInit payload =>
      exact RecordCodec.reads_tagged (c := initRecord) (k := .connectionInit) rfl rfl (by decide) hsorted hs
    | subscribe id payload =>
      exact RecordCodec.reads_tagged (c := subscribeRecord) (a := (id, payload)) (k := Kind.subscribe) rfl fields_subscribe (by decide) hsorted hs
    | complete id => exact RecordCodec.reads_tagged (c := completeRecord) (k := .complete) rfl rfl (by decide) hsorted hs
    | pong payload => exact RecordCodec.reads_tagged (c := extraRecord) (k := .pong) rfl rfl (by decide) hsorted hs
  origin {s t f} h := by
    obtain ⟨k, rest, hrest, -, hroom, hnumbers⟩ := Variant.exists_fields h
    cases k with
    | connectionInit =>
      obtain ⟨payload, rfl, hsettle, hsorted, hwithin⟩ := initRecord.origin_tagged hrest hroom hnumbers "connection_init"
      exact ⟨rfl, hsorted, hwithin⟩
    | subscribe =>
      rw [fields_subscribe] at hrest
      obtain ⟨⟨id, payload⟩, rfl, hsettle, hsorted, hwithin⟩ := subscribeRecord.origin_tagged hrest hroom hnumbers "subscribe"
      exact ⟨congrArg (fun p : String × Request => subscribe p.1 p.2) hsettle, hsorted, hwithin⟩
    | complete =>
      obtain ⟨id, rfl, hsettle, hsorted, hwithin⟩ := completeRecord.origin_tagged hrest hroom hnumbers "complete"
      exact ⟨rfl, hsorted, hwithin⟩
    | pong =>
      obtain ⟨payload, rfl, hsettle, hsorted, hwithin⟩ := extraRecord.origin_tagged hrest hroom hnumbers "pong"
      exact ⟨congrArg pong hsettle, hsorted, hwithin⟩

end ClientFrame

namespace ServerFrame

def free : ServerFrame → List Value
  | .next _ payload => payload.free
  | .error _ payload => payload.free
  | .connectionAck payload | .ping payload | .pong payload => payload.toList
  | .complete _ | .unknown => []

def settle : ServerFrame → ServerFrame
  | .connectionAck payload => .connectionAck (Codec.present payload)
  | .next id payload => .next id payload.settle
  | .error id payload => .error id payload
  | .complete id => .complete id
  | .ping payload => .ping (Codec.present payload)
  | .pong payload => .pong (Codec.present payload)
  | .unknown => .unknown

def nextRecord : RecordCodec (Option String × Response) := idRecord.pair (.required "payload" Response.codec) (by decide)

def errorRecord : RecordCodec (Option String × ErrorPayload) := idRecord.pair (.required "payload" ErrorPayload.codec) (by decide)

theorem fields_next : fields .next =
    ((fun p => next p.1 p.2) <$> nextRecord.fields).decoder "struct variant ServerMessage::Next" :=
  congrArg (Fields.decoder · _) (RecordCodec.map_pair (fun p => next p.1 p.2) _ _).symm

theorem fields_error : fields .error =
    ((fun p => error p.1 p.2) <$> errorRecord.fields).decoder "struct variant ServerMessage::Error" :=
  congrArg (Fields.decoder · _) (RecordCodec.map_pair (fun p => error p.1 p.2) _ _).symm

theorem eq_unknown_of_unit {s : Source} {t : Tree} {f : ServerFrame} (h : Variant.unit unknown s t = .ok f) : f = unknown := by
  cases t with
  | arr items =>
    rw [Variant.unit] at h
    split_ifs at h
    exact (Except.ok.inj h).symm
  | null | bool | num | str | obj | unreadable | broken => exact (Except.ok.inj h).symm

def codec : Codec ServerFrame where
  decoder := decoder
  toTree := toTree
  free := free
  settle := settle
  readable f := by
    cases f with
    | connectionAck payload | ping payload | pong payload => exact RecordCodec.isSome_value?_tagged (c := extraRecord)
    | next id payload => exact RecordCodec.isSome_value?_tagged (c := nextRecord) (a := (id, payload))
    | error id payload => exact RecordCodec.isSome_value?_tagged (c := errorRecord) (a := (id, payload))
    | complete id => exact RecordCodec.isSome_value?_tagged (c := idRecord)
    | unknown => exact RecordCodec.isSome_value?_tagged (c := .empty) (a := ())
  numbers {f n} := by
    cases f with
    | connectionAck payload | ping payload | pong payload => exact RecordCodec.mem_numbers_tagged (c := extraRecord)
    | next id payload => exact (RecordCodec.mem_numbers_tagged (c := nextRecord) (a := (id, payload)))
    | error id payload => exact RecordCodec.mem_numbers_tagged (c := errorRecord) (a := (id, payload))
    | complete id => exact RecordCodec.mem_numbers_tagged (c := idRecord)
    | unknown => exact RecordCodec.mem_numbers_tagged (c := .empty) (a := ())
  reads {f s} hsorted hs := by
    cases f with
    | connectionAck payload => exact RecordCodec.reads_tagged (c := extraRecord) (k := Kind.connectionAck) rfl rfl (by decide) hsorted hs
    | ping payload => exact RecordCodec.reads_tagged (c := extraRecord) (k := Kind.ping) rfl rfl (by decide) hsorted hs
    | pong payload => exact RecordCodec.reads_tagged (c := extraRecord) (k := Kind.pong) rfl rfl (by decide) hsorted hs
    | next id payload => exact RecordCodec.reads_tagged (c := nextRecord) (a := (id, payload)) (k := Kind.next) rfl fields_next (by decide) hsorted hs
    | error id payload => exact RecordCodec.reads_tagged (c := errorRecord) (a := (id, payload)) (k := Kind.error) rfl fields_error (by decide) hsorted hs
    | complete id => exact RecordCodec.reads_tagged (c := idRecord) (k := Kind.complete) rfl rfl (by decide) hsorted hs
    | unknown =>
      have hread : fields .unknown .buffer (.record []) = .ok unknown := rfl
      exact Variant.decoder_record rfl nofun nofun hs hread
  origin {s t f} h := by
    obtain ⟨k, rest, hrest, hpos, hroom, hnumbers⟩ := Variant.exists_fields h
    cases k with
    | connectionAck =>
      obtain ⟨payload, rfl, hsettle, hsorted, hwithin⟩ := extraRecord.origin_tagged hrest hroom hnumbers "connection_ack"
      exact ⟨congrArg connectionAck hsettle, hsorted, hwithin⟩
    | ping =>
      obtain ⟨payload, rfl, hsettle, hsorted, hwithin⟩ := extraRecord.origin_tagged hrest hroom hnumbers "ping"
      exact ⟨congrArg ping hsettle, hsorted, hwithin⟩
    | pong =>
      obtain ⟨payload, rfl, hsettle, hsorted, hwithin⟩ := extraRecord.origin_tagged hrest hroom hnumbers "pong"
      exact ⟨congrArg pong hsettle, hsorted, hwithin⟩
    | next =>
      rw [fields_next] at hrest
      obtain ⟨⟨id, payload⟩, rfl, hsettle, hsorted, hwithin⟩ := nextRecord.origin_tagged hrest hroom hnumbers "next"
      exact ⟨congrArg (fun p : Option String × Response => next p.1 p.2) hsettle, hsorted, hwithin⟩
    | error =>
      rw [fields_error] at hrest
      obtain ⟨⟨id, payload⟩, rfl, hsettle, hsorted, hwithin⟩ := errorRecord.origin_tagged hrest hroom hnumbers "error"
      exact ⟨congrArg (fun p : Option String × ErrorPayload => error p.1 p.2) hsettle, hsorted, hwithin⟩
    | complete =>
      obtain ⟨id, rfl, hsettle, hsorted, hwithin⟩ := idRecord.origin_tagged hrest hroom hnumbers "complete"
      exact ⟨rfl, hsorted, hwithin⟩
    | unknown =>
      obtain rfl := eq_unknown_of_unit hrest
      exact ⟨rfl, nofun, ⟨hpos, List.nil_subset _⟩⟩

end ServerFrame

/-! ### All of them -/

/-- What is written of any type on the wire is read back, with none for null where any JSON may stand; and what was read from a
text is written as a text that reads as the same. -/
theorem wire_types_round_trip :
    RoundTrips ClientFrame.decoder ClientFrame.toTree ClientFrame.free ClientFrame.settle ∧
    RoundTrips ServerFrame.decoder ServerFrame.toTree ServerFrame.free ServerFrame.settle ∧
    RoundTrips ErrorPayload.decoder ErrorPayload.toTree ErrorPayload.free id ∧
    RoundTrips Request.decoder Request.toTree Request.free Request.settle ∧
    RoundTrips Response.decoder Response.toTree Response.free Response.settle ∧
    RoundTrips ReportedError.decoder ReportedError.toTree ReportedError.free id :=
  ⟨ClientFrame.codec.roundTrips, ServerFrame.codec.roundTrips, ErrorPayload.codec.roundTrips, Request.codec.roundTrips,
    Response.codec.roundTrips, ReportedError.codec.roundTrips⟩

/-- Variables that are null are sent and not read back as variables. -/
theorem null_variables_round_trip :
    ClientFrame.decoder.ofText (ClientFrame.start ⟨"q", some .null⟩).toTree.write = .ok (.start ⟨"q", none⟩) := by
  refine wire_types_round_trip.1.text (.start ⟨"q", some .null⟩) (fun v hv => ?_) (by decide)
  obtain rfl : v = .null := List.mem_singleton.1 hv
  exact ⟨trivial, nofun, nofun⟩

end Session

end FleetFeed
