import FleetFeed.Proofs.Graphql.Responses
import FleetFeed.Proofs.Session.ErrorRoutes
import FleetFeed.Proofs.Session.Reading

/-! Which reports of errors are heard. A response is read as a whole or not at all: its first error is told exactly when everything
beside the message is of its type, in the first error and in all later ones. One member of another type, such as a code that is
a number, and the error that was reported is lost. -/
namespace FleetFeed

open Json Graphql

namespace Graphql

/-- What stands beside the message of the first error of a response is of its type; `level` says where that comes from which lies
so many containers deep, and `code` is the code of the first error. -/
structure Sound (level : Nat → Source) (members first : List (Option String × Tree)) (later : List Tree)
    (code : Option String) : Prop where
  orderly : Fields.Orderly ["data", "errors"] members
  data : ∃ data, Holds Decoder.free (level 1) members "data" data
  orderlyFirst : Fields.Orderly ["message", "extensions", "path"] first
  extensions : ∃ x, Holds Extensions.decoder (level 3) first "extensions" x ∧ x.bind Extensions.code = code
  path : ∃ path, Holds (Decoder.list Decoder.free) (level 3) first "path" path
  later : ∀ t ∈ later, ∃ e, ReportedError.decoder (level 2) t = .ok e

variable {level : Nat → Source} {members first : List (Option String × Tree)} {later : List Tree} {message : String}
  {code : Option String}

theorem Sound.reads (h : Sound level members first later code) (hlevel : ∀ k < 3, (level k).enter = .ok (level (k + 1)))
    (herrors : (some "errors", .arr (.obj first :: later)) ∈ members) (hmessage : (some "message", .str message) ∈ first) :
    ∃ data e rest, Response.decoder (level 0) (.obj members) = .ok ⟨data, some (e :: rest)⟩ ∧
      e.classified = .ofWireCode message code := by
  obtain ⟨data, hdata⟩ := h.data
  obtain ⟨x, hx, hcode⟩ := h.extensions
  obtain ⟨path, hpath⟩ := h.path
  have hfirst : ReportedError.decoder (level 2) (.obj first) = .ok ⟨message, x, path⟩ :=
    ReportedError.decoder_obj.2 ⟨level 3, hlevel 2 (by omega), h.orderlyFirst, .inr ⟨_, hmessage, rfl⟩, hx, hpath⟩
  obtain ⟨rest, hrest⟩ := exists_mapM_iff.2 h.later
  have hlist : Decoder.list ReportedError.decoder (level 1) (.arr (.obj first :: later)) = .ok (⟨message, x, path⟩ :: rest) := by
    simp only [Decoder.list, except_bind_eq_ok, mapM_eq_ok_iff]
    exact ⟨level 2, hlevel 1 (by omega), .cons hfirst (mapM_eq_ok_iff.1 hrest)⟩
  have hresponse : Response.decoder (level 0) (.obj members) = .ok ⟨data, some (⟨message, x, path⟩ :: rest)⟩ :=
    Response.decoder_obj.2 ⟨level 1, hlevel 0 (by omega), h.orderly, hdata, .inr ⟨_, _, herrors, by simp, hlist, rfl⟩⟩
  refine ⟨data, _, rest, hresponse, ?_⟩
  rw [← hcode]
  rfl

theorem sound_of_reads {r : Response} (h : Response.decoder (level 0) (.obj members) = .ok r)
    (hlevel : ∀ k < 3, (level k).enter = .ok (level (k + 1))) (herrors : (some "errors", .arr (.obj first :: later)) ∈ members) :
    ∃ code, Sound level members first later code := by
  obtain ⟨s, hs, horderly, hdata, hread⟩ := Response.decoder_obj.1 h
  obtain rfl : level 1 = s := Except.ok.inj ((hlevel 0 (by omega)).symm.trans hs)
  obtain ⟨hnull, -⟩ | ⟨t, es, ht, -, hes, -⟩ := hread
  · cases hnull _ herrors
  obtain rfl := horderly.eq_of_mem (by decide) ht herrors
  simp only [Decoder.list, except_bind_eq_ok] at hes
  obtain ⟨s, hs, hes⟩ := hes
  obtain rfl : level 2 = s := Except.ok.inj ((hlevel 1 (by omega)).symm.trans hs)
  obtain ⟨⟨e, he⟩, hlater⟩ := List.forall_mem_cons.1 (exists_mapM_iff.1 ⟨es, hes⟩)
  obtain ⟨s, hs, hfirst, -, hextensions, hpath⟩ := ReportedError.decoder_obj.1 he
  obtain rfl : level 3 = s := Except.ok.inj ((hlevel 2 (by omega)).symm.trans hs)
  exact ⟨_, horderly, ⟨_, hdata⟩, hfirst, ⟨_, hextensions, rfl⟩, ⟨_, hpath⟩, hlater⟩

/-- In a text containers may nest so deep. -/
def inText (k : Nat) : Source := .text (Decoder.maxDepth - k)

/-- What was set aside may nest as it will. -/
def setAside (_ : Nat) : Source := .buffer

end Graphql

namespace Session

open Variant (tags others Keeps)

/-- The members of a frame of the kind `next` with this payload. -/
structure IsNext (frame : List (Option String × Tree)) (payload : Tree) : Prop where
  kind : tags frame = [.str "next"]
  kept : ∀ m ∈ others frame, Keeps (inText 1) m
  orderly : Fields.Orderly ["id", "payload"] (others frame)
  id : ∃ id, Holds Decoder.string .buffer (others frame) "id" id
  payload : (some "payload", payload) ∈ others frame

/-- A frame with this payload reads as one where the payload reads as a response. -/
theorem ServerFrame.ofText_of_isNext {frame : List (Option String × Tree)} {payload : Tree} {text : String}
    (htext : Document.ofText text = ⟨.obj frame, true⟩) (h : IsNext frame payload) {f : ServerFrame} :
    ofText text = .ok f ↔ ∃ id r, Holds Decoder.string .buffer (others frame) "id" id ∧
      Response.decoder .buffer payload = .ok r ∧ f = .next id r := by
  have hfields : ∀ f, fields .next .buffer (.obj (others frame)) = .ok f ↔ ∃ id r,
      Holds Decoder.string .buffer (others frame) "id" id ∧ Response.decoder .buffer payload = .ok r ∧ f = .next id r := by
    refine fun f => decoder_pair.trans ⟨?_, ?_⟩
    · rintro ⟨id, r, rfl, -, hid, t, ht, hr⟩
      obtain rfl := h.orderly.eq_of_mem (by decide) ht h.payload
      exact ⟨id, r, hid, hr, rfl⟩
    · rintro ⟨id, r, hid, hr, rfl⟩
      exact ⟨id, r, rfl, h.orderly, hid, payload, h.payload, hr⟩
  rw [ofText, Decoder.ofText_eq_ok_iff, htext, decoder, Variant.decoder_obj, ← hfields]
  simp only [h.kind, and_true]
  constructor
  · rintro ⟨_, t, k, -, ht, hk, -, hf⟩
    obtain rfl := List.singleton_inj.1 ht
    obtain rfl : .next = k := Except.ok.inj hk
    exact hf
  · intro hf
    exact ⟨inText 1, _, .next, rfl, rfl, rfl, h.kept, hf⟩

variable {members first : List (Option String × Tree)} {later : List Tree} {message : String}

/-- The first error of a response is told, with its message and the code that the vocabulary has for it, exactly when everything
beside the message is of its type. Otherwise no more is told than the status of the reply, or that a payload was malformed. -/
theorem first_error_told_unless_unsound (herrors : (some "errors", .arr (.obj first :: later)) ∈ members)
    (hmessage : (some "message", .str message) ∈ first) :
    (∀ body, Document.ofText body = ⟨.obj members, true⟩ → ∀ status,
      (∀ code, Sound inText members first later code → (Reply.mk status body).data = .error (.ofWireCode message code)) ∧
      ((∀ code, ¬ Sound inText members first later code) → ∃ why, (Reply.mk status body).data =
        .error (if Reply.isSuccess status then .malformed why else Reply.statusError status))) ∧
    ∀ text frame, Document.ofText text = ⟨.obj frame, true⟩ → IsNext frame (.obj members) →
      ∀ s : State, s.cancelled = false →
        (∀ code, Sound setAside members first later code → s.onText text = (s, .error (.ofWireCode message code))) ∧
        ((∀ code, ¬ Sound setAside members first later code) → ∃ why, s.onText text = (s, .error (.malformed why))) := by
  refine ⟨fun body hbody status => ⟨fun code h => ?_, fun h => ?_⟩, fun text frame htext hframe s hs => ⟨fun code h => ?_, fun h => ?_⟩⟩
  · obtain ⟨data, e, rest, hread, htold⟩ := h.reads (by decide) herrors hmessage
    have hresponse : Response.decoder.ofText body = .ok ⟨data, some (e :: rest)⟩ := by
      rw [Decoder.ofText_eq_ok_iff, hbody]
      exact ⟨hread, rfl⟩
    rw [Reply.data_of_errors hresponse, htold]
  · cases hread : Response.decoder.ofText body with
    | ok r =>
      rw [Decoder.ofText_eq_ok_iff, hbody] at hread
      have hr : Response.decoder (inText 0) (.obj members) = .ok r := hread.1
      obtain ⟨code, hsound⟩ := sound_of_reads hr (by decide) herrors
      exact absurd hsound (h code)
    | error why =>
      refine ⟨why, ?_⟩
      rw [Reply.data, hread]
  · obtain ⟨data, e, rest, hread, htold⟩ := h.reads (fun _ _ => rfl) herrors hmessage
    obtain ⟨id, hid⟩ := hframe.id
    rw [← htold]
    exact State.onText_of_brings hs (.next id data) ((ServerFrame.ofText_of_isNext htext hframe).2 ⟨id, _, hid, hread, rfl⟩)
  · cases hread : ServerFrame.ofText text with
    | ok f =>
      obtain ⟨-, r, -, hr, -⟩ := (ServerFrame.ofText_of_isNext htext hframe).1 hread
      have hr : Response.decoder (setAside 0) (.obj members) = .ok r := hr
      obtain ⟨code, hsound⟩ := sound_of_reads hr (fun _ _ => rfl) herrors
      exact absurd hsound (h code)
    | error why => exact ⟨why, State.onText_of_error hs hread⟩

/-- The first of the errors in a response, and its members, with any code. -/
def denied (code : Tree) : List (Option String × Tree) :=
  [(some "message", .str "denied"), (some "extensions", .record [("code", code)])]

/-- A response that reports one error, with any code. -/
def denial (code : Tree) : List (Option String × Tree) := [(some "errors", .arr [.obj (denied code)])]

theorem sound_denial : Sound inText (denial (.str "TEAPOT")) (denied (.str "TEAPOT")) [] (some "TEAPOT") where
  orderly := ⟨by decide, by decide, by decide⟩
  data := ⟨none, .inl ⟨by simp [denial], rfl⟩⟩
  orderlyFirst := ⟨by decide, by decide, by decide⟩
  extensions := ⟨some ⟨some "TEAPOT"⟩, .inr ⟨_, _, List.mem_of_mem_tail List.mem_cons_self, nofun, rfl, rfl⟩, rfl⟩
  path := ⟨none, .inl ⟨by simp [denied], rfl⟩⟩
  later := nofun

/-- A code outside the vocabulary is dropped, and the message is told whatever the status. -/
theorem unknown_code_is_dropped :
    (Reply.mk 403 (Tree.obj (denial (.str "TEAPOT"))).write).data = .error ⟨"denied", none, false⟩ := by
  have hexact : (Tree.obj (denial (.str "TEAPOT"))).Exact := ⟨rfl, nofun, nofun⟩
  have herrors : (some "errors", .arr [.obj (denied (.str "TEAPOT"))]) ∈ denial (.str "TEAPOT") := List.mem_cons_self
  have hmessage : (some "message", .str "denied") ∈ denied (.str "TEAPOT") := List.mem_cons_self
  exact ((first_error_told_unless_unsound herrors hmessage).1 _ (Document.ofText_write hexact) 403).1 _ sound_denial

/-- A code that is a number hides the error that a reply or a record of a subscription reports. -/
theorem number_as_code_hides_first_error :
    (Reply.mk 200 (Tree.obj (denial (.num (.int 5)))).write).data = .error (.malformed (.invalidType (.int 5) "a string")) ∧
    (Reply.mk 403 (Tree.obj (denial (.num (.int 5)))).write).data = .error ⟨"HTTP 403", some .forbidden, false⟩ ∧
    ((start ⟨"q", none⟩).onText
        (Tree.record [("type", .str "next"), ("payload", .obj (denial (.num (.int 5))))]).write).2 =
      .error (.malformed (.invalidType (.int 5) "a string")) := by
  have hfive : ∀ n ∈ [Number.int 5], n.IsInt ∧ n.Fits := List.forall_mem_singleton.2 ⟨trivial, by decide, by decide⟩
  have hbody : (Tree.obj (denial (.num (.int 5)))).Exact := ⟨rfl, fun n hn => (hfive n hn).1, fun n hn => (hfive n hn).2⟩
  have hnext : (Tree.record [("type", .str "next"), ("payload", .obj (denial (.num (.int 5))))]).Exact :=
    ⟨rfl, fun n hn => (hfive n hn).1, fun n hn => (hfive n hn).2⟩
  have hreply : Response.decoder.ofText (Tree.obj (denial (.num (.int 5)))).write = .error (.invalidType (.int 5) "a string") := by
    rw [Decoder.ofText_write hbody]
    rfl
  have hframe : ServerFrame.ofText (Tree.record [("type", .str "next"), ("payload", .obj (denial (.num (.int 5))))]).write =
      .error (.invalidType (.int 5) "a string") := by
    rw [ServerFrame.ofText, Decoder.ofText_write hnext]
    rfl
  refine ⟨?_, ?_, ?_⟩
  · rw [Reply.data, hreply]
    rfl
  · rw [Reply.data, hreply]
    rfl
  · rw [State.onText_of_error rfl hframe]

end Session

end FleetFeed
