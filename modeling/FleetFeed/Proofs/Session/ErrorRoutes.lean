import FleetFeed.Graphql.Reply
import FleetFeed.Proofs.Session.Answers
import FleetFeed.Proofs.Session.WireTypes

/-! Errors that a server reports. They reach a client in a reply, in a record of a subscription, or in an error frame, as a list or
alone. On each of these routes the first of them is told: its message, and the code that the vocabulary has for it. -/
namespace FleetFeed

open Json Graphql

theorem ErrorCode.ofWire?_eq_some_iff {s : String} {c : ErrorCode} : ofWire? s = some c ↔ s = c.wire := by
  constructor
  · intro h
    have hwire : decide (c.wire = s) = true := by simpa using List.find?_some h
    exact (of_decide_eq_true hwire).symm
  · rintro rfl
    cases c <;> decide

/-- Without a code the raw message is shown, and nothing is known of the kind of the error. -/
theorem ClassifiedError.of_code_eq_none {e : ClassifiedError} (h : e.code = none) :
    e.userMessage = e.message ∧ e.classification = ⟨false, false, false, false, false, false, false⟩ := by
  rw [userMessage, classification, h]
  exact ⟨rfl, rfl⟩

namespace Graphql

theorem ReportedError.code_classified {e : ReportedError} {c : ErrorCode} :
    e.classified.code = some c ↔ e.code = some c.wire := by
  have hcode : e.classified.code = e.code.bind ErrorCode.ofWire? := rfl
  rw [hcode, Option.bind_eq_some_iff]
  constructor
  · rintro ⟨s, hs, hc⟩
    rw [hs, ErrorCode.ofWire?_eq_some_iff.1 hc]
  · exact fun h => ⟨c.wire, h, ErrorCode.ofWire?_eq_some_iff.2 rfl⟩

theorem Reply.data_of_errors {status : Nat} {body : String} {data : Option Value} {e : ReportedError}
    {later : List ReportedError} (h : Response.decoder.ofText body = .ok ⟨data, some (e :: later)⟩) :
    (Reply.mk status body).data = .error e.classified := by
  rw [Reply.data, h]
  rfl

end Graphql

namespace Session

/-- The frames that bring these errors, or the first of them alone. -/
inductive Brings (e : ReportedError) (later : List ReportedError) : ServerFrame → Prop
  | next (id : Option String) (data : Option Value) : Brings e later (.next id ⟨data, some (e :: later)⟩)
  | many (id : Option String) : Brings e later (.error id (.many (e :: later)))
  | one (id : Option String) : Brings e later (.error id (.one e))

variable {e : ReportedError} {later : List ReportedError} {f : ServerFrame} {s : State}

theorem Brings.settle (h : Brings e later f) : Brings e later f.settle := by
  cases h with
  | next id data => exact .next id _
  | many id => exact .many id
  | one id => exact .one id

theorem State.onFrame_of_brings (hs : s.cancelled = false) (h : Brings e later f) : s.onFrame f = (s, .error e.classified) := by
  cases h <;> simp [onFrame, hs, Response.result, ErrorPayload.classified]

theorem State.onText_of_brings (hs : s.cancelled = false) (h : Brings e later f) {text : String}
    (htext : ServerFrame.ofText text = .ok f) : s.onText text = (s, .error e.classified) := by
  rw [onText_of_ok hs htext, onFrame_of_brings hs h]

/-- On every route the client is told the same of some errors: the message of the first, and the code whose wire form it
carries. -/
theorem error_routes_agree (e : ReportedError) (later : List ReportedError) :
    (∀ status data,
      (∀ body, Response.decoder.ofText body = .ok ⟨data, some (e :: later)⟩ → (Reply.mk status body).data = .error e.classified) ∧
      ((∀ v ∈ Response.free ⟨data, some (e :: later)⟩, v.Plain) →
        (Response.toTree ⟨data, some (e :: later)⟩).height ≤ Decoder.maxDepth →
        (Reply.mk status (Response.toTree ⟨data, some (e :: later)⟩).write).data = .error e.classified)) ∧
    (∀ (s : State) f, s.cancelled = false → Brings e later f →
      s.onFrame f = (s, .error e.classified) ∧
      (∀ text, ServerFrame.ofText text = .ok f → s.onText text = (s, .error e.classified)) ∧
      ((∀ v ∈ f.free, v.Plain) → f.toTree.height ≤ Decoder.maxDepth →
        s.onText f.toTree.write = (s, .error e.classified))) ∧
    e.classified.message = e.message ∧
    (∀ c, e.classified.code = some c ↔ e.code = some c.wire) ∧
    (e.classified.code = none → e.classified.userMessage = e.message ∧
      e.classified.classification = ⟨false, false, false, false, false, false, false⟩) := by
  refine ⟨fun status data => ⟨fun body => Reply.data_of_errors, fun hplain hheight => ?_⟩,
    fun s f hs hf => ⟨State.onFrame_of_brings hs hf, fun text => State.onText_of_brings hs hf, fun hplain hheight => ?_⟩, rfl,
    fun c => ReportedError.code_classified, ClassifiedError.of_code_eq_none⟩
  · exact Reply.data_of_errors (Response.codec.ofText_write hplain hheight)
  · exact State.onText_of_brings hs hf.settle (ServerFrame.codec.ofText_write hplain hheight)

/-- A reply, a record and both kinds of error frame that report a denial, under any status. -/
theorem denial_told_alike :
    let denied : ReportedError := ⟨"denied", some ⟨some "FORBIDDEN"⟩, none⟩
    let session : State := start ⟨"q", none⟩
    let told : ClassifiedError := ⟨"denied", some .forbidden, false⟩
    (Reply.mk 500 (Response.toTree ⟨none, some [denied]⟩).write).data = .error told ∧
    (session.onText (ServerFrame.next none ⟨none, some [denied]⟩).toTree.write).2 = .error told ∧
    (session.onText (ServerFrame.error none (.many [denied])).toTree.write).2 = .error told ∧
    (session.onText (ServerFrame.error none (.one denied)).toTree.write).2 = .error told := by
  intro denied session told
  obtain ⟨hreply, hsession, -⟩ := error_routes_agree denied []
  have hframe : ∀ f, Brings denied [] f → f.free = [] → f.toTree.height ≤ Decoder.maxDepth →
      (session.onText f.toTree.write).2 = .error told := by
    intro f hf hfree hheight
    rw [(hsession session f rfl hf).2.2 (by simp [hfree]) hheight]
    rfl
  exact ⟨(hreply 500 none).2 nofun (by decide), hframe _ (.next none none) rfl (by decide), hframe _ (.many none) rfl (by decide),
    hframe _ (.one none) rfl (by decide)⟩

end Session

end FleetFeed
