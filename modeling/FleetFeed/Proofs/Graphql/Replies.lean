import FleetFeed.Graphql.Reply
import FleetFeed.Proofs.Graphql.Responses
import FleetFeed.Proofs.Json.Positions
import FleetFeed.Proofs.Json.Texts

/-! What an HTTP reply comes to. It succeeds only with a status of success and a body that is a response without errors; otherwise
the first error of the body is told, or else the status, or else that the body cannot be read. -/
namespace FleetFeed

open Json

namespace Graphql

/-- The members of a body, which it gives by name or, in the order of the fields of a response, by place. -/
inductive Gives (body : String) : List (Option String × Tree) → Prop
  | byName {members : List (Option String × Tree)} (h : Document.ofText body = ⟨.obj members, true⟩) : Gives body members
  | byPlace {items : List Tree} (h : Document.ofText body = ⟨.arr items, true⟩) (hlength : items.length ≤ 2) :
    Gives body (Tree.named ["data", "errors"] items)

/-- Members that make a response: none of them twice, its data any value, its errors a list of errors; both may be null or left
out. -/
structure Makes (members : List (Option String × Tree)) (r : Response) : Prop where
  once : Fields.Orderly ["data", "errors"] members
  data : Holds Decoder.free .within members "data" r.data
  errors : Holds (Decoder.list ReportedError.decoder) .within members "errors" r.errors

/-- The body reads as this response. -/
def Carries (body : String) (r : Response) : Prop := ∃ members, Gives body members ∧ Makes members r

namespace Response

theorem decoder_makes {members : List (Option String × Tree)} {r : Response} :
    decoder (.text Decoder.maxDepth) (.obj members) = .ok r ↔ Makes members r := by
  rw [decoder_obj]
  constructor
  · rintro ⟨_, ⟨⟩, honce, hdata, herrors⟩
    exact ⟨honce, hdata, herrors⟩
  · rintro ⟨honce, hdata, herrors⟩
    exact ⟨_, rfl, honce, hdata, herrors⟩

theorem decoder_items {s : Source} {items : List Tree} {r : Response} :
    decoder s (.arr items) = .ok r ↔ items.length ≤ 2 ∧ decoder s (.obj (Tree.named ["data", "errors"] items)) = .ok r :=
  Fields.decoder_arr ((Fields.Lawful.optional.map _).seq .optional) ((Fields.Placeless.optional.map _).seq .optional) (by decide)

theorem ofText_eq_ok_iff {body : String} {r : Response} : decoder.ofText body = .ok r ↔ Carries body r := by
  rw [Decoder.ofText_eq_ok_iff]
  constructor
  · intro ⟨hread, hends⟩
    have htext : Document.ofText body = ⟨(Document.ofText body).tree, true⟩ := by rw [← hends]
    cases htree : (Document.ofText body).tree with
    | obj members =>
      rw [htree] at hread htext
      exact ⟨members, .byName htext, decoder_makes.1 hread⟩
    | arr items =>
      rw [htree] at hread htext
      obtain ⟨hlength, hread⟩ := decoder_items.1 hread
      exact ⟨_, .byPlace htext hlength, decoder_makes.1 hread⟩
    | null | bool | num | str | unreadable | broken =>
      rw [htree] at hread
      exact absurd hread (by simp [decoder, Fields.decoder])
  · rintro ⟨members, hgives, hmakes⟩
    cases hgives with
    | byName h =>
      rw [h]
      exact ⟨decoder_makes.2 hmakes, rfl⟩
    | byPlace h hlength =>
      rw [h]
      exact ⟨decoder_items.2 ⟨hlength, decoder_makes.2 hmakes⟩, rfl⟩

end Response

theorem Response.result_eq_ok_iff {r : Response} {v : Value} :
    r.result = .ok v ↔ (r.errors = none ∨ r.errors = some []) ∧ v = r.data.getD .null := by
  obtain ⟨data, errors⟩ := r
  match errors with
  | none | some [] => simp [result, eq_comm]
  | some (e :: later) => simp [result]

theorem Response.result_of_errors {r : Response} {e : ReportedError} {later : List ReportedError}
    (h : r.errors = some (e :: later)) : r.result = .error e.classified := by
  unfold result
  rw [h]

/-- Without an error that is reported there are data. -/
theorem Response.exists_result {r : Response} (h : ∀ e later, r.errors ≠ some (e :: later)) : ∃ v, r.result = .ok v := by
  refine ⟨_, result_eq_ok_iff.2 ⟨?_, rfl⟩⟩
  match hr : r.errors with
  | none => exact .inl rfl
  | some [] => exact .inr rfl
  | some (e :: later) => exact absurd hr (h e later)

namespace Reply

variable {status : Nat} {body : String}

theorem isSuccess_iff : isSuccess status = true ↔ 200 ≤ status ∧ status ≤ 299 := by
  simp only [isSuccess, Bool.and_eq_true, decide_eq_true_eq]
  omega

theorem data_eq_ok_iff {v : Value} : (Reply.mk status body).data = .ok v ↔
    isSuccess status = true ∧ ∃ r, Response.decoder.ofText body = .ok r ∧ r.result = .ok v := by
  unfold data
  cases hread : Response.decoder.ofText body with
  | error why => simp
  | ok r =>
    cases hresult : r.result with
    | error e => simp [hresult]
    | ok w => cases hs : isSuccess status <;> simp [hresult]

theorem data_of_failure (hs : ¬ isSuccess status = true)
    (h : ∀ r, Response.decoder.ofText body = .ok r → ∃ v, r.result = .ok v) :
    (Reply.mk status body).data = .error (statusError status) := by
  unfold data
  cases hread : Response.decoder.ofText body with
  | error why => simp [hs]
  | ok r =>
    obtain ⟨v, hv⟩ := h r hread
    simp [hv, hs]

/-- A reply succeeds exactly with a status of success and a body that reports no error, and then with the data of the body. An error
that the body reports comes before the status, and the status before a body that cannot be read. But a body may be an array as well
as an object. -/
theorem succeeds_only_without_errors (status : Nat) (body : String) :
    let answer := (Reply.mk status body).data
    (∀ v, answer = .ok v ↔ (200 ≤ status ∧ status ≤ 299) ∧
      ∃ r, Carries body r ∧ (r.errors = none ∨ r.errors = some []) ∧ v = r.data.getD .null) ∧
    (∀ r e later, Carries body r → r.errors = some (e :: later) → answer = .error e.classified) ∧
    (¬ (200 ≤ status ∧ status ≤ 299) → (∀ r e later, Carries body r → r.errors ≠ some (e :: later)) →
      answer = .error ⟨"HTTP " ++ Nat.repr status, statusCode status, false⟩) ∧
    ((200 ≤ status ∧ status ≤ 299) → (∀ r, ¬ Carries body r) → ∃ why, answer = .error (.malformed why)) := by
  intro answer
  simp only [← Response.ofText_eq_ok_iff, ← isSuccess_iff, ← Response.result_eq_ok_iff]
  refine ⟨fun v => data_eq_ok_iff, fun r e later hread herrors => ?_, fun hs h => ?_, fun hs h => ?_⟩
  · show Reply.data ⟨status, body⟩ = _
    unfold data
    rw [hread]
    simp only [Response.result_of_errors herrors]
  · exact data_of_failure hs fun r hread => Response.exists_result fun e later => h r e later hread
  · cases hread : Response.decoder.ofText body with
    | ok r => exact absurd hread (h r)
    | error why =>
      refine ⟨why, ?_⟩
      show Reply.data ⟨status, body⟩ = _
      unfold data
      rw [hread]
      simp only [hs, if_true]

/-- An array is no response. But an empty one is taken for one without data, one of a single value for the data, and one of two
values for the data and the errors. -/
theorem array_is_taken_for_response :
    (Reply.mk 200 "[]").data = .ok .null ∧ (Reply.mk 200 "[true]").data = .ok (.bool true) ∧
      (Reply.mk 404 (Tree.arr [.null, .arr [.obj [(some "message", .str "down")]]]).write).data = .error ⟨"down", none, false⟩ := by
  refine ⟨by decide +kernel, by decide +kernel, ?_⟩
  have hexact : (Tree.arr [.null, .arr [.obj [(some "message", .str "down")]]]).Exact :=
    Tree.exact_of_no_numbers rfl rfl
  unfold data
  rw [Decoder.ofText_write hexact]
  rfl

end Reply

end Graphql

end FleetFeed
