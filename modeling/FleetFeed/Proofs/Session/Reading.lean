import FleetFeed.Proofs.Graphql.Responses
import FleetFeed.Proofs.Json.Texts
import FleetFeed.Proofs.Session.Answers

/-! Which texts are frames. An object is the frame that its one kind and its other members say; of a kind that is not known it is
passed over, whatever else it holds. What is no frame is told, and leaves the session as it is. -/
namespace FleetFeed

open Json Graphql

namespace Session

open Variant (tags others tagName)

namespace ServerFrame

/-- What the members of a frame beside its kind say: a member that the kind asks for stands there once, and is of its type. -/
def Tells (members : List (Option String × Tree)) : ServerFrame → Prop
  | .connectionAck payload | .ping payload | .pong payload =>
    Fields.Orderly ["payload"] members ∧ Holds Decoder.free .buffer members "payload" payload
  | .next id r => Fields.Orderly ["id", "payload"] members ∧ Holds Decoder.string .buffer members "id" id ∧
      ∃ t, (some "payload", t) ∈ members ∧ Response.decoder .buffer t = .ok r
  | .error id p => Fields.Orderly ["id", "payload"] members ∧ Holds Decoder.string .buffer members "id" id ∧
      ∃ t, (some "payload", t) ∈ members ∧ ErrorPayload.decoder .buffer t = .ok p
  | .complete id => Fields.Orderly ["id"] members ∧ Holds Decoder.string .buffer members "id" id
  | .unknown => True

variable {members : List (Option String × Tree)} {f : ServerFrame} {name : String}

theorem decoder_lone {α : Type} {d : Decoder α} {field : String} {make : Option α → ServerFrame} :
    (make <$> Fields.optional field d).decoder name .buffer (.obj members) = .ok f ↔
      ∃ o, f = make o ∧ Fields.Orderly [field] members ∧ Holds d .buffer members field o := by
  rw [Fields.decoder_obj (.map _ .optional)]
  simp only [Fields.build_map_eq_ok]
  constructor
  · rintro ⟨_, ⟨⟩, honce, o, ho, rfl⟩
    exact ⟨o, rfl, honce, (Fields.build_optional_found honce List.mem_cons_self).1 ho⟩
  · rintro ⟨o, rfl, honce, ho⟩
    exact ⟨.buffer, rfl, honce, o, (Fields.build_optional_found honce List.mem_cons_self).2 ho, rfl⟩

theorem decoder_pair {α : Type} {d : Decoder α} {make : Option String → α → ServerFrame} :
    (make <$> Fields.optional "id" Decoder.string <*> Fields.required "payload" d).decoder name .buffer (.obj members) = .ok f ↔
      ∃ id a, f = make id a ∧ Fields.Orderly ["id", "payload"] members ∧ Holds Decoder.string .buffer members "id" id ∧
        ∃ t, (some "payload", t) ∈ members ∧ d .buffer t = .ok a := by
  have hid : "id" ∈ ["id", "payload"] := List.mem_cons_self
  have hpayload : "payload" ∈ ["id", "payload"] := List.mem_cons_of_mem _ List.mem_cons_self
  rw [Fields.decoder_obj ((Fields.Lawful.optional.map _).seq .required)]
  simp only [Fields.build_seq_eq_ok, Fields.build_map_eq_ok, Fields.build_required_eq_ok]
  constructor
  · rintro ⟨_, ⟨⟩, honce, _, ⟨id, ho, rfl⟩, a, ⟨t, ht, ha⟩, rfl⟩
    exact ⟨id, a, rfl, honce, (Fields.build_optional_found honce hid).1 ho, t, (honce.lookup_eq_some_iff hpayload).1 ht, ha⟩
  · rintro ⟨id, a, rfl, honce, ho, t, ht, ha⟩
    exact ⟨.buffer, rfl, honce, _, ⟨id, (Fields.build_optional_found honce hid).2 ho, rfl⟩, a,
      ⟨t, (honce.lookup_eq_some_iff hpayload).2 ht, ha⟩, rfl⟩

theorem kindOf_of_fields {k : Kind} (h : fields k .buffer (.obj members) = .ok f) : f.kindOf = k := by
  cases k with
  | connectionAck | ping | pong | complete =>
    obtain ⟨o, rfl, -⟩ := decoder_lone.1 h
    rfl
  | next | error =>
    obtain ⟨id, a, rfl, -⟩ := decoder_pair.1 h
    rfl
  | unknown =>
    obtain rfl : unknown = f := Except.ok.inj h
    rfl

theorem fields_kindOf : fields f.kindOf .buffer (.obj members) = .ok f ↔ Tells members f := by
  cases f with
  | connectionAck | ping | pong | complete => simp [kindOf, fields, decoder_lone, Tells]
  | next | error => simp [kindOf, fields, decoder_pair, Tells]
  | unknown => exact iff_of_true rfl trivial

/-- An object is the frame that its one kind and its other members say. -/
theorem ofText_of_isObject {text : String} (h : IsObject text members) :
    ofText text = .ok f ↔ ∃ name, tags members = [.str name] ∧ f.kindOf = kind name ∧ Tells (others members) f := by
  have hread : ofText text = .ok f ↔ decoder (.text Decoder.maxDepth) (.obj members) = .ok f := by
    rw [ofText, Decoder.ofText_eq_ok_iff, h.tree, h.ends]
    exact and_iff_left rfl
  rw [hread, decoder, Variant.decoder_obj]
  constructor
  · rintro ⟨inner, t, k, -, htags, hk, -, hf⟩
    obtain ⟨name, rfl, ⟨⟩⟩ := Variant.tag_eq_ok_iff.1 hk
    have hkind := kindOf_of_fields hf
    exact ⟨name, htags, hkind, fields_kindOf.1 (hkind ▸ hf)⟩
  · rintro ⟨name, htags, hkind, htells⟩
    exact ⟨.within, _, kind name, rfl, htags, rfl, fun m hm => h.keeps m (Variant.mem_others.1 hm).1,
      hkind ▸ fields_kindOf.2 htells⟩

/-- The names of the kinds that a client knows. -/
def known : List String := kinds.map Prod.fst

theorem kind_eq_unknown_iff : kind name = .unknown ↔ name ∉ known := by
  rw [known, ← lookup_eq_none_iff_notMem, kind]
  cases h : kinds.lookup name with
  | none => simp
  | some k =>
    have hmem : (name, k) ∈ kinds := mem_of_lookup h
    have hkinds : ∀ p ∈ kinds, p.2 ≠ .unknown := by decide
    simpa using hkinds _ hmem

theorem isJson_of_ofText {text : String} (h : ofText text = .ok f) : IsJson text := by
  obtain ⟨hread, hends⟩ := Decoder.ofText_eq_ok_iff.1 h
  exact isJson_iff.2 ⟨Variant.readable_of_decoder hread, hends⟩

/-- The ways in which a text that is no other JSON than an object is no frame. -/
inductive NoFrame (text : String) : Prop
  | notJson (h : ¬ IsJson text)
  /-- It does not say its kind, or says it twice, or not by name. -/
  | noKind {members : List (Option String × Tree)} (h : IsObject text members) (hkind : ∀ name, tags members ≠ [.str name])
  /-- It is of a known kind, but its other members do not make a frame of that kind. -/
  | illTyped {members : List (Option String × Tree)} {name : String} (h : IsObject text members)
      (hkind : tags members = [.str name]) (hname : name ∈ known)
      (htells : ∀ f : ServerFrame, f.kindOf = kind name → ¬ Tells (others members) f)

theorem NoFrame.not_ok {text : String} (h : NoFrame text) : ofText text ≠ .ok f := by
  intro hf
  cases h with
  | notJson h => exact h (isJson_of_ofText hf)
  | noKind h hkind =>
    obtain ⟨name, htags, -⟩ := (ofText_of_isObject h).1 hf
    exact hkind name htags
  | illTyped h hkind _ htells =>
    obtain ⟨name, htags, hk, hf⟩ := (ofText_of_isObject h).1 hf
    rw [hkind, List.singleton_inj, Tree.str.injEq] at htags
    exact htells f (htags ▸ hk) hf

end ServerFrame

open ServerFrame

/-- What a text does to a session that is not given up. It moves the session only if it reads as an acknowledgement that is awaited
or as the end of the subscription. An object of a kind that is not known is passed over, whatever else it holds. A text that is not
JSON, an object that says no kind, and one of a known kind whose members do not make such a frame are told as an error without a
code, and leave the session as it is. -/
theorem State.only_ack_and_complete_move {s : State} (hs : s.cancelled = false) (text : String) :
    ((s.onText text).1 = s ∨
      (s.phase = .awaitingAck ∧ (∃ payload, ofText text = .ok (.connectionAck payload)) ∧
        (s.onText text).1 = { s with phase := .streaming }) ∨
      ((∃ id, ofText text = .ok (.complete id)) ∧ (s.onText text).1 = { s with phase := .completed })) ∧
    (∀ members name, IsObject text members → tags members = [.str name] → name ∉ known → s.onText text = (s, .ignore)) ∧
    (NoFrame text → ∃ e, e.code = none ∧ s.onText text = (s, .error e)) := by
  refine ⟨?_, fun members name h htags hname => ?_, fun h => ?_⟩
  · cases hread : ofText text with
    | error e =>
      left
      rw [onText_of_error hs hread]
    | ok f =>
      rw [onText_of_ok hs hread, onFrame_fst hs]
      rcases s.phase.after_cases (some f.kindOf) with ⟨hphase, hkind, hafter⟩ | ⟨hkind, hafter⟩ | hkept
      · right; left
        rw [hafter]
        cases f with
        | connectionAck payload => exact ⟨hphase, ⟨payload, rfl⟩, rfl⟩
        | next | error | complete | ping | pong | unknown => cases hkind
      · right; right
        rw [hafter]
        cases f with
        | complete id => exact ⟨⟨id, rfl⟩, rfl⟩
        | connectionAck | next | error | ping | pong | unknown => cases hkind
      · left
        rw [hkept]
  · have hread : ofText text = .ok .unknown :=
      (ofText_of_isObject h).2 ⟨name, htags, (kind_eq_unknown_iff.2 hname).symm, trivial⟩
    rw [onText_of_ok hs hread]
    unfold onFrame
    rw [if_neg (by simp [hs])]
  · cases hread : ofText text with
    | ok f => exact absurd hread h.not_ok
    | error e => exact ⟨_, rfl, onText_of_error hs hread⟩

/-- An object of a kind of its own is passed over whatever it holds; a record without a payload, and a text that is not JSON, are
told, and the acknowledgement is still awaited. -/
theorem State.awaits_through_nonsense :
    let s := (start ⟨"q", none⟩).opened.1
    let aside := Tree.record [("type", .str "ka"), ("payload", .arr [.null]), ("id", .bool true), ("payload", .str "x")]
    let empty := Tree.record [("type", .str "next"), ("id", .str "1")]
    s.onText aside.write = (s, .ignore) ∧ (∃ e, e.code = none ∧ s.onText empty.write = (s, .error e)) ∧
      ∃ e, e.code = none ∧ s.onText "?" = (s, .error e) := by
  intro s aside empty
  have haside : IsObject aside.write _ := isObject_write (Tree.exact_of_no_numbers rfl rfl) (by decide)
  have hempty : IsObject empty.write _ := isObject_write (Tree.exact_of_no_numbers rfl rfl) (by decide)
  have hill : NoFrame empty.write := .illTyped hempty rfl (by decide) fun f hkind htells => by
    cases f with
    | next id r =>
      obtain ⟨-, -, t, ht, -⟩ := htells
      simp [others, tagName] at ht
    | connectionAck | error | complete | ping | pong | unknown => cases hkind
  have hno : NoFrame "?" := .notJson fun h => by
    obtain ⟨v, hv⟩ := h
    have hread : Decoder.free.ofText "?" = .error .notJson := by decide +kernel
    rw [hread] at hv
    cases hv
  exact ⟨(only_ack_and_complete_move rfl _).2.1 _ _ haside rfl (by decide), (only_ack_and_complete_move rfl _).2.2 hill,
    (only_ack_and_complete_move rfl _).2.2 hno⟩

end Session
end FleetFeed
