import FleetFeed.Graphql.Response
import FleetFeed.Proofs.Json.Records

/-! Which objects are responses. A response is read as a whole: its data, and every one of its errors with everything in it that a
field of an error is named after. -/
namespace FleetFeed

open Json

namespace Json

/-- What the member of this name reads as, where it may be absent or null. -/
def Holds {α : Type} (d : Decoder α) (s : Source) (members : List (Option String × Tree)) (name : String) (o : Option α) : Prop :=
  (∀ t, (some name, t) ∈ members → t = .null) ∧ o = none ∨
    ∃ t a, (some name, t) ∈ members ∧ t ≠ .null ∧ d s t = .ok a ∧ o = some a

namespace Fields

variable {α : Type} {d : Decoder α} {record name : String} {names : List String} {s : Source}
  {members : List (Option String × Tree)}

theorem build_defaulted_found {a value : α} (h : Orderly names members) (hname : name ∈ names) :
    (defaulted name d value).build ⟨record, names, false, s, found names members⟩ = .ok a ↔
      (∀ t, (some name, t) ∉ members) ∧ a = value ∨ ∃ t, (some name, t) ∈ members ∧ d s t = .ok a := by
  rw [build_defaulted_eq_ok]
  simp only [h.lookup_eq_none_iff hname, h.lookup_eq_some_iff hname]

theorem build_optional_found {o : Option α} (h : Orderly names members) (hname : name ∈ names) :
    (optional name d).build ⟨record, names, false, s, found names members⟩ = .ok o ↔ Holds d s members name o := by
  rw [optional, build_defaulted_found h hname]
  simp only [Decoder.option_eq_ok_iff]
  constructor
  · rintro (⟨hnone, rfl⟩ | ⟨t, ht, ⟨rfl, rfl⟩ | ⟨hne, a, ha, rfl⟩⟩)
    · exact .inl ⟨fun t ht => absurd ht (hnone t), rfl⟩
    · exact .inl ⟨fun u hu => h.eq_of_mem hname hu ht, rfl⟩
    · exact .inr ⟨t, a, ht, hne, ha, rfl⟩
  · rintro (⟨hnull, rfl⟩ | ⟨t, a, ht, hne, ha, rfl⟩)
    · by_cases hnone : ∀ t, (some name, t) ∉ members
      · exact .inl ⟨hnone, rfl⟩
      · obtain ⟨t, ht⟩ := not_forall_not.1 hnone
        exact .inr ⟨t, ht, .inl ⟨hnull t ht, rfl⟩⟩
    · exact .inr ⟨t, ht, .inr ⟨hne, a, ha, rfl⟩⟩

end Fields

end Json

namespace Graphql

variable {s : Source} {members : List (Option String × Tree)}

/-- A message that is left out is empty; it may not be null. -/
theorem ReportedError.decoder_obj {e : ReportedError} : ReportedError.decoder s (.obj members) = .ok e ↔
    ∃ inner, s.enter = .ok inner ∧ Fields.Orderly ["message", "extensions", "path"] members ∧
      ((∀ t, (some "message", t) ∉ members) ∧ e.message = "" ∨
        ∃ t, (some "message", t) ∈ members ∧ Decoder.string inner t = .ok e.message) ∧
      Holds Extensions.decoder inner members "extensions" e.extensions ∧
      Holds (Decoder.list Decoder.free) inner members "path" e.path := by
  rw [decoder, Fields.decoder_obj (((Fields.Lawful.defaulted.map _).seq .optional).seq .optional)]
  refine exists_congr fun inner => and_congr_right fun _ => and_congr_right fun h => ?_
  simp only [Fields.build_seq_eq_ok, Fields.build_map_eq_ok]
  constructor
  · rintro ⟨_, ⟨_, ⟨message, hmessage, rfl⟩, extensions, hextensions, rfl⟩, path, hpath, rfl⟩
    exact ⟨(Fields.build_defaulted_found h (by decide)).1 hmessage, (Fields.build_optional_found h (by decide)).1 hextensions,
      (Fields.build_optional_found h (by decide)).1 hpath⟩
  · rintro ⟨hmessage, hextensions, hpath⟩
    exact ⟨_, ⟨_, ⟨e.message, (Fields.build_defaulted_found h (by decide)).2 hmessage, rfl⟩, e.extensions,
      (Fields.build_optional_found h (by decide)).2 hextensions, rfl⟩, e.path, (Fields.build_optional_found h (by decide)).2 hpath, rfl⟩

theorem Response.decoder_obj {r : Response} : Response.decoder s (.obj members) = .ok r ↔
    ∃ inner, s.enter = .ok inner ∧ Fields.Orderly ["data", "errors"] members ∧
      Holds Decoder.free inner members "data" r.data ∧
      Holds (Decoder.list ReportedError.decoder) inner members "errors" r.errors := by
  rw [decoder, Fields.decoder_obj ((Fields.Lawful.optional.map _).seq .optional)]
  refine exists_congr fun inner => and_congr_right fun _ => and_congr_right fun h => ?_
  simp only [Fields.build_seq_eq_ok, Fields.build_map_eq_ok]
  constructor
  · rintro ⟨_, ⟨data, hdata, rfl⟩, errors, herrors, rfl⟩
    exact ⟨(Fields.build_optional_found h (by decide)).1 hdata, (Fields.build_optional_found h (by decide)).1 herrors⟩
  · rintro ⟨hdata, herrors⟩
    exact ⟨_, ⟨r.data, (Fields.build_optional_found h (by decide)).2 hdata, rfl⟩, r.errors,
      (Fields.build_optional_found h (by decide)).2 herrors, rfl⟩

end Graphql

end FleetFeed
