import FleetFeed.Proofs.Json.Codecs

/-! Texts that are JSON. A text is JSON where all of it can be read: it has no fault, no number beyond the range of floating point and
no half of a surrogate pair, and its containers nest no deeper than a reader follows. -/
namespace FleetFeed.Json

/-- All of the text reads as one value. -/
def IsJson (text : String) : Prop := ∃ v, Decoder.free.ofText text = .ok v

/-- All of the text reads as one value, an object with these members in order. -/
structure IsObject (text : String) (members : List (Option String × Tree)) : Prop where
  json : IsJson text
  tree : (Document.ofText text).tree = .obj members

theorem isJson_iff {text : String} : IsJson text ↔ ((Document.ofText text).tree.value?.isSome ∧
    (Source.text Decoder.maxDepth).admits (Document.ofText text).tree) ∧ (Document.ofText text).ends := by
  simp only [IsJson, Decoder.ofText_eq_ok_iff, Decoder.free_eq_ok_iff, Option.isSome_iff_exists]
  constructor
  · rintro ⟨v, ⟨hv, hadmits⟩, hends⟩
    exact ⟨⟨⟨v, hv⟩, hadmits⟩, hends⟩
  · rintro ⟨⟨⟨v, hv⟩, hadmits⟩, hends⟩
    exact ⟨v, ⟨hv, hadmits⟩, hends⟩

theorem IsObject.ends {text : String} {members : List (Option String × Tree)} (h : IsObject text members) :
    (Document.ofText text).ends = true := (isJson_iff.1 h.json).2

theorem isObject_write {members : List (Option String × Tree)} (h : (Tree.obj members).Exact)
    (hheight : (Tree.obj members).height ≤ Decoder.maxDepth) : IsObject (Tree.obj members).write members := by
  have htext := Document.ofText_write h
  refine ⟨isJson_iff.2 ?_, by rw [htext]⟩
  rw [htext]
  exact ⟨⟨h.readable, decide_eq_true hheight⟩, rfl⟩

/-- The source of what stands directly in the container that a text is. -/
def Source.within : Source := .text (Decoder.maxDepth - 1)

theorem IsObject.keeps {text : String} {members : List (Option String × Tree)} (h : IsObject text members) :
    ∀ m ∈ members, Variant.Keeps .within m := by
  obtain ⟨⟨hvalue, hadmits⟩, -⟩ := isJson_iff.1 h.json
  rw [h.tree] at hvalue hadmits
  have hheight : (Tree.obj members).height ≤ Decoder.maxDepth := of_decide_eq_true hadmits
  intro m hm
  obtain ⟨hname, hread⟩ := Tree.isSome_value?_obj.1 hvalue m hm
  exact ⟨hname, hread, decide_eq_true (Tree.height_obj_le.1 hheight m hm)⟩

end FleetFeed.Json
