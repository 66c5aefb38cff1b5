import FleetFeed.Proofs.Json.Records

/-! Records that are written as arrays. The items of an array stand for the fields in order, and fields at the end may be missing as
they may be missing from an object: an array reads as the object that names its items (`decoder_arr`). -/
namespace FleetFeed.Json

/-- The members that the items of an array stand for, by their places. -/
def Tree.named (names : List String) (items : List Tree) : List (Option String × Tree) :=
  (names.zip items).map fun c => (some c.1, c.2)

namespace Fields

variable {α β : Type} {x : Fields α} {name : String} {d : Decoder α}

/-- What is built does not depend on whether the fields were found by name or by place. -/
def Placeless (x : Fields α) : Prop :=
  ∀ (r : Row) (positional : Bool) (a : α), x.build { r with positional } = .ok a ↔ x.build r = .ok a

theorem Placeless.map (f : α → β) (hx : x.Placeless) : (f <$> x).Placeless := by
  intro r positional b
  simp only [build_map_eq_ok, hx r positional]

theorem Placeless.seq {f : Fields (α → β)} (hf : f.Placeless) (hx : x.Placeless) : (f <*> x).Placeless := by
  intro r positional b
  simp only [build_seq_eq_ok, hf r positional, hx r positional]

theorem Placeless.required : (required name d).Placeless := by
  intro r positional a
  simp only [build_required_eq_ok]

theorem Placeless.defaulted {value : α} : (defaulted name d value).Placeless := by
  intro r positional a
  simp only [build_defaulted_eq_ok]

theorem Placeless.optional : (optional name d).Placeless := .defaulted

theorem checkItems_eq_ok_iff {s : Source} {fields : List Field} {items : List Tree} {cells : List (String × Tree)} :
    checkItems s fields items = .ok cells ↔
      (∀ p ∈ fields.zip items, p.1.check s p.2 = .ok ()) ∧ cells = (fields.map (·.name)).zip items := by
  induction fields generalizing items cells with
  | nil => simp [checkItems, eq_comm]
  | cons f fields ih =>
    cases items with
    | nil => simp [checkItems, eq_comm]
    | cons t items =>
      simp only [checkItems, except_bind_eq_ok, ih, pure, Except.pure, Except.ok.injEq, List.zip_cons_cons, List.map_cons,
        List.forall_mem_cons]
      constructor
      · rintro ⟨⟨⟩, hf, _, ⟨hrest, rfl⟩, rfl⟩
        exact ⟨⟨hf, hrest⟩, rfl⟩
      · rintro ⟨⟨hf, hrest⟩, rfl⟩
        exact ⟨(), hf, _, ⟨hrest, rfl⟩, rfl⟩

theorem map_fst_zip_eq_take (names : List String) (items : List β) :
    (names.zip items).map Prod.fst = names.take items.length := by
  induction names generalizing items with
  | nil => simp
  | cons name names ih =>
    cases items with
    | nil => rfl
    | cons t items => rw [List.zip_cons_cons, List.map_cons, ih, List.length_cons, List.take_succ_cons]

theorem map_fst_zip_sublist (names : List String) (items : List β) : ((names.zip items).map Prod.fst).Sublist names := by
  rw [map_fst_zip_eq_take]
  exact List.take_sublist _ _

/-- An array reads as the object that gives the fields its items in order. -/
theorem decoder_arr (hx : x.Lawful) (hplace : x.Placeless) (hnames : x.names.Nodup) {s : Source} {items : List Tree} {a : α} :
    x.decoder name s (.arr items) = .ok a ↔
      items.length ≤ x.names.length ∧ x.decoder name s (.obj (Tree.named x.names items)) = .ok a := by
  have hfound : found x.names (Tree.named x.names items) = x.names.zip items :=
    found_record fun c hc => (List.of_mem_zip hc).1
  have hnodup := hnames.sublist (map_fst_zip_sublist x.names items)
  have horderly : Orderly x.names (Tree.named x.names items) := by
    refine ⟨fun m hm => ?_, fun m hm hother => ?_, hfound ▸ hnodup⟩ <;> obtain ⟨c, hc, rfl⟩ := List.mem_map.1 hm
    · rfl
    · exact absurd rfl (hother c.1 (List.of_mem_zip hc).1)
  have hlength : x.names.length = x.fields.length := List.length_map _
  rw [decoder_obj hx, hfound, hlength]
  simp only [decoder, except_bind_eq_ok, checkItems_eq_ok_iff]
  constructor
  · rintro ⟨inner, henter, _, ⟨-, rfl⟩, b, hb, hlength⟩
    split_ifs at hlength with hle
    obtain rfl : b = a := Except.ok.inj hlength
    exact ⟨hle, inner, henter, horderly, (hplace _ true _).1 hb⟩
  · rintro ⟨hle, inner, henter, -, ha⟩
    refine ⟨inner, henter, _, ⟨fun p hp => ?_, rfl⟩, a, (hplace _ true _).2 ha, if_pos hle⟩
    have hmem : (p.1.name, p.2) ∈ x.names.zip items := by
      rw [names, List.zip_map_left]
      exact List.mem_map_of_mem hp
    exact hx.checked ha p.1 (List.of_mem_zip hp).1 p.2 ((lookup_eq_some_iff_mem hnodup).2 hmem)

end Fields

end FleetFeed.Json
