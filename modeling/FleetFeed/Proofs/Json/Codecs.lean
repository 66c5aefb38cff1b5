import FleetFeed.Proofs.Json.TextRoundTrip
import FleetFeed.Proofs.Json.Variants

/-! Decoders and the writers that they undo. A codec is a decoder with a writer and two laws: what is written is read back, and what
is read could have been written, with no more nesting and no other numbers than what it was read from. Records are put together
from their fields as pairs, so that the laws of a type follow from those of its parts. -/
namespace FleetFeed.Json

/-- A tree that nests no deeper than `n` and has no numbers but these. -/
structure Tree.Within (n : Nat) (numbers : List Number) (t : Tree) : Prop where
  height : t.height ≤ n
  numbers : t.numbers ⊆ numbers

structure Codec (α : Type) where
  decoder : Decoder α
  toTree : α → Tree
  /-- The values inside that can be any JSON. -/
  free : α → List Value
  /-- What is read back. -/
  settle : α → α
  readable : ∀ a, (toTree a).value?.isSome
  numbers : ∀ {a n}, n ∈ (toTree a).numbers ↔ ∃ v ∈ free a, n ∈ v.numbers
  reads : ∀ {a s}, (∀ v ∈ free a, v.Sorted) → s.admits (toTree a) → decoder s (toTree a) = .ok (settle a)
  origin : ∀ {s t a}, decoder s t = .ok a →
    settle a = a ∧ (∀ v ∈ free a, v.Sorted) ∧ (toTree a).Within (s.room t) t.numbers

/-- The cells of a row were read from trees that nest no deeper than `n` and have no numbers but these. -/
def Row.Within (n : Nat) (numbers : List Number) (r : Row) : Prop :=
  ∀ c ∈ r.cells, r.source.room c.2 ≤ n ∧ c.2.numbers ⊆ numbers

/-- The fields of a record and the cells that are written for them. -/
structure RecordCodec (α : Type) where
  fields : Fields α
  cells : α → List (String × Tree)
  free : α → List Value
  settle : α → α
  lawful : fields.Lawful
  nodup : fields.names.Nodup
  names : ∀ a, ((cells a).map Prod.fst).Sublist fields.names
  readable : ∀ a, ∀ c ∈ cells a, c.2.value?.isSome
  numbers : ∀ {a n}, (∃ c ∈ cells a, n ∈ c.2.numbers) ↔ ∃ v ∈ free a, n ∈ v.numbers
  builds : ∀ {a r}, (∀ v ∈ free a, v.Sorted) → (∀ name ∈ fields.names, r.cells.lookup name = (cells a).lookup name) →
    (∀ c ∈ cells a, r.source.admits c.2) → fields.build r = .ok (settle a)
  origin : ∀ {a r n numbers}, fields.build r = .ok a → r.Within n numbers →
    settle a = a ∧ (∀ v ∈ free a, v.Sorted) ∧ ∀ c ∈ cells a, c.2.Within n numbers

/-! ### Texts -/

/-- A value that a text says all of: its integers are of 64 bits, and it holds no other numbers. -/
structure Value.Plain (v : Value) : Prop where
  sorted : v.Sorted
  integers : ∀ n ∈ v.numbers, n.IsInt
  fit : ∀ n ∈ v.numbers, n.Fits

/-- What is written is read back, settled; and what was read from a text is written as a text that reads the same. -/
structure RoundTrips {α : Type} (d : Decoder α) (toTree : α → Tree) (free : α → List Value) (settle : α → α) : Prop where
  tree : ∀ s a, (∀ v ∈ free a, v.Sorted) → s.admits (toTree a) → d s (toTree a) = .ok (settle a)
  text : ∀ a, (∀ v ∈ free a, v.Plain) → (toTree a).height ≤ Decoder.maxDepth → d.ofText (toTree a).write = .ok (settle a)
  again : ∀ text a, d.ofText text = .ok a → (∀ v ∈ free a, ∀ n ∈ v.numbers, n.IsInt) →
    d.ofText (toTree a).write = .ok a ∧ ∀ b, d.ofText (toTree a).write = .ok b → (toTree b).write = (toTree a).write

theorem Decoder.ofText_eq_ok_iff {α : Type} {d : Decoder α} {text : String} {a : α} :
    d.ofText text = .ok a ↔ d (.text maxDepth) (Document.ofText text).tree = .ok a ∧ (Document.ofText text).ends := by
  simp only [ofText, except_bind_eq_ok]
  constructor
  · rintro ⟨b, hb, hends⟩
    split_ifs at hends with h
    · exact ⟨Except.ok.inj hends ▸ hb, h⟩
  · rintro ⟨ha, hends⟩
    exact ⟨a, ha, if_pos hends⟩

theorem Decoder.ofText_write {α : Type} {t : Tree} (h : t.Exact) (d : Decoder α) : d.ofText t.write = d (.text maxDepth) t := by
  rw [ofText, Document.ofText_write h]
  cases d (.text maxDepth) t <;> rfl

namespace Codec

variable {α : Type}

theorem ofText_write {c : Codec α} {a : α} (h : ∀ v ∈ c.free a, v.Plain) (hheight : (c.toTree a).height ≤ Decoder.maxDepth) :
    c.decoder.ofText (c.toTree a).write = .ok (c.settle a) := by
  have hexact : (c.toTree a).Exact := by
    refine ⟨c.readable a, fun n hn => ?_, fun n hn => ?_⟩ <;> obtain ⟨v, hv, hn⟩ := c.numbers.1 hn
    · exact (h v hv).integers n hn
    · exact (h v hv).fit n hn
  rw [Decoder.ofText_write hexact]
  exact c.reads (fun v hv => (h v hv).sorted) (decide_eq_true hheight)

theorem ofText_write_of_read {c : Codec α} {text : String} {a : α} (h : c.decoder.ofText text = .ok a)
    (hint : ∀ v ∈ c.free a, ∀ n ∈ v.numbers, n.IsInt) : c.decoder.ofText (c.toTree a).write = .ok a := by
  obtain ⟨hread, -⟩ := Decoder.ofText_eq_ok_iff.1 h
  obtain ⟨hsettle, hsorted, hwithin⟩ := c.origin hread
  have hfit : ∀ v ∈ c.free a, ∀ n ∈ v.numbers, n.Fits := fun v hv n hn =>
    Document.fits_of_ofText text n (hwithin.numbers (c.numbers.2 ⟨v, hv, hn⟩))
  rw [ofText_write (fun v hv => ⟨hsorted v hv, hint v hv, hfit v hv⟩) hwithin.height, hsettle]

theorem roundTrips (c : Codec α) : RoundTrips c.decoder c.toTree c.free c.settle where
  tree _ _ := c.reads
  text _ := ofText_write
  again text a h hint := by
    have hread := ofText_write_of_read h hint
    refine ⟨hread, fun b hb => ?_⟩
    obtain rfl : a = b := Except.ok.inj (hread.symm.trans hb)
    rfl

/-- The same codec, its parts in other words. -/
def copy (c : Codec α) (decoder : Decoder α) (toTree : α → Tree) (free : α → List Value) (settle : α → α)
    (hdecoder : decoder = c.decoder) (htoTree : toTree = c.toTree) (hfree : free = c.free) (hsettle : settle = c.settle) :
    Codec α where
  decoder := decoder
  toTree := toTree
  free := free
  settle := settle
  readable := htoTree ▸ c.readable
  numbers := by
    subst htoTree hfree
    exact c.numbers
  reads := by
    subst hdecoder htoTree hfree hsettle
    exact c.reads
  origin := by
    subst hdecoder htoTree hfree hsettle
    exact c.origin

/-! ### Single values -/

def string : Codec String where
  decoder := Decoder.string
  toTree := .str
  free _ := []
  settle := id
  readable _ := rfl
  numbers := by simp [Tree.numbers]
  reads _ _ := rfl
  origin {s t a} h := by
    cases t with
    | str b => exact ⟨rfl, nofun, ⟨Nat.zero_le _, List.nil_subset _⟩⟩
    | null | bool | num | arr | obj | unreadable | broken => exact absurd h (by simp [Decoder.string])

theorem isSome_value?_toTree (v : Value) : v.toTree.value?.isSome := by
  induction v using Value.induction with
  | leaf v harr hobj =>
    cases v with
    | arr items => exact absurd rfl (harr items)
    | obj members => exact absurd rfl (hobj members)
    | null | bool | num | str => rfl
  | arr items ih =>
    rw [Value.toTree, Value.treesOfItems_eq, Tree.isSome_value?_arr, List.forall_mem_map]
    exact ih
  | obj members ih =>
    rw [Value.toTree, Value.treesOfMembers_eq, Tree.isSome_value?_obj, List.forall_mem_map]
    exact fun m hm => ⟨rfl, ih m hm⟩

theorem within_of_free {s : Source} {t : Tree} {v : Value} (h : Decoder.free s t = .ok v) :
    v.Sorted ∧ v.toTree.Within (s.room t) t.numbers := by
  obtain ⟨hv, hadmits⟩ := Decoder.free_eq_ok_iff.1 h
  exact ⟨Tree.sorted_of_value? hv, (Tree.height_of_value? hv).trans (Source.height_le_room hadmits), Tree.numbers_of_value? hv⟩

def value : Codec Value where
  decoder := Decoder.free
  toTree := Value.toTree
  free v := [v]
  settle := id
  readable := isSome_value?_toTree
  numbers := by simp [Value.numbers]
  reads h hs := Decoder.free_eq_ok_iff.2 ⟨Value.value?_toTree (h _ List.mem_cons_self), hs⟩
  origin h := ⟨rfl, List.forall_mem_singleton.2 (within_of_free h).1, (within_of_free h).2⟩

/-! ### Values that may be absent -/

/-- A value or null; nothing that is written for a value may look like null. -/
def optional (c : Codec α) (h : ∀ a, c.toTree a ≠ .null) : Codec (Option α) where
  decoder := c.decoder.option
  toTree := Tree.ofOption c.toTree
  free o := (o.map c.free).getD []
  settle := Option.map c.settle
  readable
    | none => rfl
    | some a => c.readable a
  numbers {o n} := by
    cases o with
    | none => simp [Tree.ofOption, Tree.numbers]
    | some a => exact c.numbers
  reads {o s} hsorted hs := by
    cases o with
    | none => rfl
    | some a => exact Decoder.option_eq_ok_iff.2 (.inr ⟨h a, _, c.reads hsorted hs, rfl⟩)
  origin {s t o} hread := by
    rcases Decoder.option_eq_ok_iff.1 hread with ⟨-, rfl⟩ | ⟨-, a, ha, rfl⟩
    · exact ⟨rfl, nofun, ⟨Nat.zero_le _, List.nil_subset _⟩⟩
    · obtain ⟨hsettle, hsorted, hwithin⟩ := c.origin ha
      exact ⟨congrArg some hsettle, hsorted, hwithin⟩

/-- Null stands for no value, so it is read back as none. -/
def present : Option Value → Option Value
  | some .null => none
  | o => o

/-- Any JSON or nothing. -/
def anything : Codec (Option Value) where
  decoder := Decoder.free.option
  toTree := Tree.ofOption Value.toTree
  free := Option.toList
  settle := present
  readable
    | none => rfl
    | some v => isSome_value?_toTree v
  numbers {o n} := by cases o <;> simp [Tree.ofOption, Tree.numbers, Value.numbers]
  reads {o s} hsorted hs := by
    cases o with
    | none => rfl
    | some v =>
      have hread : Decoder.free s v.toTree = .ok v :=
        Decoder.free_eq_ok_iff.2 ⟨Value.value?_toTree (hsorted v List.mem_cons_self), hs⟩
      cases v with
      | null => rfl
      | bool | num | str | arr | obj => exact Decoder.option_eq_ok_iff.2 (.inr ⟨by simp [Tree.ofOption, Value.toTree], _, hread, rfl⟩)
  origin {s t o} hread := by
    rcases Decoder.option_eq_ok_iff.1 hread with ⟨-, rfl⟩ | ⟨ht, v, hv, rfl⟩
    · exact ⟨rfl, nofun, ⟨Nat.zero_le _, List.nil_subset _⟩⟩
    · obtain ⟨-, hsorted, hwithin⟩ := value.origin hv
      refine ⟨?_, hsorted, hwithin⟩
      cases v with
      | null => exact absurd (Tree.eq_null_of_value? (Decoder.free_eq_ok_iff.1 hv).1) ht
      | bool | num | str | arr | obj => rfl

/-! ### Lists -/

def list (c : Codec α) : Codec (List α) where
  decoder := c.decoder.list
  toTree as := .arr (as.map c.toTree)
  free as := as.flatMap c.free
  settle := List.map c.settle
  readable as := Tree.isSome_value?_arr.2 (List.forall_mem_map.2 fun a _ => c.readable a)
  numbers {as n} := by
    simp only [Tree.mem_numbers_arr, List.mem_map, List.mem_flatMap]
    constructor
    · rintro ⟨_, ⟨a, ha, rfl⟩, hn⟩
      obtain ⟨v, hv, hn⟩ := c.numbers.1 hn
      exact ⟨v, ⟨a, ha, hv⟩, hn⟩
    · rintro ⟨v, ⟨a, ha, hv⟩, hn⟩
      exact ⟨_, ⟨a, ha, rfl⟩, c.numbers.2 ⟨v, hv, hn⟩⟩
  reads {as s} hsorted hs := by
    obtain ⟨inner, henter, hinner⟩ := Source.exists_enter hs (Nat.succ_pos _)
    have hitems : List.mapM (c.decoder inner) (as.map c.toTree) = .ok (as.map c.settle) := by
      rw [mapM_eq_ok_iff, List.forall₂_map_left_iff, List.forall₂_map_right_iff, List.forall₂_same]
      exact fun a ha => c.reads (fun v hv => hsorted v (List.mem_flatMap_of_mem ha hv)) (hinner _ (List.mem_map_of_mem ha))
    simp only [Decoder.list, henter]
    exact hitems
  origin {s t as} hread := by
    cases t with
    | arr items =>
      simp only [Decoder.list, except_bind_eq_ok, mapM_eq_ok_iff] at hread
      obtain ⟨inner, henter, hitems⟩ := hread
      obtain ⟨n, hn, hroom⟩ := Source.room_of_enter (t := .arr items) henter (Nat.succ_pos _)
      have horigin : ∀ a ∈ as, c.settle a = a ∧ (∀ v ∈ c.free a, v.Sorted) ∧ (c.toTree a).Within n (Tree.arr items).numbers := by
        intro a ha
        obtain ⟨t, ht, hta⟩ := Tree.exists_of_forall₂ hitems ha
        obtain ⟨hsettle, hsorted, hwithin⟩ := c.origin hta
        exact ⟨hsettle, hsorted, hwithin.height.trans (hroom t ht),
          fun x hx => Tree.mem_numbers_arr.2 ⟨t, ht, hwithin.numbers hx⟩⟩
      refine ⟨?_, fun v hv => ?_, ?_, fun x hx => ?_⟩
      · exact (List.map_congr_left fun a ha => (horigin a ha).1).trans (List.map_id as)
      · obtain ⟨a, ha, hv⟩ := List.mem_flatMap.1 hv
        exact (horigin a ha).2.1 v hv
      · rw [hn, Tree.height_arr_le, List.forall_mem_map]
        exact fun a ha => (horigin a ha).2.2.height
      · obtain ⟨_, ht, hx⟩ := Tree.mem_numbers_arr.1 hx
        obtain ⟨a, ha, rfl⟩ := List.mem_map.1 ht
        exact (horigin a ha).2.2.numbers hx
    | null | bool | num | str | obj | unreadable | broken => exact absurd hread (by simp [Decoder.list])

end Codec

/-! ### Records -/

theorem Row.Within.of_lookup {r : Row} {n : Nat} {numbers : List Number} {name : String} {t : Tree} (h : r.Within n numbers)
    (ht : r.cells.lookup name = some t) : r.source.room t ≤ n ∧ t.numbers ⊆ numbers := h _ (mem_of_lookup ht)

theorem Fields.exists_row {α : Type} {x : Fields α} {name : String} {s : Source} {t : Tree} {a : α}
    (h : x.decoder name s t = .ok a) : ∃ r n, x.build r = .ok a ∧ s.room t = n + 1 ∧ r.Within n t.numbers := by
  obtain ⟨r, hbuild, henter, ht, hparts⟩ := exists_build h
  obtain ⟨n, hn, hroom⟩ := Source.room_of_enter henter ht
  exact ⟨r, n, hbuild, hn, fun c hc => ⟨hroom _ (hparts c hc), Tree.numbers_of_mem_parts (hparts c hc)⟩⟩

theorem Tree.Within.mono {m n : Nat} {ms ns : List Number} {t : Tree} (h : t.Within m ms) (hn : m ≤ n) (hns : ms ⊆ ns) :
    t.Within n ns := ⟨h.height.trans hn, List.Subset.trans h.numbers hns⟩

namespace RecordCodec

variable {α β : Type}

/-- A field that is always written and has to be there. -/
def required (name : String) (c : Codec α) : RecordCodec α where
  fields := Fields.required name c.decoder
  cells a := [(name, c.toTree a)]
  free := c.free
  settle := c.settle
  lawful := .required
  nodup := List.nodup_singleton name
  names _ := List.Sublist.refl _
  readable a := List.forall_mem_singleton.2 (c.readable a)
  numbers := by simp [c.numbers]
  builds {a r} hsorted hcells hadmits := by
    refine Fields.build_required_eq_ok.2 ⟨c.toTree a, ?_, c.reads hsorted (hadmits _ List.mem_cons_self)⟩
    rw [hcells name List.mem_cons_self, List.lookup_cons_self]
  origin hbuild hr := by
    obtain ⟨t, ht, ha⟩ := Fields.build_required_eq_ok.1 hbuild
    obtain ⟨hsettle, hsorted, hwithin⟩ := c.origin ha
    obtain ⟨hroom, hnumbers⟩ := hr.of_lookup ht
    exact ⟨hsettle, hsorted, List.forall_mem_singleton.2 (hwithin.mono hroom hnumbers)⟩

/-- A field that is always written and has a value of its own where it is left out. -/
def defaulted (name : String) (c : Codec α) (value : α) (hsettle : c.settle value = value) (hfree : c.free value = [])
    (hheight : (c.toTree value).height = 0) : RecordCodec α where
  fields := Fields.defaulted name c.decoder value
  cells a := [(name, c.toTree a)]
  free := c.free
  settle := c.settle
  lawful := .defaulted
  nodup := List.nodup_singleton name
  names _ := List.Sublist.refl _
  readable a := List.forall_mem_singleton.2 (c.readable a)
  numbers := by simp [c.numbers]
  builds {a r} hsorted hcells hadmits := by
    refine Fields.build_defaulted_eq_ok.2 (.inr ⟨c.toTree a, ?_, c.reads hsorted (hadmits _ List.mem_cons_self)⟩)
    rw [hcells name List.mem_cons_self, List.lookup_cons_self]
  origin hbuild hr := by
    rcases Fields.build_defaulted_eq_ok.1 hbuild with ⟨-, rfl⟩ | ⟨t, ht, ha⟩
    · refine ⟨hsettle, by simp [hfree], List.forall_mem_singleton.2 ⟨hheight.trans_le (Nat.zero_le _), fun x hx => ?_⟩⟩
      obtain ⟨v, hv, -⟩ := c.numbers.1 hx
      exact absurd (hfree ▸ hv) List.not_mem_nil
    · obtain ⟨hsettle, hsorted, hwithin⟩ := c.origin ha
      obtain ⟨hroom, hnumbers⟩ := hr.of_lookup ht
      exact ⟨hsettle, hsorted, List.forall_mem_singleton.2 (hwithin.mono hroom hnumbers)⟩

/-- A field that is written where it has a value. -/
def skipped (name : String) (c : Codec (Option α)) (hsettle : c.settle none = none) (hfree : c.free none = []) :
    RecordCodec (Option α) where
  fields := Fields.defaulted name c.decoder none
  cells := Tree.fieldOf name fun a => c.toTree (some a)
  free := c.free
  settle := c.settle
  lawful := .defaulted
  nodup := List.nodup_singleton name
  names
    | none => List.nil_sublist _
    | some _ => List.Sublist.refl _
  readable
    | none => nofun
    | some a => List.forall_mem_singleton.2 (c.readable (some a))
  numbers {o n} := by
    cases o with
    | none => simp [Tree.fieldOf, hfree]
    | some a => simp [Tree.fieldOf, c.numbers]
  builds {o r} hsorted hcells hadmits := by
    have hcell := hcells name List.mem_cons_self
    cases o with
    | none => exact Fields.build_defaulted_eq_ok.2 (.inl ⟨hcell, hsettle⟩)
    | some a =>
      rw [Tree.fieldOf, List.lookup_cons_self] at hcell
      exact Fields.build_defaulted_eq_ok.2 (.inr ⟨_, hcell, c.reads hsorted (hadmits _ List.mem_cons_self)⟩)
  origin {o r n numbers} hbuild hr := by
    rcases Fields.build_defaulted_eq_ok.1 hbuild with ⟨-, rfl⟩ | ⟨t, ht, ho⟩
    · exact ⟨hsettle, by simp [hfree], nofun⟩
    · obtain ⟨hsettle, hsorted, hwithin⟩ := c.origin ho
      obtain ⟨hroom, hnumbers⟩ := hr.of_lookup ht
      refine ⟨hsettle, hsorted, ?_⟩
      cases o with
      | none => exact nofun
      | some a => exact List.forall_mem_singleton.2 (hwithin.mono hroom hnumbers)

/-- No fields at all. -/
def empty : RecordCodec Unit where
  fields := pure ()
  cells _ := []
  free _ := []
  settle := id
  lawful := ⟨fun _ => rfl, nofun⟩
  nodup := List.nodup_nil
  names _ := List.Sublist.refl _
  readable _ := nofun
  numbers := by simp
  builds _ _ _ := rfl
  origin _ _ := ⟨rfl, nofun, nofun⟩

theorem lookup_eq_none {c : RecordCodec α} {a : α} {name : String} (h : name ∉ c.fields.names) :
    (c.cells a).lookup name = none :=
  lookup_eq_none_iff_notMem.2 fun hmem => h ((c.names a).mem hmem)

/-- The fields of one record after those of another. -/
def pair (x : RecordCodec α) (y : RecordCodec β) (h : ∀ name ∈ x.fields.names, name ∉ y.fields.names) : RecordCodec (α × β) where
  fields := Prod.mk <$> x.fields <*> y.fields
  cells p := x.cells p.1 ++ y.cells p.2
  free p := x.free p.1 ++ y.free p.2
  settle p := (x.settle p.1, y.settle p.2)
  lawful := (x.lawful.map _).seq y.lawful
  nodup := by
    rw [Fields.names_seq, Fields.names_map, List.nodup_append']
    exact ⟨x.nodup, y.nodup, fun name hx hy => h name hx hy⟩
  names p := by
    rw [Fields.names_seq, Fields.names_map, List.map_append]
    exact (x.names p.1).append (y.names p.2)
  readable p := List.forall_mem_append.2 ⟨x.readable p.1, y.readable p.2⟩
  numbers {p n} := by simp only [List.mem_append, or_and_right, exists_or, x.numbers, y.numbers]
  builds {p r} hsorted hcells hadmits := by
    rw [List.forall_mem_append] at hsorted hadmits
    rw [Fields.names_seq, Fields.names_map, List.forall_mem_append] at hcells
    have hx : x.fields.build r = .ok (x.settle p.1) := by
      refine x.builds hsorted.1 (fun name hname => ?_) hadmits.1
      rw [hcells.1 name hname, List.lookup_append, lookup_eq_none (h name hname), Option.or_none]
    have hy : y.fields.build r = .ok (y.settle p.2) := by
      refine y.builds hsorted.2 (fun name hname => ?_) hadmits.2
      rw [hcells.2 name hname, List.lookup_append, lookup_eq_none fun hmem => h name hmem hname, Option.none_or]
    exact Fields.build_seq_eq_ok.2 ⟨_, Fields.build_map_eq_ok.2 ⟨_, hx, rfl⟩, _, hy, rfl⟩
  origin hbuild hr := by
    obtain ⟨g, hg, b, hb, rfl⟩ := Fields.build_seq_eq_ok.1 hbuild
    obtain ⟨a, ha, rfl⟩ := Fields.build_map_eq_ok.1 hg
    obtain ⟨hsettle, hsorted, hwithin⟩ := x.origin ha hr
    obtain ⟨hsettle', hsorted', hwithin'⟩ := y.origin hb hr
    exact ⟨Prod.ext hsettle hsettle', List.forall_mem_append.2 ⟨hsorted, hsorted'⟩, List.forall_mem_append.2 ⟨hwithin, hwithin'⟩⟩

theorem map_pair {γ : Type} (f : α × β → γ) (x : Fields α) (y : Fields β) :
    f <$> (Prod.mk <$> x <*> y) = (fun a b => f (a, b)) <$> x <*> y := by
  refine congrArg (Fields.mk _) (funext fun r => ?_)
  simp only [Fields.build_map, Fields.build_seq]
  cases x.build r <;> cases y.build r <;> rfl

theorem map_triple {γ δ : Type} (f : (α × β) × γ → δ) (x : Fields α) (y : Fields β) (z : Fields γ) :
    f <$> (Prod.mk <$> (Prod.mk <$> x <*> y) <*> z) = (fun a b c => f ((a, b), c)) <$> x <*> y <*> z := by
  rw [map_pair, map_pair]

/-- A record of another shape with the same fields. -/
def iso (c : RecordCodec α) (pack : α → β) (unpack : β → α) (hpack : ∀ a, unpack (pack a) = a) : RecordCodec β where
  fields := pack <$> c.fields
  cells b := c.cells (unpack b)
  free b := c.free (unpack b)
  settle b := pack (c.settle (unpack b))
  lawful := c.lawful.map pack
  nodup := c.nodup
  names b := c.names (unpack b)
  readable b := c.readable (unpack b)
  numbers := c.numbers
  builds hsorted hcells hadmits := Fields.build_map_eq_ok.2 ⟨_, c.builds hsorted hcells hadmits, rfl⟩
  origin hbuild hr := by
    obtain ⟨a, ha, rfl⟩ := Fields.build_map_eq_ok.1 hbuild
    rw [hpack]
    obtain ⟨hsettle, hsorted, hwithin⟩ := c.origin ha hr
    exact ⟨congrArg pack hsettle, hsorted, hwithin⟩

/-! ### A record by itself, and after its kind -/

theorem within_record {cells : List (String × Tree)} {n : Nat} {numbers : List Number} (h : ∀ c ∈ cells, c.2.Within n numbers) :
    (Tree.record cells).Within (n + 1) numbers := by
  refine ⟨?_, fun x hx => ?_⟩
  · rw [Tree.record, Tree.height_obj_le, List.forall_mem_map]
    exact fun c hc => (h c hc).height
  · obtain ⟨m, hm, hx⟩ := Tree.mem_numbers_obj.1 hx
    obtain ⟨c, hc, rfl⟩ := List.mem_map.1 hm
    exact (h c hc).numbers hx

theorem isSome_value?_record {cells : List (String × Tree)} (h : ∀ c ∈ cells, c.2.value?.isSome) :
    (Tree.record cells).value?.isSome := by
  rw [Tree.record, Tree.isSome_value?_obj, List.forall_mem_map]
  exact fun c hc => ⟨rfl, h c hc⟩

theorem mem_numbers_record {cells : List (String × Tree)} {n : Number} :
    n ∈ (Tree.record cells).numbers ↔ ∃ c ∈ cells, n ∈ c.2.numbers := by
  simp only [Tree.record, Tree.mem_numbers_obj, List.mem_map]
  constructor
  · rintro ⟨_, ⟨c, hc, rfl⟩, hn⟩
    exact ⟨c, hc, hn⟩
  · rintro ⟨c, hc, hn⟩
    exact ⟨_, ⟨c, hc, rfl⟩, hn⟩

variable {c : RecordCodec α} {name : String} {a : α} {s : Source} {t : Tree}

theorem reads_record (hsorted : ∀ v ∈ c.free a, v.Sorted) (hs : s.admits (.record (c.cells a))) :
    c.fields.decoder name s (.record (c.cells a)) = .ok (c.settle a) :=
  Fields.decoder_record c.lawful ((c.names a).nodup c.nodup) (fun _ hcell => (c.names a).mem (List.mem_map_of_mem hcell)) hs
    fun _ hinner => c.builds hsorted (fun _ _ => rfl) hinner

/-- The record by itself; `name` is what messages call it. -/
def codec (c : RecordCodec α) (name : String) : Codec α where
  decoder := c.fields.decoder name
  toTree a := .record (c.cells a)
  free := c.free
  settle := c.settle
  readable a := isSome_value?_record (c.readable a)
  numbers := mem_numbers_record.trans c.numbers
  reads := reads_record
  origin h := by
    obtain ⟨r, n, hbuild, hn, hr⟩ := Fields.exists_row h
    obtain ⟨hsettle, hsorted, hwithin⟩ := c.origin hbuild hr
    exact ⟨hsettle, hsorted, hn ▸ within_record hwithin⟩

section Kinds

variable {τ : Type} {type tag : String} {kind : String → Except DecodeError τ} {fields : τ → Decoder β} {k : τ} {pack : α → β}

/-- The cells of the record after the one that says its kind. -/
def tagged (c : RecordCodec α) (tag : String) (a : α) : Tree := .record ((Variant.tagName, .str tag) :: c.cells a)

theorem isSome_value?_tagged : (c.tagged tag a).value?.isSome :=
  isSome_value?_record (List.forall_mem_cons.2 ⟨rfl, c.readable a⟩)

theorem mem_numbers_tagged {n : Number} : n ∈ (c.tagged tag a).numbers ↔ ∃ v ∈ c.free a, n ∈ v.numbers := by
  rw [tagged, mem_numbers_record, ← c.numbers]
  simp [Tree.numbers]

theorem reads_tagged (hk : kind tag = .ok k) (hfields : fields k = (pack <$> c.fields).decoder name)
    (htag : Variant.tagName ∉ c.fields.names) (hsorted : ∀ v ∈ c.free a, v.Sorted) (hs : s.admits (c.tagged tag a)) :
    Variant.decoder type kind fields s (c.tagged tag a) = .ok (pack (c.settle a)) := by
  refine Variant.decoder_record hk (fun cell hcell h => ?_) (c.readable a) hs ?_
  · exact htag (h ▸ (c.names a).mem (List.mem_map_of_mem hcell))
  · rw [hfields]
    exact Fields.decoder_record (c.lawful.map pack) ((c.names a).nodup c.nodup)
      (fun _ hcell => (c.names a).mem (List.mem_map_of_mem hcell)) rfl
      fun _ hinner => Fields.build_map_eq_ok.2 ⟨_, c.builds hsorted (fun _ _ => rfl) hinner, rfl⟩

theorem origin_tagged {b : β} {room : Nat} {numbers : List Number} (h : (pack <$> c.fields).decoder name .buffer t = .ok b)
    (hroom : t.height ≤ room) (hnumbers : t.numbers ⊆ numbers) (tag : String) :
    ∃ a, b = pack a ∧ c.settle a = a ∧ (∀ v ∈ c.free a, v.Sorted) ∧ (c.tagged tag a).Within room numbers := by
  obtain ⟨r, n, hbuild, hn, hr⟩ := Fields.exists_row h
  obtain ⟨a, ha, rfl⟩ := Fields.build_map_eq_ok.1 hbuild
  obtain ⟨hsettle, hsorted, hwithin⟩ := c.origin ha hr
  have hrecord : (c.tagged tag a).Within (n + 1) t.numbers :=
    within_record (List.forall_mem_cons.2 ⟨⟨Nat.zero_le _, List.nil_subset _⟩, hwithin⟩)
  exact ⟨a, rfl, hsettle, hsorted, hrecord.mono (hn.symm.trans_le hroom) hnumbers⟩

end Kinds

end RecordCodec

end FleetFeed.Json
