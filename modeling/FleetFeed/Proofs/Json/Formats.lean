import FleetFeed.Proofs.Json.Members

/-! Formats of records: which fields there are, by name and place, and what kind of value each takes. All fields of such a record
may be null or left out. Where reading follows a format (`Follows`), it succeeds for exactly the values that conform to it, and
what it makes of one depends on what the value gives for each field and on nothing else (`decoder_value`). -/
namespace FleetFeed.Json

/-- What a field takes. -/
inductive Kind where
  | text
  | texts
  | word (bits : Nat)
  | number
  deriving DecidableEq, Repr

/-- The values of a kind. -/
inductive Kind.Holds : Kind → Value → Prop
  | text (s : String) : Holds .text (.str s)
  | texts (ss : List String) : Holds .texts (.arr (ss.map .str))
  | word {bits n : Nat} (h : n < Nat.pow 2 bits) : Holds (.word bits) (.num (.int n))
  | number (n : Number) : Holds .number (.num n)

theorem Kind.lt_of_holds {bits n : Nat} (h : (word bits).Holds (.num (.int n))) : n < Nat.pow 2 bits := by
  cases h with
  | word h => exact h

/-- The fields of a record in order, each with its kind. -/
abbrev Format := List (String × Kind)

namespace Format

def names (format : Format) : List String := format.map Prod.fst

/-- What a value gives for a field, by name in an object and by place in an array. A field that is left out is given as null. -/
def given (format : Format) : Value → String → Value
  | .obj members, name => (members.lookup name).getD .null
  | .arr items, name => ((format.names.zip items).lookup name).getD .null
  | _, _ => .null

/-- The values that are records of this format. -/
structure Accepts (format : Format) (v : Value) : Prop where
  shape : (∃ members, v = .obj members) ∨ ∃ items, v = .arr items ∧ items.length ≤ format.length
  fields : ∀ f ∈ format, format.given v f.1 = .null ∨ f.2.Holds (format.given v f.1)

end Format

/-! ### Values of a kind -/

namespace Value

def text? : Value → Option String
  | .str s => some s
  | _ => none

def texts? : Value → Option (List String)
  | .arr items => items.mapM text?
  | _ => none

def natural? : Value → Option Nat
  | .num (.int n) => some n.toNat
  | _ => none

def binary64? : Value → Option Binary64
  | .num n => some n.toBinary64
  | _ => none

theorem texts?_strings (ss : List String) : (Value.arr (ss.map .str)).texts? = some ss := by
  rw [texts?]
  induction ss with
  | nil => rfl
  | cons s ss ih => rw [List.map_cons, List.mapM_cons, ih]; rfl

end Value

/-- To read a value with this decoder is to see that it is of a kind and to take what it holds. -/
structure Decoder.Of {α : Type} (d : Decoder α) (kind : Kind) (take? : Value → Option α) : Prop where
  taken : ∀ {v : Value}, kind.Holds v → ∃ a, take? v = some a
  reads : ∀ {v : Value} {a : α}, d .value v.toTree = .ok a ↔ kind.Holds v ∧ take? v = some a
  null : take? .null = none

namespace Decoder

theorem string_of : string.Of .text Value.text? where
  taken := by
    rintro v ⟨s⟩
    exact ⟨s, rfl⟩
  reads {v s} := by
    cases v with
    | str t =>
      constructor
      · intro h
        obtain rfl := Except.ok.inj h
        exact ⟨.text t, rfl⟩
      · rintro ⟨-, h⟩
        obtain rfl := Option.some.inj h
        rfl
    | null | bool | num | arr | obj => simp [string, Value.toTree, Value.text?]
  null := rfl

theorem word_of (bits : Nat) (type : String) : (word bits type).Of (.word bits) Value.natural? where
  taken := by
    rintro v ⟨-⟩
    exact ⟨_, rfl⟩
  reads {v n} := by
    cases v with
    | num k =>
      cases k with
      | int k =>
        rw [Value.toTree, word, Value.natural?]
        constructor
        · intro h
          split_ifs at h with hk
          obtain rfl := Except.ok.inj h
          obtain ⟨m, rfl⟩ := Int.eq_ofNat_of_zero_le hk.1
          exact ⟨.word (Int.ofNat_lt.1 hk.2), rfl⟩
        · rintro ⟨hk, h⟩
          obtain rfl := Option.some.inj h
          cases hk with
          | word hk => exact if_pos ⟨Int.natCast_nonneg _, Int.ofNat_lt.2 hk⟩
      | float x =>
        constructor
        · intro h
          cases h
        · rintro ⟨h, -⟩
          cases h
    | null | bool | str | arr | obj => simp [word, Value.toTree, Value.natural?]
  null := rfl

theorem binary64_of : binary64.Of .number Value.binary64? where
  taken := by
    rintro v ⟨n⟩
    exact ⟨_, rfl⟩
  reads {v x} := by
    cases v with
    | num n =>
      constructor
      · intro h
        obtain rfl := Except.ok.inj h
        exact ⟨.number n, rfl⟩
      · rintro ⟨-, h⟩
        obtain rfl := Option.some.inj h
        rfl
    | null | bool | str | arr | obj => simp [binary64, Value.toTree, Value.binary64?]
  null := rfl

theorem eq_map_str_of_reads {items : List Value} {ss : List String}
    (h : List.Forall₂ (fun v s => string .value v.toTree = .ok s) items ss) : items = ss.map .str := by
  induction h with
  | nil => rfl
  | cons hv _ ih =>
    obtain ⟨⟨s⟩, hs⟩ := string_of.reads.1 hv
    obtain rfl := Option.some.inj hs
    rw [ih, List.map_cons]

theorem list_string_of : (list string).Of .texts Value.texts? where
  taken := by
    intro v h
    cases h with
    | texts ss => exact ⟨ss, Value.texts?_strings ss⟩
  reads {v ss} := by
    cases v with
    | arr items =>
      have hread : (list string) .value (Value.arr items).toTree = (items.map Value.toTree).mapM (string .value) := by
        rw [Value.toTree, Value.treesOfItems_eq]
        rfl
      rw [hread, mapM_eq_ok_iff, List.forall₂_map_left_iff]
      constructor
      · intro h
        obtain rfl := eq_map_str_of_reads h
        exact ⟨.texts ss, Value.texts?_strings ss⟩
      · rintro ⟨hkind, h⟩
        cases hkind with
        | texts ts =>
          rw [Value.texts?_strings] at h
          obtain rfl := Option.some.inj h
          rw [List.forall₂_map_left_iff, List.forall₂_same]
          exact fun t _ => rfl
    | null | bool | num | str | obj => simp [list, Value.toTree, Value.texts?]
  null := rfl

theorem Of.option {α : Type} {d : Decoder α} {kind : Kind} {take? : Value → Option α} (h : d.Of kind take?) {v : Value}
    {o : Option α} : d.option .value v.toTree = .ok o ↔ (v = .null ∨ kind.Holds v) ∧ o = take? v := by
  rw [option_eq_ok_iff]
  by_cases hv : v = .null
  · subst hv
    rw [h.null]
    simp [Value.toTree]
  · simp only [hv, Value.toTree_ne_null hv, false_and, false_or, ne_eq, not_false_eq_true, true_and, h.reads]
    constructor
    · rintro ⟨a, ⟨hkind, ha⟩, rfl⟩
      exact ⟨hkind, ha.symm⟩
    · rintro ⟨hkind, rfl⟩
      obtain ⟨a, ha⟩ := h.taken hkind
      exact ⟨a, ⟨hkind, ha⟩, ha⟩

end Decoder

/-! ### Reading along a format -/

namespace Fields

variable {α β : Type} {x : Fields α} {format : Format} {make : (String → Value) → α} {name : String} {d : Decoder α}

/-- The fields read values along a format: they take what is null, left out or of the right kind, and what they build is made of
what is given. -/
structure Follows (x : Fields α) (format : Format) (make : (String → Value) → α) : Prop where
  lawful : x.Lawful
  placeless : x.Placeless
  names : x.names = format.names
  build_iff : ∀ {r : Row} {given : String → Value}, r.source = .value →
    (∀ f ∈ format, (r.cells.lookup f.1).getD .null = (given f.1).toTree) →
    ∀ a, x.build r = .ok a ↔ (∀ f ∈ format, given f.1 = .null ∨ f.2.Holds (given f.1)) ∧ a = make given

theorem Follows.optional {kind : Kind} {take? : Value → Option α} (h : d.Of kind take?) :
    (optional name d).Follows [(name, kind)] fun given => take? (given name) where
  lawful := .optional
  placeless := .optional
  names := rfl
  build_iff {r given} hsource hcells o := by
    have hcell : (r.cells.lookup name).getD .null = (given name).toTree := hcells _ List.mem_cons_self
    rw [Fields.optional, build_defaulted_eq_ok, List.forall_mem_singleton, hsource]
    cases hlookup : r.cells.lookup name with
    | none =>
      rw [hlookup] at hcell
      have hnull : given name = .null := by
        by_contra hne
        exact Value.toTree_ne_null hne hcell.symm
      simp [hnull, h.null]
    | some t =>
      rw [hlookup] at hcell
      obtain rfl : t = (given name).toTree := hcell
      simp [h.option]

theorem Follows.map (f : α → β) (hx : x.Follows format make) : (f <$> x).Follows format fun given => f (make given) where
  lawful := hx.lawful.map f
  placeless := hx.placeless.map f
  names := hx.names
  build_iff hsource hcells b := by
    simp only [build_map_eq_ok, hx.build_iff hsource hcells]
    constructor
    · rintro ⟨a, ⟨hfields, rfl⟩, rfl⟩
      exact ⟨hfields, rfl⟩
    · rintro ⟨hfields, rfl⟩
      exact ⟨_, ⟨hfields, rfl⟩, rfl⟩

theorem Follows.seq {f : Fields (α → β)} {front : Format} {apply : (String → Value) → α → β} (hf : f.Follows front apply)
    (hx : x.Follows format make) : (f <*> x).Follows (front ++ format) fun given => apply given (make given) where
  lawful := hf.lawful.seq hx.lawful
  placeless := hf.placeless.seq hx.placeless
  names := by rw [names_seq, hf.names, hx.names, Format.names, Format.names, Format.names, List.map_append]
  build_iff {r given} hsource hcells b := by
    have hfront := hf.build_iff hsource fun y hy => hcells y (List.mem_append_left _ hy)
    have hback := hx.build_iff hsource fun y hy => hcells y (List.mem_append_right _ hy)
    simp only [build_seq_eq_ok, hfront, hback, List.forall_mem_append]
    constructor
    · rintro ⟨g, ⟨hg, rfl⟩, a, ⟨ha, rfl⟩, rfl⟩
      exact ⟨⟨hg, ha⟩, rfl⟩
    · rintro ⟨⟨hg, ha⟩, rfl⟩
      exact ⟨_, ⟨hg, rfl⟩, _, ⟨ha, rfl⟩, rfl⟩

/-! ### What a value of the format reads as -/

theorem decoder_members (hx : x.Follows format make) {members : List (String × Value)} (h : (members.map Prod.fst).Nodup)
    {a : α} : x.decoder name .value (.obj (treesOfMembers members)) = .ok a ↔
      (∀ f ∈ format, format.given (.obj members) f.1 = .null ∨ f.2.Holds (format.given (.obj members) f.1)) ∧
        a = make (format.given (.obj members)) := by
  have hcells (f) (hf : f ∈ format) : ((found x.names (treesOfMembers members)).lookup f.1).getD .null =
      (format.given (.obj members) f.1).toTree := by
    have hmem : f.1 ∈ x.names := by
      rw [hx.names]
      exact List.mem_map_of_mem hf
    rw [found_toTree hmem, Format.given]
    cases members.lookup f.1 <;> rfl
  rw [decoder_obj hx.lawful]
  constructor
  · rintro ⟨_, ⟨⟩, -, hbuild⟩
    exact (hx.build_iff rfl hcells a).1 hbuild
  · intro hfields
    exact ⟨.value, rfl, orderly_toTree x.names h, (hx.build_iff rfl hcells a).2 hfields⟩

/-- What reading along a format accepts, and what it makes of it. -/
theorem Follows.decoder_value (hx : x.Follows format make) (hnames : format.names.Nodup) {v : Value} (hv : v.Sorted) {a : α} :
    x.decoder name .value v.toTree = .ok a ↔ format.Accepts v ∧ a = make (format.given v) := by
  cases v with
  | obj members =>
    rw [Value.toTree, decoder_members hx (Value.nodup_of_sorted hv)]
    exact and_congr_left' ⟨fun h => ⟨.inl ⟨_, rfl⟩, h⟩, fun h => h.fields⟩
  | arr items =>
    have hzip := hnames.sublist (map_fst_zip_sublist format.names items)
    have hlength : (treesOfItems items).length = items.length := by
      rw [Value.treesOfItems_eq, List.length_map]
    have hformat : format.names.length = format.length := List.length_map _
    rw [Value.toTree, decoder_arr hx.lawful hx.placeless (hx.names ▸ hnames), hx.names, named_toTree, decoder_members hx hzip,
      hlength, hformat, ← and_assoc]
    refine and_congr_left' ⟨fun h => ⟨.inr ⟨_, rfl, h.1⟩, h.2⟩, fun h => ⟨?_, h.fields⟩⟩
    rcases h.shape with ⟨_, hobj⟩ | ⟨_, harr, hle⟩
    · cases hobj
    · cases harr
      exact hle
  | null | bool | num | str =>
    constructor
    · intro h
      exact absurd h (by simp [decoder, Value.toTree])
    · rintro ⟨⟨⟨_, h⟩ | ⟨_, h, -⟩, -⟩, -⟩ <;> cases h

end Fields

end FleetFeed.Json
