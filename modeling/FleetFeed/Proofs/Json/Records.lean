import FleetFeed.Json.Record
import FleetFeed.Proofs.Json.Values
import Mathlib.Data.List.Nodup

/-! Reading records. A record is read from the members that its fields name, and from nothing else of its tree; all other members
only have to be well formed. So what an object reads as is said by the fields and the members they find (`decoder_obj`), and
whatever a record was read from, it is made of parts of the tree (`exists_build`). -/
namespace FleetFeed.Json

theorem except_map_eq_ok {ε α β : Type} {f : α → β} {x : Except ε α} {b : β} :
    x.map f = .ok b ↔ ∃ a, x = .ok a ∧ b = f a := by
  cases x <;> simp [Except.map, eq_comm]

theorem except_bind_eq_ok {ε α β : Type} {x : Except ε α} {f : α → Except ε β} {b : β} :
    (x >>= f) = .ok b ↔ ∃ a, x = .ok a ∧ f a = .ok b := by
  cases x <;> simp [bind, Except.bind]

theorem mapM_eq_ok_iff {ε α β : Type} {f : α → Except ε β} {xs : List α} {ys : List β} :
    xs.mapM f = .ok ys ↔ List.Forall₂ (fun x y => f x = .ok y) xs ys := by
  induction xs generalizing ys with
  | nil => simp [List.mapM_nil, pure, Except.pure, eq_comm]
  | cons x xs ih =>
    simp only [List.mapM_cons, except_bind_eq_ok, ih, List.forall₂_cons_left_iff, pure, Except.pure, Except.ok.injEq]
    aesop

theorem exists_mapM_iff {ε α β : Type} {f : α → Except ε β} {xs : List α} :
    (∃ ys, xs.mapM f = .ok ys) ↔ ∀ x ∈ xs, ∃ y, f x = .ok y := by
  simp only [mapM_eq_ok_iff]
  induction xs with
  | nil => simp
  | cons x xs ih =>
    simp only [List.forall₂_cons_left_iff, List.forall_mem_cons, ← ih]
    constructor
    · rintro ⟨_, y, ys, hy, hys, rfl⟩
      exact ⟨⟨y, hy⟩, ys, hys⟩
    · rintro ⟨⟨y, hy⟩, ys, hys⟩
      exact ⟨_, y, ys, hy, hys, rfl⟩

/-! ### Cells by name -/

section Lookup

variable {κ ν : Type} [BEq κ] [LawfulBEq κ] {cells : List (κ × ν)} {k : κ} {v : ν}

theorem lookup_eq_none_iff_notMem : cells.lookup k = none ↔ k ∉ cells.map Prod.fst := by
  rw [List.lookup_eq_none_iff, List.mem_map]
  constructor
  · rintro h ⟨c, hc, rfl⟩
    exact absurd (h c hc) (by simp)
  · exact fun h c hc => bne_iff_ne.2 fun hk => h ⟨c, hc, hk.symm⟩

theorem lookup_cons_eq_none {c : κ × ν} : (c :: cells).lookup k = none ↔ k ≠ c.1 ∧ cells.lookup k = none := by
  simp only [lookup_eq_none_iff_notMem, List.map_cons, List.mem_cons, not_or]

theorem mem_of_lookup (h : cells.lookup k = some v) : (k, v) ∈ cells := by
  obtain ⟨before, after, rfl, -⟩ := List.lookup_eq_some_iff.1 h
  exact List.mem_append_right _ List.mem_cons_self

theorem lookup_eq_some_iff_mem (h : (cells.map Prod.fst).Nodup) : cells.lookup k = some v ↔ (k, v) ∈ cells := by
  refine ⟨mem_of_lookup, fun hmem => ?_⟩
  obtain ⟨before, after, rfl⟩ := List.append_of_mem hmem
  rw [List.map_append, List.map_cons, List.nodup_middle, List.nodup_cons] at h
  refine List.lookup_eq_some_iff.2 ⟨before, after, rfl, fun c hc => bne_iff_ne.2 ?_⟩
  rintro rfl
  exact h.1 (List.mem_append_left _ (List.mem_map.2 ⟨c, hc, rfl⟩))

/-- Where no name occurs twice, the order of the cells does not matter. -/
theorem lookup_reverse (h : (cells.map Prod.fst).Nodup) (k : κ) : cells.reverse.lookup k = cells.lookup k := by
  ext v
  rw [lookup_eq_some_iff_mem h, lookup_eq_some_iff_mem (by rwa [List.map_reverse, List.nodup_reverse]), List.mem_reverse]

end Lookup

/-! ### Parts of a tree -/

namespace Tree

/-- What stands directly in a container. -/
def parts : Tree → List Tree
  | .arr items => items
  | .obj members => members.map Prod.snd
  | _ => []

theorem height_lt_of_mem_parts {t u : Tree} (h : u ∈ t.parts) : u.height < t.height := by
  cases t with
  | arr items => exact height_lt_arr h
  | obj members =>
    obtain ⟨m, hm, rfl⟩ := List.mem_map.1 h
    exact height_lt_obj hm
  | null | bool | num | str | unreadable | broken => exact absurd h List.not_mem_nil

theorem numbers_of_mem_parts {t u : Tree} (h : u ∈ t.parts) : u.numbers ⊆ t.numbers := by
  intro n hn
  cases t with
  | arr items => exact mem_numbers_arr.2 ⟨u, h, hn⟩
  | obj members =>
    obtain ⟨m, hm, rfl⟩ := List.mem_map.1 h
    exact mem_numbers_obj.2 ⟨m, hm, hn⟩
  | null | bool | num | str | unreadable | broken => exact absurd h List.not_mem_nil

theorem height_le_of_parts {n : Nat} {t : Tree} (h : ∀ u ∈ t.parts, u.height ≤ n) : t.height ≤ n + 1 := by
  cases t with
  | arr items => exact height_arr_le.2 h
  | obj members => exact height_obj_le.2 fun m hm => h m.2 (List.mem_map_of_mem hm)
  | null | bool | num | str | unreadable | broken => exact Nat.zero_le _

end Tree

namespace Source

variable {s inner : Source} {t : Tree}

/-- How deep what is read from a tree may nest. -/
def room : Source → Tree → Nat
  | .text d, _ => d
  | .value, t | .buffer, t => t.height

theorem exists_enter (h : s.admits t) (ht : 0 < t.height) :
    ∃ inner, s.enter = .ok inner ∧ ∀ u ∈ t.parts, inner.admits u := by
  match s with
  | .text 0 => exact absurd (of_decide_eq_true h) ht.not_ge
  | .text (d + 1) =>
    refine ⟨.text d, rfl, fun u hu => decide_eq_true ?_⟩
    have hle : t.height ≤ d + 1 := of_decide_eq_true h
    exact Nat.le_of_lt_succ ((Tree.height_lt_of_mem_parts hu).trans_le hle)
  | .value => exact ⟨.value, rfl, fun _ _ => rfl⟩
  | .buffer => exact ⟨.buffer, rfl, fun _ _ => rfl⟩

theorem room_of_enter (h : s.enter = .ok inner) (ht : 0 < t.height) :
    ∃ n, s.room t = n + 1 ∧ ∀ u ∈ t.parts, inner.room u ≤ n := by
  match s with
  | .text 0 => exact absurd h (by simp [enter])
  | .text (d + 1) =>
    obtain rfl := Except.ok.inj h
    exact ⟨d, rfl, fun _ _ => le_rfl⟩
  | .value =>
    obtain rfl := Except.ok.inj h
    exact ⟨t.height - 1, (Nat.succ_pred_eq_of_pos ht).symm, fun u hu => Nat.le_pred_of_lt (Tree.height_lt_of_mem_parts hu)⟩
  | .buffer =>
    obtain rfl := Except.ok.inj h
    exact ⟨t.height - 1, (Nat.succ_pred_eq_of_pos ht).symm, fun u hu => Nat.le_pred_of_lt (Tree.height_lt_of_mem_parts hu)⟩

theorem height_le_room (h : s.admits t) : t.height ≤ s.room t := by
  cases s with
  | text d => exact of_decide_eq_true h
  | value => exact le_rfl
  | buffer => exact le_rfl

/-- A container is admitted where its parts are. -/
theorem admits_of_enter (h : s.enter = .ok inner) (ht : ∀ u ∈ t.parts, inner.admits u) : s.admits t := by
  match s with
  | .text 0 => exact absurd h (by simp [enter])
  | .text (d + 1) =>
    obtain rfl : Source.text d = inner := Except.ok.inj h
    exact decide_eq_true (Tree.height_le_of_parts fun u hu => of_decide_eq_true (ht u hu))
  | .value | .buffer => rfl

theorem admits_leaf (ht : t.height = 0) : s.admits t := by
  cases s with
  | text d => exact decide_eq_true (by omega)
  | value | buffer => rfl

end Source

/-! ### Free values -/

namespace Decoder

theorem buffered_eq_ok_iff {s : Source} {t u : Tree} : buffered s t = .ok u ↔ (t.value?.isSome ∧ s.admits t) ∧ t = u := by
  rw [buffered]
  split_ifs with h <;> simp [h]

theorem mapM_buffered_eq_ok_iff {s : Source} {ts us : List Tree} :
    ts.mapM (buffered s) = .ok us ↔ (∀ t ∈ ts, t.value?.isSome ∧ s.admits t) ∧ us = ts := by
  simp only [mapM_eq_ok_iff, buffered_eq_ok_iff]
  induction ts generalizing us with
  | nil => simp
  | cons t ts ih =>
    simp only [List.forall₂_cons_left_iff, ih, List.forall_mem_cons]
    constructor
    · rintro ⟨_, _, ⟨ht, rfl⟩, ⟨hts, rfl⟩, rfl⟩
      exact ⟨⟨ht, hts⟩, rfl⟩
    · rintro ⟨⟨ht, hts⟩, rfl⟩
      exact ⟨t, ts, ⟨ht, rfl⟩, ⟨hts, rfl⟩, rfl⟩

theorem option_eq_ok_iff {α : Type} {d : Decoder α} {s : Source} {t : Tree} {o : Option α} :
    d.option s t = .ok o ↔ t = .null ∧ o = none ∨ t ≠ .null ∧ ∃ a, d s t = .ok a ∧ o = some a := by
  cases t with
  | null => simp [option, eq_comm]
  | bool | num | str | arr | obj | unreadable | broken => simp [option, except_map_eq_ok]

theorem free_eq_ok_iff {s : Source} {t : Tree} {v : Value} : free s t = .ok v ↔ t.value? = some v ∧ s.admits t := by
  rw [free]
  cases t.value? with
  | none => simp
  | some w =>
    by_cases h : s.admits t = true <;> simp [h]

end Decoder

/-! ### Fields -/

namespace Fields

variable {α β : Type} {x : Fields α} {r : Row} {name : String} {d : Decoder α}

/-- What is built depends on the cells by what they hold for each field, and nothing is built that a check has refused. -/
structure Lawful (x : Fields α) : Prop where
  congr : ∀ {r : Row} {cells : List (String × Tree)}, (∀ name ∈ x.names, r.cells.lookup name = cells.lookup name) →
    x.build r = x.build { r with cells }
  checked : ∀ {r : Row} {a : α}, x.build r = .ok a → ∀ f ∈ x.fields, ∀ t, r.cells.lookup f.name = some t →
    f.check r.source t = .ok ()

theorem build_map (f : α → β) (r : Row) : (f <$> x).build r = (x.build r).map f := rfl

theorem build_seq (f : Fields (α → β)) (r : Row) :
    (f <*> x).build r = f.build r >>= fun g => x.build r >>= fun a => pure (g a) := rfl

theorem names_map (f : α → β) : (f <$> x).names = x.names := rfl

theorem names_seq (f : Fields (α → β)) : (f <*> x).names = f.names ++ x.names := List.map_append

theorem build_map_eq_ok {f : α → β} {b : β} : (f <$> x).build r = .ok b ↔ ∃ a, x.build r = .ok a ∧ b = f a :=
  except_map_eq_ok

theorem build_seq_eq_ok {f : Fields (α → β)} {b : β} :
    (f <*> x).build r = .ok b ↔ ∃ g, f.build r = .ok g ∧ ∃ a, x.build r = .ok a ∧ b = g a := by
  simp only [build_seq, except_bind_eq_ok, pure, Except.pure, Except.ok.injEq, @eq_comm _ b]

theorem build_single (absent : Row → Except DecodeError α) :
    (single name d absent).build r = match r.cells.lookup name with
      | some t => d r.source t
      | none => absent r := rfl

theorem Lawful.map (f : α → β) (hx : x.Lawful) : (f <$> x).Lawful where
  congr h := by rw [build_map, build_map, hx.congr h]
  checked h := by
    obtain ⟨a, ha, -⟩ := build_map_eq_ok.1 h
    exact hx.checked ha

theorem Lawful.seq {f : Fields (α → β)} (hf : f.Lawful) (hx : x.Lawful) : (f <*> x).Lawful where
  congr h := by
    rw [names_seq] at h
    rw [build_seq, build_seq, hf.congr fun name hname => h name (List.mem_append_left _ hname),
      hx.congr fun name hname => h name (List.mem_append_right _ hname)]
  checked h y hy t ht := by
    obtain ⟨g, hg, a, ha, -⟩ := build_seq_eq_ok.1 h
    rcases List.mem_append.1 hy with hy | hy
    · exact hf.checked hg y hy t ht
    · exact hx.checked ha y hy t ht

theorem Lawful.single {absent : Row → Except DecodeError α}
    (habsent : ∀ (r : Row) (cells : List (String × Tree)), absent r = absent { r with cells }) :
    (single name d absent).Lawful where
  congr {r cells} h := by
    have hcell : r.cells.lookup name = cells.lookup name := h name List.mem_cons_self
    simp only [build_single, hcell, habsent r cells]
  checked {r a} h f hf t ht := by
    obtain rfl := List.mem_singleton.1 hf
    simp only [build_single, ht] at h
    simp only [h, Except.map]

theorem Lawful.required : (required name d).Lawful := .single fun _ _ => rfl

theorem Lawful.defaulted {value : α} : (defaulted name d value).Lawful := .single fun _ _ => rfl

theorem Lawful.optional : (optional name d).Lawful := .defaulted

theorem build_required_eq_ok {a : α} :
    (required name d).build r = .ok a ↔ ∃ t, r.cells.lookup name = some t ∧ d r.source t = .ok a := by
  rw [required, build_single]
  cases r.cells.lookup name <;> simp

theorem build_defaulted_eq_ok {value a : α} :
    (defaulted name d value).build r = .ok a ↔
      (r.cells.lookup name = none ∧ a = value) ∨ ∃ t, r.cells.lookup name = some t ∧ d r.source t = .ok a := by
  rw [defaulted, build_single]
  cases r.cells.lookup name <;> simp [eq_comm]

/-! ### Objects -/

/-- The members that have one of these names. -/
def found (names : List String) (members : List (Option String × Tree)) : List (String × Tree) :=
  members.filterMap fun m => m.1.bind fun k => if k ∈ names then some (k, m.2) else none

theorem found_cons_some {names : List String} {k : String} {t : Tree} {members : List (Option String × Tree)} :
    found names ((some k, t) :: members) = if k ∈ names then (k, t) :: found names members else found names members := by
  by_cases h : k ∈ names <;> simp [found, h]

theorem mem_found {names : List String} {c : String × Tree} {members : List (Option String × Tree)} :
    c ∈ found names members ↔ c.1 ∈ names ∧ (some c.1, c.2) ∈ members := by
  simp only [found, List.mem_filterMap, Option.bind_eq_some_iff, Option.ite_none_right_eq_some, Option.some.injEq]
  constructor
  · rintro ⟨⟨_, t⟩, hm, k, rfl, hk, rfl⟩
    exact ⟨hk, hm⟩
  · exact fun ⟨hk, hm⟩ => ⟨_, hm, c.1, rfl, hk, rfl⟩

theorem found_record {names : List String} {cells : List (String × Tree)} (h : ∀ c ∈ cells, c.1 ∈ names) :
    found names (cells.map fun c => (some c.1, c.2)) = cells := by
  induction cells with
  | nil => rfl
  | cons c cells ih =>
    obtain ⟨hc, hcells⟩ := List.forall_mem_cons.1 h
    rw [List.map_cons, found_cons_some, if_pos hc, ih hcells]

/-- The members can be read as those of a record: none of the fields occurs twice, and what is passed over is well formed. -/
structure Orderly (names : List String) (members : List (Option String × Tree)) : Prop where
  named : ∀ m ∈ members, m.1.isSome
  whole : ∀ m ∈ members, (∀ k ∈ names, m.1 ≠ some k) → m.2.isWhole
  once : ((found names members).map Prod.fst).Nodup

theorem Orderly.lookup_eq_some_iff {names : List String} {members : List (Option String × Tree)} (h : Orderly names members)
    {k : String} (hk : k ∈ names) {t : Tree} : (found names members).lookup k = some t ↔ (some k, t) ∈ members := by
  rw [lookup_eq_some_iff_mem h.once, mem_found]
  exact and_iff_right hk

theorem Orderly.eq_of_mem {names : List String} {members : List (Option String × Tree)} (h : Orderly names members)
    {k : String} (hk : k ∈ names) {t u : Tree} (ht : (some k, t) ∈ members) (hu : (some k, u) ∈ members) : t = u :=
  Option.some.inj (((h.lookup_eq_some_iff hk).2 ht).symm.trans ((h.lookup_eq_some_iff hk).2 hu))

theorem Orderly.lookup_eq_none_iff {names : List String} {members : List (Option String × Tree)} (h : Orderly names members)
    {k : String} (hk : k ∈ names) : (found names members).lookup k = none ↔ ∀ t, (some k, t) ∉ members := by
  rw [Option.eq_none_iff_forall_ne_some]
  exact forall_congr' fun t => not_congr (h.lookup_eq_some_iff hk)

theorem orderly_cons {names : List String} {k : String} {t : Tree} {members : List (Option String × Tree)} :
    Orderly names ((some k, t) :: members) ↔ Orderly names members ∧
      if k ∈ names then k ∉ (found names members).map Prod.fst else t.isWhole := by
  by_cases hk : k ∈ names
  · simp only [hk, if_true]
    constructor
    · rintro ⟨hnamed, hwhole, honce⟩
      rw [found_cons_some, if_pos hk, List.map_cons, List.nodup_cons] at honce
      exact ⟨⟨(List.forall_mem_cons.1 hnamed).2, (List.forall_mem_cons.1 hwhole).2, honce.2⟩, honce.1⟩
    · rintro ⟨⟨hnamed, hwhole, honce⟩, hnew⟩
      refine ⟨List.forall_mem_cons.2 ⟨rfl, hnamed⟩, List.forall_mem_cons.2 ⟨fun h => absurd rfl (h k hk), hwhole⟩, ?_⟩
      rw [found_cons_some, if_pos hk, List.map_cons, List.nodup_cons]
      exact ⟨hnew, honce⟩
  · simp only [hk, if_false]
    have hother : ∀ n ∈ names, some k ≠ some n := fun n hn h => hk (Option.some.inj h ▸ hn)
    constructor
    · rintro ⟨hnamed, hwhole, honce⟩
      rw [found_cons_some, if_neg hk] at honce
      obtain ⟨ht, hwhole⟩ := List.forall_mem_cons.1 hwhole
      exact ⟨⟨(List.forall_mem_cons.1 hnamed).2, hwhole, honce⟩, ht hother⟩
    · rintro ⟨⟨hnamed, hwhole, honce⟩, ht⟩
      refine ⟨List.forall_mem_cons.2 ⟨rfl, hnamed⟩, List.forall_mem_cons.2 ⟨fun _ => ht, hwhole⟩, ?_⟩
      rwa [found_cons_some, if_neg hk]

theorem find?_eq_none_iff {fields : List Field} {k : String} :
    fields.find? (·.name = k) = none ↔ k ∉ fields.map (·.name) := by
  simp [List.find?_eq_none]

theorem checkMembers_eq_ok_iff {fields : List Field} {s : Source} {cells cells' : List (String × Tree)}
    {members : List (Option String × Tree)} :
    checkMembers fields s cells members = .ok cells' ↔
      Orderly (fields.map (·.name)) members ∧
      (∀ c ∈ found (fields.map (·.name)) members, cells.lookup c.1 = none ∧
        ∀ f, fields.find? (·.name = c.1) = some f → f.check s c.2 = .ok ()) ∧
      cells' = (found (fields.map (·.name)) members).reverse ++ cells := by
  induction members generalizing cells with
  | nil =>
    have hnil : Orderly (fields.map (·.name)) [] := ⟨nofun, nofun, List.nodup_nil⟩
    simp only [checkMembers, hnil, found, List.filterMap_nil, List.not_mem_nil, false_implies, implies_true, true_and,
      List.reverse_nil, List.nil_append, Except.ok.injEq, eq_comm]
  | cons m members ih =>
    obtain ⟨k, t⟩ := m
    cases k with
    | none =>
      have hno : ¬ Orderly (fields.map (·.name)) ((none, t) :: members) := fun h =>
        absurd (h.named _ List.mem_cons_self) (by simp)
      simp [checkMembers, hno]
    | some k =>
      rw [checkMembers, orderly_cons, found_cons_some]
      cases hfind : fields.find? (·.name = k) with
      | none =>
        have hk := find?_eq_none_iff.1 hfind
        simp only [hk, if_false]
        by_cases ht : t.isWhole <;> simp [ht, ih]
      | some f =>
        have hk : k ∈ fields.map (·.name) := by
          by_contra h
          rw [find?_eq_none_iff.2 h] at hfind
          cases hfind
        simp only [hk, if_true, List.forall_mem_cons, List.reverse_cons, List.append_assoc, List.singleton_append]
        cases hlookup : cells.lookup k with
        | some u => simp
        | none =>
          simp only [Option.isSome_none, Bool.false_eq_true, if_false, except_bind_eq_ok, ih, hfind, Option.some.injEq, forall_eq',
            lookup_cons_eq_none, true_and]
          constructor
          · rintro ⟨⟨⟩, hcheck, horderly, hfound, rfl⟩
            refine ⟨⟨horderly, ?_⟩, ⟨hcheck, fun c hc => ⟨(hfound c hc).1.2, (hfound c hc).2⟩⟩, rfl⟩
            rintro hmem
            obtain ⟨c, hc, rfl⟩ := List.mem_map.1 hmem
            exact (hfound c hc).1.1 rfl
          · rintro ⟨⟨horderly, hnew⟩, ⟨hcheck, hfound⟩, rfl⟩
            refine ⟨(), hcheck, horderly, fun c hc => ⟨⟨?_, (hfound c hc).1⟩, (hfound c hc).2⟩, rfl⟩
            rintro rfl
            exact hnew (List.mem_map_of_mem hc)

/-- What an object reads as, from what its members hold for the fields. -/
theorem decoder_obj (hx : x.Lawful) {s : Source} {members : List (Option String × Tree)} {a : α} :
    x.decoder name s (.obj members) = .ok a ↔ ∃ inner, s.enter = .ok inner ∧ Orderly x.names members ∧
      x.build ⟨name, x.names, false, inner, found x.names members⟩ = .ok a := by
  simp only [decoder, except_bind_eq_ok]
  refine exists_congr fun inner => and_congr_right fun _ => ?_
  have hsame : Orderly x.names members →
      x.build ⟨name, x.names, false, inner, (found x.names members).reverse ++ []⟩ =
        x.build ⟨name, x.names, false, inner, found x.names members⟩ := by
    intro h
    rw [List.append_nil]
    exact hx.congr fun k _ => lookup_reverse h.once k
  constructor
  · rintro ⟨cells, hcells, hbuild⟩
    obtain ⟨horderly, -, rfl⟩ := checkMembers_eq_ok_iff.1 hcells
    exact ⟨horderly, (hsame horderly).symm.trans hbuild⟩
  · rintro ⟨horderly, hbuild⟩
    refine ⟨_, checkMembers_eq_ok_iff.2 ⟨horderly, fun c hc => ⟨rfl, fun f hf => ?_⟩, rfl⟩, (hsame horderly).trans hbuild⟩
    have hname : f.name = c.1 := by simpa using List.find?_some hf
    refine hx.checked hbuild f (List.mem_of_find?_eq_some hf) c.2 ?_
    rw [hname]
    exact (lookup_eq_some_iff_mem horderly.once).2 hc

/-- The tree of a record reads as what is built of its cells. -/
theorem decoder_record (hx : x.Lawful) {s : Source} {cells : List (String × Tree)} {a : α}
    (hnodup : (cells.map Prod.fst).Nodup) (hnames : ∀ c ∈ cells, c.1 ∈ x.names) (hs : s.admits (.record cells))
    (hbuild : ∀ inner, (∀ c ∈ cells, inner.admits c.2) → x.build ⟨name, x.names, false, inner, cells⟩ = .ok a) :
    x.decoder name s (.record cells) = .ok a := by
  obtain ⟨inner, henter, hinner⟩ := Source.exists_enter hs (Nat.succ_pos _)
  have hfound := found_record hnames
  refine (decoder_obj hx).2 ⟨inner, henter, ⟨?_, ?_, ?_⟩, ?_⟩
  · rintro m hm
    obtain ⟨c, -, rfl⟩ := List.mem_map.1 hm
    rfl
  · rintro m hm hother
    obtain ⟨c, hc, rfl⟩ := List.mem_map.1 hm
    exact absurd rfl (hother c.1 (hnames c hc))
  · rwa [hfound]
  · rw [hfound]
    refine hbuild inner fun c hc => hinner c.2 ?_
    exact List.mem_map.2 ⟨_, List.mem_map_of_mem hc, rfl⟩

/-! ### What a record is made of -/

theorem checkItems_parts {s : Source} {fields : List Field} {items : List Tree} {cells : List (String × Tree)}
    (h : checkItems s fields items = .ok cells) : ∀ c ∈ cells, c.2 ∈ items := by
  induction fields generalizing items cells with
  | nil =>
    obtain rfl := Except.ok.inj h
    exact nofun
  | cons f fields ih =>
    cases items with
    | nil =>
      obtain rfl := Except.ok.inj h
      exact nofun
    | cons t items =>
      simp only [checkItems, except_bind_eq_ok, pure, Except.pure, Except.ok.injEq] at h
      obtain ⟨-, -, rest, hrest, rfl⟩ := h
      exact List.forall_mem_cons.2 ⟨List.mem_cons_self, fun c hc => List.mem_cons_of_mem _ (ih hrest c hc)⟩

/-- Whatever a record was read from, its cells are parts of the tree. -/
theorem exists_build {s : Source} {t : Tree} {a : α} (h : x.decoder name s t = .ok a) :
    ∃ r, x.build r = .ok a ∧ s.enter = .ok r.source ∧ 0 < t.height ∧ ∀ c ∈ r.cells, c.2 ∈ t.parts := by
  cases t with
  | obj members =>
    simp only [decoder, except_bind_eq_ok] at h
    obtain ⟨inner, henter, cells, hcells, hbuild⟩ := h
    obtain ⟨-, -, rfl⟩ := checkMembers_eq_ok_iff.1 hcells
    refine ⟨_, hbuild, henter, Nat.succ_pos _, fun c hc => ?_⟩
    rw [List.append_nil, List.mem_reverse, mem_found] at hc
    exact List.mem_map.2 ⟨_, hc.2, rfl⟩
  | arr items =>
    simp only [decoder, except_bind_eq_ok] at h
    obtain ⟨inner, henter, cells, hcells, b, hbuild, hlength⟩ := h
    have hb : b = a := by
      split_ifs at hlength
      exact Except.ok.inj hlength
    exact ⟨_, hb ▸ hbuild, henter, Nat.succ_pos _, checkItems_parts hcells⟩
  | null | bool | num | str | unreadable | broken => exact absurd h (by simp [decoder])

end Fields

end FleetFeed.Json
