import FleetFeed.Proofs.Json.Positions

/-! Values as records. The tree of a value is well formed and names no member twice, so that only the fields of a record decide
what it reads as. Data that wrap one value, by name or by place, read as that value does, in success and in failure
(`decoder_of_wraps`). -/
namespace FleetFeed.Json

/-- Data hold a value as their member of a name, or as the only item of an array. -/
inductive Wraps (name : String) (v : Value) : Value → Prop
  | byName {members : List (String × Value)} (h : (name, v) ∈ members) : Wraps name v (.obj members)
  | byPlace : Wraps name v (.arr [v])

theorem Wraps.sorted {name : String} {v w : Value} (h : Wraps name v w) (hw : w.Sorted) : v.Sorted := by
  cases h with
  | byName hmem => exact Value.sortedMembers_iff.1 hw.2 _ hmem
  | byPlace => exact Value.sortedItems_iff.1 hw v List.mem_cons_self

namespace Value

theorem nodup_of_sorted {members : List (String × Value)} (h : (obj members).Sorted) : (members.map Prod.fst).Nodup :=
  h.1.imp fun h => ne_of_lt h

theorem toTree_ne_null {v : Value} (h : v ≠ .null) : v.toTree ≠ .null := by
  cases v with
  | null => exact absurd rfl h
  | bool | num | str | arr | obj => simp [toTree]

theorem isWhole_toTree (v : Value) : v.toTree.isWhole = true := by
  induction v using Value.induction with
  | leaf v harr hobj =>
    cases v with
    | arr items => exact absurd rfl (harr items)
    | obj members => exact absurd rfl (hobj members)
    | null | bool | num | str => rfl
  | arr items ih =>
    rw [toTree, Tree.isWhole]
    induction items with
    | nil => rfl
    | cons v items ihs =>
      obtain ⟨hv, hitems⟩ := List.forall_mem_cons.1 ih
      rw [treesOfItems, Tree.wholeItems, hv, ihs hitems, Bool.and_self]
  | obj members ih =>
    rw [toTree, Tree.isWhole]
    induction members with
    | nil => rfl
    | cons m members ihs =>
      obtain ⟨hm, hmembers⟩ := List.forall_mem_cons.1 ih
      rw [treesOfMembers, Tree.wholeMembers, hm, ihs hmembers, Bool.and_self]

end Value

namespace Fields

variable {α : Type} {name : String} {d : Decoder α}

theorem found_toTree {names : List String} {k : String} (hk : k ∈ names) (members : List (String × Value)) :
    (found names (treesOfMembers members)).lookup k = (members.lookup k).map Value.toTree := by
  induction members with
  | nil => rfl
  | cons m members ih =>
    obtain ⟨n, v⟩ := m
    rw [treesOfMembers, found_cons_some]
    by_cases hkn : k = n
    · subst hkn
      rw [if_pos hk, List.lookup_cons_self, List.lookup_cons_self, Option.map_some]
    · have hne : (k == n) = false := beq_eq_false_iff_ne.2 hkn
      split_ifs
      · rw [List.lookup_cons, List.lookup_cons, hne, ih]
      · rw [List.lookup_cons, hne, ih]

theorem orderly_toTree (names : List String) {members : List (String × Value)} (h : (members.map Prod.fst).Nodup) :
    Orderly names (treesOfMembers members) := by
  induction members with
  | nil => exact ⟨nofun, nofun, List.nodup_nil⟩
  | cons m members ih =>
    obtain ⟨n, v⟩ := m
    obtain ⟨hn, hmembers⟩ := List.nodup_cons.1 h
    rw [treesOfMembers, orderly_cons]
    refine ⟨ih hmembers, ?_⟩
    split_ifs with hmem
    · rw [← lookup_eq_none_iff_notMem, found_toTree hmem, Option.map_eq_none_iff, lookup_eq_none_iff_notMem]
      exact hn
    · exact v.isWhole_toTree

theorem named_toTree (names : List String) (items : List Value) :
    Tree.named names (treesOfItems items) = treesOfMembers (names.zip items) := by
  rw [Tree.named, Value.treesOfItems_eq, Value.treesOfMembers_eq, List.zip_map_right, List.map_map]
  rfl

/-! ### Data that wrap a value -/

theorem required_members {members : List (String × Value)} (h : (members.map Prod.fst).Nodup) {record : String} {a : α} :
    (required name d).decoder record .value (.obj (treesOfMembers members)) = .ok a ↔
      ∃ v, (name, v) ∈ members ∧ d .value v.toTree = .ok a := by
  have hfound : (found [name] (treesOfMembers members)).lookup name = (members.lookup name).map Value.toTree :=
    found_toTree List.mem_cons_self members
  rw [decoder_obj .required]
  constructor
  · rintro ⟨_, ⟨⟩, -, hbuild⟩
    obtain ⟨t, ht, hread⟩ := build_required_eq_ok.1 hbuild
    obtain ⟨v, hv, rfl⟩ := Option.map_eq_some_iff.1 (hfound.symm.trans ht)
    exact ⟨v, mem_of_lookup hv, hread⟩
  · rintro ⟨v, hv, hread⟩
    refine ⟨.value, rfl, orderly_toTree [name] h, build_required_eq_ok.2 ⟨v.toTree, ?_, hread⟩⟩
    exact hfound.trans (Option.map_eq_some_iff.2 ⟨v, (lookup_eq_some_iff_mem h).2 hv, rfl⟩)

/-- A member that the only field refuses is all that is wrong. -/
theorem checkMembers_of_refused {f : Field} {s : Source} {v : Value} {e : DecodeError} (hcheck : f.check s v.toTree = .error e)
    {members : List (String × Value)} (hnodup : (members.map Prod.fst).Nodup) (hv : (f.name, v) ∈ members) :
    checkMembers [f] s [] (treesOfMembers members) = .error e := by
  induction members with
  | nil => exact absurd hv List.not_mem_nil
  | cons m members ih =>
    obtain ⟨n, w⟩ := m
    obtain ⟨hn, hmembers⟩ := List.nodup_cons.1 hnodup
    rw [treesOfMembers, checkMembers]
    by_cases hname : f.name = n
    · have hvw : v = w := by
        rcases List.mem_cons.1 hv with hv | hv
        · exact congrArg Prod.snd hv
        · exact absurd (List.mem_map.2 ⟨_, hv, hname⟩) hn
      simp [hname, ← hvw, hcheck, bind, Except.bind]
    · have hrest : (f.name, v) ∈ members := by
        rcases List.mem_cons.1 hv with hv | hv
        · exact absurd (congrArg Prod.fst hv) hname
        · exact hv
      simp [hname, w.isWhole_toTree, ih hmembers hrest]

/-- Data that wrap a value read as the value does. -/
theorem decoder_of_wraps {record : String} {v data : Value} (h : Wraps name v data) (hdata : data.Sorted) :
    (required name d).decoder record .value data.toTree = d .value v.toTree := by
  cases h with
  | byName hmem =>
    have hnodup := Value.nodup_of_sorted hdata
    rw [Value.toTree]
    cases hread : d .value v.toTree with
    | ok a => exact (required_members hnodup).2 ⟨v, hmem, hread⟩
    | error e =>
      have hcheck : (d .value v.toTree).map (fun _ => ()) = .error e := by rw [hread]; rfl
      have hmembers := checkMembers_of_refused (f := ⟨name, fun s t => (d s t).map fun _ => ()⟩) hcheck hnodup hmem
      simp only [decoder, Source.enter, bind, Except.bind]
      rw [show (required name d).fields = [⟨name, fun s t => (d s t).map fun _ => ()⟩] from rfl, hmembers]
  | byPlace =>
    rw [Value.toTree, treesOfItems, treesOfItems]
    simp only [decoder, required, single, checkItems, Source.enter, bind, Except.bind]
    cases hread : d .value v.toTree with
    | ok a => simp [pure, Except.pure, Except.map, hread]
    | error e => rfl

/-- Data that are read wrap a value. -/
theorem exists_wraps {record : String} {data : Value} (hdata : data.Sorted) {a : α}
    (h : (required name d).decoder record .value data.toTree = .ok a) : ∃ v, Wraps name v data := by
  cases data with
  | obj members =>
    obtain ⟨v, hv, -⟩ := (required_members (Value.nodup_of_sorted hdata)).1 h
    exact ⟨v, .byName hv⟩
  | arr items =>
    have hname := List.nodup_singleton name
    obtain ⟨hlength, h⟩ := (decoder_arr .required .required hname).1 h
    rw [named_toTree] at h
    obtain ⟨v, hv, -⟩ := (required_members (hname.sublist (map_fst_zip_sublist [name] items))).1 h
    match items with
    | [] => exact absurd hv List.not_mem_nil
    | [v] => exact ⟨v, .byPlace⟩
    | v :: w :: rest =>
      have hlong : (treesOfItems (v :: w :: rest)).length ≤ 1 := hlength
      simp [treesOfItems] at hlong
  | null | bool | num | str => exact absurd h (by simp [decoder, Value.toTree])

theorem decoder_wrapped {record : String} {data : Value} (hdata : data.Sorted) {a : α} :
    (required name d).decoder record .value data.toTree = .ok a ↔ ∃ v, Wraps name v data ∧ d .value v.toTree = .ok a := by
  constructor
  · intro h
    obtain ⟨v, hv⟩ := exists_wraps hdata h
    exact ⟨v, hv, (decoder_of_wraps hv hdata).symm.trans h⟩
  · rintro ⟨v, hv, h⟩
    exact (decoder_of_wraps hv hdata).trans h

end Fields

end FleetFeed.Json
