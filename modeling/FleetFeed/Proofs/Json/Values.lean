import FleetFeed.Json.Tree
import Mathlib.Data.List.Forall2
import Mathlib.Data.String.Basic

/-! Values and their trees. The tree of a value reads back as that value, and what a tree reads as is a value in order: its
objects are sorted, it nests no deeper than the tree, and its numbers are numbers of the tree. -/
namespace FleetFeed.Json

/-! ### Induction over containers -/

/-- What holds of all trees without parts, and of a container if of its parts, holds of all trees. -/
theorem Tree.induction {P : Tree → Prop} (leaf : ∀ t, (∀ items, t ≠ .arr items) → (∀ members, t ≠ .obj members) → P t)
    (arr : ∀ items, (∀ t ∈ items, P t) → P (.arr items)) (obj : ∀ members, (∀ m ∈ members, P m.2) → P (.obj members)) :
    ∀ t, P t :=
  Tree.rec (motive_1 := P) (motive_2 := fun ts => ∀ t ∈ ts, P t) (motive_3 := fun ms => ∀ m ∈ ms, P m.2)
    (motive_4 := fun m => P m.2) (leaf _ nofun nofun) (fun _ => leaf _ nofun nofun) (fun _ => leaf _ nofun nofun)
    (fun _ => leaf _ nofun nofun) (fun _ => arr _) (fun _ => obj _) (leaf _ nofun nofun) (leaf _ nofun nofun) nofun
    (fun _ _ h hs => List.forall_mem_cons.2 ⟨h, hs⟩) nofun (fun _ _ h hs => List.forall_mem_cons.2 ⟨h, hs⟩) (fun _ _ => id)

/-- What holds of all values without parts, and of a container if of its parts, holds of all values. -/
theorem Value.induction {P : Value → Prop} (leaf : ∀ v, (∀ items, v ≠ .arr items) → (∀ members, v ≠ .obj members) → P v)
    (arr : ∀ items, (∀ v ∈ items, P v) → P (.arr items)) (obj : ∀ members, (∀ m ∈ members, P m.2) → P (.obj members)) :
    ∀ v, P v :=
  Value.rec (motive_1 := P) (motive_2 := fun vs => ∀ v ∈ vs, P v) (motive_3 := fun ms => ∀ m ∈ ms, P m.2)
    (motive_4 := fun m => P m.2) (leaf _ nofun nofun) (fun _ => leaf _ nofun nofun) (fun _ => leaf _ nofun nofun)
    (fun _ => leaf _ nofun nofun) (fun _ => arr _) (fun _ => obj _) nofun
    (fun _ _ h hs => List.forall_mem_cons.2 ⟨h, hs⟩) nofun (fun _ _ h hs => List.forall_mem_cons.2 ⟨h, hs⟩) (fun _ _ => id)

/-! ### Numbers -/

namespace Number

/-- An integer is one of 64 bits, with or without a sign. -/
def Fits : Number → Prop
  | .int n => -9223372036854775808 ≤ n ∧ n ≤ 18446744073709551615
  | .float _ => True

def IsInt : Number → Prop
  | .int _ => True
  | .float _ => False

end Number

namespace Tree

mutual

def numbers : Tree → List Number
  | .num n => [n]
  | .arr items => numbersItems items
  | .obj members => numbersMembers members
  | _ => []

def numbersItems : List Tree → List Number
  | [] => []
  | t :: rest => t.numbers ++ numbersItems rest

def numbersMembers : List (Option String × Tree) → List Number
  | [] => []
  | (_, t) :: rest => t.numbers ++ numbersMembers rest

end

theorem mem_numbersItems {n : Number} {items : List Tree} : n ∈ numbersItems items ↔ ∃ t ∈ items, n ∈ t.numbers := by
  induction items with
  | nil => simp [numbersItems]
  | cons t items ih => simp [numbersItems, ih]

theorem mem_numbersMembers {n : Number} {members : List (Option String × Tree)} :
    n ∈ numbersMembers members ↔ ∃ m ∈ members, n ∈ m.2.numbers := by
  induction members with
  | nil => simp [numbersMembers]
  | cons m members ih => simp [numbersMembers, ih]

theorem mem_numbers_arr {n : Number} {items : List Tree} : n ∈ (arr items).numbers ↔ ∃ t ∈ items, n ∈ t.numbers :=
  mem_numbersItems

theorem mem_numbers_obj {n : Number} {members : List (Option String × Tree)} :
    n ∈ (obj members).numbers ↔ ∃ m ∈ members, n ∈ m.2.numbers := mem_numbersMembers

/-! ### Nesting -/

theorem heightItems_le {n : Nat} {items : List Tree} : heightItems items ≤ n ↔ ∀ t ∈ items, t.height ≤ n := by
  induction items with
  | nil => simp [heightItems]
  | cons t items ih => simp [heightItems, ih]

theorem heightMembers_le {n : Nat} {members : List (Option String × Tree)} :
    heightMembers members ≤ n ↔ ∀ m ∈ members, m.2.height ≤ n := by
  induction members with
  | nil => simp [heightMembers]
  | cons m members ih => simp [heightMembers, ih]

theorem height_arr_le {n : Nat} {items : List Tree} : (arr items).height ≤ n + 1 ↔ ∀ t ∈ items, t.height ≤ n := by
  rw [height, Nat.add_le_add_iff_right, heightItems_le]

theorem height_obj_le {n : Nat} {members : List (Option String × Tree)} :
    (obj members).height ≤ n + 1 ↔ ∀ m ∈ members, m.2.height ≤ n := by
  rw [height, Nat.add_le_add_iff_right, heightMembers_le]

theorem height_lt_arr {t : Tree} {items : List Tree} (h : t ∈ items) : t.height < (arr items).height :=
  Nat.lt_succ_of_le (heightItems_le.1 le_rfl t h)

theorem height_lt_obj {m : Option String × Tree} {members : List (Option String × Tree)} (h : m ∈ members) :
    m.2.height < (obj members).height :=
  Nat.lt_succ_of_le (heightMembers_le.1 le_rfl m h)

/-! ### What a tree reads as -/

theorem exists_of_forall₂ {α β : Type} {R : α → β → Prop} {xs : List α} {ys : List β} (h : List.Forall₂ R xs ys) {y : β}
    (hy : y ∈ ys) : ∃ x ∈ xs, R x y := by
  induction h with
  | nil => exact absurd hy List.not_mem_nil
  | cons hxy _ ih =>
    rcases List.mem_cons.1 hy with rfl | hy
    · exact ⟨_, List.mem_cons_self, hxy⟩
    · obtain ⟨x, hx, hxy⟩ := ih hy
      exact ⟨x, List.mem_cons_of_mem _ hx, hxy⟩

theorem values?_eq_some_iff {items : List Tree} {vs : List Value} :
    values? items = some vs ↔ List.Forall₂ (fun t v => t.value? = some v) items vs := by
  induction items generalizing vs with
  | nil => simp [values?, eq_comm]
  | cons t items ih =>
    simp only [values?, Option.bind_eq_bind, Option.bind_eq_some_iff, ih, List.forall₂_cons_left_iff]
    aesop

theorem members?_eq_some_iff {members : List (Option String × Tree)} {ms : List (String × Value)} :
    members? members = some ms ↔ List.Forall₂ (fun m x => m.1 = some x.1 ∧ m.2.value? = some x.2) members ms := by
  induction members generalizing ms with
  | nil => simp [members?, eq_comm]
  | cons m members ih =>
    obtain ⟨k, t⟩ := m
    cases k with
    | none => simp [members?, List.forall₂_cons_left_iff]
    | some k =>
      simp only [members?, Option.bind_eq_bind, Option.bind_eq_some_iff, ih, List.forall₂_cons_left_iff]
      aesop

theorem isSome_value?_arr {items : List Tree} : (arr items).value?.isSome ↔ ∀ t ∈ items, t.value?.isSome := by
  rw [value?, Option.isSome_map]
  induction items with
  | nil => simp [values?]
  | cons t items ih =>
    rw [List.forall_mem_cons, ← ih, values?]
    cases t.value? <;> cases values? items <;> simp

theorem isSome_value?_obj {members : List (Option String × Tree)} :
    (obj members).value?.isSome ↔ ∀ m ∈ members, m.1.isSome ∧ m.2.value?.isSome := by
  rw [value?, Option.isSome_map]
  induction members with
  | nil => simp [members?]
  | cons m members ih =>
    obtain ⟨k, t⟩ := m
    rw [List.forall_mem_cons, ← ih]
    cases k with
    | none => simp [members?]
    | some k =>
      rw [members?]
      cases t.value? <;> cases members? members <;> simp

end Tree

namespace Value

/-- The numbers in a value are those of its tree. -/
def numbers (v : Value) : List Number := v.toTree.numbers

theorem treesOfItems_eq (items : List Value) : treesOfItems items = items.map toTree := by
  induction items with
  | nil => rfl
  | cons v items ih => rw [treesOfItems, ih, List.map_cons]

theorem treesOfMembers_eq (members : List (String × Value)) :
    treesOfMembers members = members.map fun m => (some m.1, m.2.toTree) := by
  induction members with
  | nil => rfl
  | cons m members ih => rw [treesOfMembers, ih, List.map_cons]

theorem sortedItems_iff {items : List Value} : SortedItems items ↔ ∀ v ∈ items, v.Sorted := by
  induction items with
  | nil => simp [SortedItems]
  | cons v items ih => simp [SortedItems, ih]

theorem sortedMembers_iff {members : List (String × Value)} : SortedMembers members ↔ ∀ m ∈ members, m.2.Sorted := by
  induction members with
  | nil => simp [SortedMembers]
  | cons m members ih => simp [SortedMembers, ih]

/-! ### Members in order -/

theorem mem_of_mem_insert {k : String} {v : Value} {x : String × Value} {ms : List (String × Value)}
    (h : x ∈ insert k v ms) : x = (k, v) ∨ x ∈ ms := by
  induction ms with
  | nil => exact .inl (List.mem_singleton.1 h)
  | cons m ms ih =>
    obtain ⟨n, w⟩ := m
    rw [insert] at h
    split_ifs at h with hlt heq
    · exact List.mem_cons.1 h
    · exact (List.mem_cons.1 h).imp_right (List.mem_cons_of_mem _)
    · rcases List.mem_cons.1 h with rfl | h
      · exact .inr List.mem_cons_self
      · exact (ih h).imp_right (List.mem_cons_of_mem _)

theorem pairwise_insert (k : String) (v : Value) {ms : List (String × Value)} (h : (ms.map Prod.fst).Pairwise (· < ·)) :
    ((insert k v ms).map Prod.fst).Pairwise (· < ·) := by
  induction ms with
  | nil => exact List.pairwise_singleton _ _
  | cons m ms ih =>
    obtain ⟨n, w⟩ := m
    obtain ⟨hn, hms⟩ := List.pairwise_cons.1 h
    rw [insert]
    split_ifs with hlt heq
    · refine List.pairwise_cons.2 ⟨fun x hx => ?_, h⟩
      rcases List.mem_cons.1 hx with rfl | hx
      · exact hlt
      · exact lt_trans hlt (hn x hx)
    · subst heq
      exact List.pairwise_cons.2 ⟨hn, hms⟩
    · refine List.pairwise_cons.2 ⟨fun x hx => ?_, ih hms⟩
      obtain ⟨y, hy, rfl⟩ := List.mem_map.1 hx
      rcases mem_of_mem_insert hy with rfl | hy
      · exact lt_of_le_of_ne (not_lt.1 hlt) (Ne.symm heq)
      · exact hn _ (List.mem_map_of_mem hy)

/-- A member that comes after all others is put at the end. -/
theorem insert_of_last {k : String} (v : Value) {ms : List (String × Value)} (h : ∀ m ∈ ms, m.1 < k) :
    insert k v ms = ms ++ [(k, v)] := by
  induction ms with
  | nil => rfl
  | cons m ms ih =>
    obtain ⟨n, w⟩ := m
    obtain ⟨hn, hms⟩ := List.forall_mem_cons.1 h
    rw [insert, if_neg hn.le.not_gt, if_neg hn.ne', ih hms, List.cons_append]

theorem foldl_insert (acc ms : List (String × Value)) (h : ((acc ++ ms).map Prod.fst).Pairwise (· < ·)) :
    ms.foldl (fun sorted m => insert m.1 m.2 sorted) acc = acc ++ ms := by
  induction ms generalizing acc with
  | nil => exact (List.append_nil acc).symm
  | cons m ms ih =>
    have hlast : ∀ x ∈ acc, x.1 < m.1 := by
      intro x hx
      rw [List.map_append, List.pairwise_append] at h
      exact h.2.2 _ (List.mem_map_of_mem hx) _ List.mem_cons_self
    rw [List.foldl_cons, insert_of_last m.2 hlast, ih, List.append_assoc, List.singleton_append]
    rwa [List.append_assoc, List.singleton_append]

theorem ofMembers_of_pairwise {ms : List (String × Value)} (h : (ms.map Prod.fst).Pairwise (· < ·)) :
    ofMembers ms = .obj ms := by
  rw [ofMembers, foldl_insert [] ms h, List.nil_append]

/-- An object is made of some of the members that are given for it, in order. -/
theorem exists_ofMembers (ms : List (String × Value)) :
    ∃ sorted, ofMembers ms = .obj sorted ∧ (sorted.map Prod.fst).Pairwise (· < ·) ∧ ∀ x ∈ sorted, x ∈ ms := by
  have hfold : ∀ acc : List (String × Value), (acc.map Prod.fst).Pairwise (· < ·) →
      ((ms.foldl (fun sorted m => insert m.1 m.2 sorted) acc).map Prod.fst).Pairwise (· < ·) ∧
        ∀ x ∈ ms.foldl (fun sorted m => insert m.1 m.2 sorted) acc, x ∈ acc ∨ x ∈ ms := by
    induction ms with
    | nil => exact fun acc hacc => ⟨hacc, fun x hx => .inl hx⟩
    | cons m ms ih =>
      intro acc hacc
      obtain ⟨hpairwise, hmem⟩ := ih (insert m.1 m.2 acc) (pairwise_insert m.1 m.2 hacc)
      refine ⟨hpairwise, fun x hx => ?_⟩
      rcases hmem x hx with hx | hx
      · rcases mem_of_mem_insert hx with rfl | hx
        · exact .inr List.mem_cons_self
        · exact .inl hx
      · exact .inr (List.mem_cons_of_mem _ hx)
  obtain ⟨hpairwise, hmem⟩ := hfold [] List.Pairwise.nil
  exact ⟨_, rfl, hpairwise, fun x hx => (hmem x hx).resolve_left List.not_mem_nil⟩

/-! ### From a value to its tree and back -/

theorem value?_toTree {v : Value} (h : v.Sorted) : v.toTree.value? = some v := by
  induction v using Value.induction with
  | leaf v harr hobj =>
    cases v with
    | arr items => exact absurd rfl (harr items)
    | obj members => exact absurd rfl (hobj members)
    | null | bool | num | str => rfl
  | arr items ih =>
    have hitems : Tree.values? (items.map toTree) = some items := by
      rw [Tree.values?_eq_some_iff, List.forall₂_map_left_iff, List.forall₂_same]
      exact fun v hv => ih v hv (sortedItems_iff.1 h v hv)
    rw [toTree, treesOfItems_eq, Tree.value?, hitems]
    rfl
  | obj members ih =>
    have hmembers : Tree.members? (members.map fun m => (some m.1, m.2.toTree)) = some members := by
      rw [Tree.members?_eq_some_iff, List.forall₂_map_left_iff, List.forall₂_same]
      exact fun m hm => ⟨rfl, ih m hm (sortedMembers_iff.1 h.2 m hm)⟩
    rw [toTree, treesOfMembers_eq, Tree.value?, hmembers, Option.map_some, ofMembers_of_pairwise h.1]

end Value

namespace Tree

/-- How trees and what they read as go together: a leaf with its value, a container with a container of what some of its parts
read as. -/
theorem value?_induction {R : Tree → Value → Prop} (null : R .null .null) (bool : ∀ b, R (.bool b) (.bool b))
    (num : ∀ n, R (.num n) (.num n)) (str : ∀ s, R (.str s) (.str s))
    (arr : ∀ items vs, (∀ v ∈ vs, ∃ t ∈ items, R t v) → R (.arr items) (.arr vs))
    (obj : ∀ members ms, (ms.map Prod.fst).Pairwise (· < ·) → (∀ x ∈ ms, ∃ m ∈ members, R m.2 x.2) →
      R (.obj members) (.obj ms)) {t : Tree} {v : Value} (h : t.value? = some v) : R t v := by
  induction t using Tree.induction generalizing v with
  | leaf t harr hobj =>
    cases t with
    | arr items => exact absurd rfl (harr items)
    | obj members => exact absurd rfl (hobj members)
    | unreadable | broken => exact absurd h (by simp [value?])
    | null => obtain rfl := Option.some.inj h; exact null
    | bool b => obtain rfl := Option.some.inj h; exact bool b
    | num n => obtain rfl := Option.some.inj h; exact num n
    | str s => obtain rfl := Option.some.inj h; exact str s
  | arr items ih =>
    obtain ⟨vs, hvs, rfl⟩ := Option.map_eq_some_iff.1 h
    refine arr items vs fun v hv => ?_
    obtain ⟨t, ht, htv⟩ := exists_of_forall₂ (values?_eq_some_iff.1 hvs) hv
    exact ⟨t, ht, ih t ht htv⟩
  | obj members ih =>
    obtain ⟨ms, hms, rfl⟩ := Option.map_eq_some_iff.1 h
    obtain ⟨sorted, hsorted, hpairwise, hmem⟩ := Value.exists_ofMembers ms
    rw [hsorted]
    refine obj members sorted hpairwise fun x hx => ?_
    obtain ⟨m, hm, -, hmx⟩ := exists_of_forall₂ (members?_eq_some_iff.1 hms) (hmem x hx)
    exact ⟨m, hm, ih m hm hmx⟩

theorem sorted_of_value? {t : Tree} {v : Value} (h : t.value? = some v) : v.Sorted := by
  refine value?_induction (R := fun _ v => v.Sorted) trivial (fun _ => trivial) (fun _ => trivial) (fun _ => trivial)
    (fun items vs hparts => ?_) (fun members ms hpairwise hparts => ?_) h
  · exact Value.sortedItems_iff.2 fun v hv => (hparts v hv).choose_spec.2
  · exact ⟨hpairwise, Value.sortedMembers_iff.2 fun m hm => (hparts m hm).choose_spec.2⟩

theorem height_of_value? {t : Tree} {v : Value} (h : t.value? = some v) : v.toTree.height ≤ t.height := by
  refine value?_induction (R := fun t v => v.toTree.height ≤ t.height) le_rfl (fun _ => le_rfl) (fun _ => le_rfl)
    (fun _ => le_rfl) (fun items vs hparts => ?_) (fun members ms _ hparts => ?_) h
  · rw [Value.toTree, Value.treesOfItems_eq, height, height, Nat.add_le_add_iff_right, heightItems_le]
    intro _ hv
    obtain ⟨v, hmem, rfl⟩ := List.mem_map.1 hv
    obtain ⟨t, ht, hle⟩ := hparts v hmem
    exact hle.trans (heightItems_le.1 le_rfl t ht)
  · rw [Value.toTree, Value.treesOfMembers_eq, height, height, Nat.add_le_add_iff_right, heightMembers_le]
    intro _ hx
    obtain ⟨x, hmem, rfl⟩ := List.mem_map.1 hx
    obtain ⟨m, hm, hle⟩ := hparts x hmem
    exact hle.trans (heightMembers_le.1 le_rfl m hm)

theorem numbers_of_value? {t : Tree} {v : Value} (h : t.value? = some v) : v.numbers ⊆ t.numbers := by
  refine value?_induction (R := fun t v => v.numbers ⊆ t.numbers) (List.Subset.refl _) (fun _ => List.Subset.refl _)
    (fun _ => List.Subset.refl _) (fun _ => List.Subset.refl _) (fun items vs hparts n hn => ?_)
    (fun members ms _ hparts n hn => ?_) h
  · rw [Value.numbers, Value.toTree, Value.treesOfItems_eq, mem_numbers_arr] at hn
    obtain ⟨_, hv, hn⟩ := hn
    obtain ⟨v, hmem, rfl⟩ := List.mem_map.1 hv
    obtain ⟨t, ht, hsub⟩ := hparts v hmem
    exact mem_numbers_arr.2 ⟨t, ht, hsub hn⟩
  · rw [Value.numbers, Value.toTree, Value.treesOfMembers_eq, mem_numbers_obj] at hn
    obtain ⟨_, hx, hn⟩ := hn
    obtain ⟨x, hmem, rfl⟩ := List.mem_map.1 hx
    obtain ⟨m, hm, hsub⟩ := hparts x hmem
    exact mem_numbers_obj.2 ⟨m, hm, hsub hn⟩

/-- Only the tree of null reads as null. -/
theorem eq_null_of_value? {t : Tree} (h : t.value? = some .null) : t = .null := by
  cases t with
  | null => rfl
  | arr items =>
    obtain ⟨vs, -, hvs⟩ := Option.map_eq_some_iff.1 h
    exact absurd hvs (by simp)
  | obj members =>
    obtain ⟨ms, -, hms⟩ := Option.map_eq_some_iff.1 h
    exact absurd hms (by simp [Value.ofMembers])
  | bool | num | str | unreadable | broken => exact absurd h (by simp [value?])

end Tree

end FleetFeed.Json
