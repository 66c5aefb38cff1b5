import FleetFeed.Json.Variant
import FleetFeed.Proofs.Json.Records

/-! Reading values of several kinds. An object has a kind where exactly one member says it; the other members are handed on as they
stand (`decoder_obj`), and whatever the tree, what is handed on is made of its parts (`exists_fields`). -/
namespace FleetFeed.Json

namespace Variant

variable {τ α : Type} {kind : String → Except DecodeError τ} {s : Source}

/-- What stands where the kind is said. -/
def tags (members : List (Option String × Tree)) : List Tree := (members.filter (·.1 = some tagName)).map Prod.snd

/-- The members that are set aside. -/
def others (members : List (Option String × Tree)) : List (Option String × Tree) := members.filter (·.1 ≠ some tagName)

/-- The member can be set aside. -/
def Keeps (s : Source) (m : Option String × Tree) : Prop := m.1.isSome ∧ m.2.value?.isSome ∧ s.admits m.2

theorem tag_eq_ok_iff {t : Tree} {k : τ} : tag kind t = .ok k ↔ ∃ name, t = .str name ∧ kind name = .ok k := by
  cases t <;> simp [tag]

theorem mem_tags {members : List (Option String × Tree)} {t : Tree} : t ∈ tags members ↔ (some tagName, t) ∈ members := by
  simp only [tags, List.mem_map, List.mem_filter, decide_eq_true_eq]
  constructor
  · rintro ⟨⟨_, u⟩, ⟨hm, rfl⟩, rfl⟩
    exact hm
  · exact fun h => ⟨_, ⟨h, rfl⟩, rfl⟩

theorem mem_others {members : List (Option String × Tree)} {m : Option String × Tree} :
    m ∈ others members ↔ m ∈ members ∧ m.1 ≠ some tagName := by
  simp only [others, List.mem_filter, decide_eq_true_eq]

theorem tags_cons_tag {t : Tree} {members : List (Option String × Tree)} :
    tags ((some tagName, t) :: members) = t :: tags members := by simp [tags]

theorem tags_cons_of_ne {m : Option String × Tree} {members : List (Option String × Tree)} (h : m.1 ≠ some tagName) :
    tags (m :: members) = tags members := by simp [tags, h]

theorem others_cons_tag {t : Tree} {members : List (Option String × Tree)} :
    others ((some tagName, t) :: members) = others members := by simp [others]

theorem others_cons_of_ne {m : Option String × Tree} {members : List (Option String × Tree)} (h : m.1 ≠ some tagName) :
    others (m :: members) = m :: others members := by simp [others, h]

/-- Once the kind is known, or as long as it is not, a member that does not say it is set aside. -/
theorem splitMembers_cons_of_ne {k : Option τ} {name : String} {t : Tree} {members : List (Option String × Tree)}
    {p : τ × List (Option String × Tree)} (h : name ≠ tagName) :
    splitMembers kind s k ((some name, t) :: members) = .ok p ↔
      Keeps s (some name, t) ∧ ∃ q, splitMembers kind s k members = .ok q ∧ p = (q.1, (some name, t) :: q.2) := by
  rw [splitMembers, if_neg h]
  simp only [except_bind_eq_ok, Decoder.buffered_eq_ok_iff, pure, Except.pure, Except.ok.injEq, Keeps, Option.isSome_some, true_and]
  constructor
  · rintro ⟨u, ⟨hkeeps, rfl⟩, q, hq, rfl⟩
    exact ⟨hkeeps, q, hq, rfl⟩
  · rintro ⟨hkeeps, q, hq, rfl⟩
    exact ⟨t, ⟨hkeeps, rfl⟩, q, hq, rfl⟩

theorem splitMembers_some_eq_ok_iff {k : τ} {members : List (Option String × Tree)} {p : τ × List (Option String × Tree)} :
    splitMembers kind s (some k) members = .ok p ↔
      tags members = [] ∧ (∀ m ∈ others members, Keeps s m) ∧ p = (k, others members) := by
  induction members generalizing p with
  | nil => simp [splitMembers, tags, others, eq_comm]
  | cons m members ih =>
    obtain ⟨name, t⟩ := m
    cases name with
    | none => simp [splitMembers, others, Keeps]
    | some name =>
      by_cases hname : name = tagName
      · simp [splitMembers, hname, tags]
      · have hne : some name ≠ some tagName := fun h => hname (Option.some.inj h)
        rw [splitMembers_cons_of_ne hname, tags_cons_of_ne hne, others_cons_of_ne hne, List.forall_mem_cons]
        constructor
        · rintro ⟨hkeeps, q, hq, rfl⟩
          obtain ⟨htags, hothers, rfl⟩ := ih.1 hq
          exact ⟨htags, ⟨hkeeps, hothers⟩, rfl⟩
        · rintro ⟨htags, ⟨hkeeps, hothers⟩, rfl⟩
          exact ⟨hkeeps, _, ih.2 ⟨htags, hothers, rfl⟩, rfl⟩

/-- An object has a kind where exactly one member says it and all others can be set aside. -/
theorem splitMembers_eq_ok_iff {members : List (Option String × Tree)} {p : τ × List (Option String × Tree)} :
    splitMembers kind s none members = .ok p ↔
      ∃ t k, tags members = [t] ∧ tag kind t = .ok k ∧ (∀ m ∈ others members, Keeps s m) ∧ p = (k, others members) := by
  induction members generalizing p with
  | nil => simp [splitMembers, tags]
  | cons m members ih =>
    obtain ⟨name, t⟩ := m
    cases name with
    | none => simp [splitMembers, others, Keeps]
    | some name =>
      by_cases hname : name = tagName
      · subst hname
        simp only [splitMembers, if_true, Option.isSome_none, Bool.false_eq_true, if_false, except_bind_eq_ok,
          splitMembers_some_eq_ok_iff, tags_cons_tag, others_cons_tag, List.cons.injEq]
        constructor
        · rintro ⟨k, hk, htags, hothers, rfl⟩
          exact ⟨t, k, ⟨rfl, htags⟩, hk, hothers, rfl⟩
        · rintro ⟨_, k, ⟨rfl, htags⟩, hk, hothers, rfl⟩
          exact ⟨k, hk, htags, hothers, rfl⟩
      · have hne : some name ≠ some tagName := fun h => hname (Option.some.inj h)
        rw [splitMembers_cons_of_ne hname, tags_cons_of_ne hne, others_cons_of_ne hne, List.forall_mem_cons]
        constructor
        · rintro ⟨hkeeps, q, hq, rfl⟩
          obtain ⟨u, k, htags, hk, hothers, rfl⟩ := ih.1 hq
          exact ⟨u, k, htags, hk, ⟨hkeeps, hothers⟩, rfl⟩
        · rintro ⟨u, k, htags, hk, ⟨hkeeps, hothers⟩, rfl⟩
          exact ⟨hkeeps, _, ih.2 ⟨u, k, htags, hk, hothers, rfl⟩, rfl⟩

variable {type : String} {fields : τ → Decoder α} {a : α}

theorem decoder_eq_ok_iff {t : Tree} :
    decoder type kind fields s t = .ok a ↔ ∃ p, split type kind s t = .ok p ∧ fields p.1 .buffer p.2 = .ok a := by
  simp only [decoder, except_bind_eq_ok]

/-- What an object reads as, from the one member that says its kind and the others. -/
theorem decoder_obj {members : List (Option String × Tree)} :
    decoder type kind fields s (.obj members) = .ok a ↔ ∃ inner t k, s.enter = .ok inner ∧ tags members = [t] ∧
      tag kind t = .ok k ∧ (∀ m ∈ others members, Keeps inner m) ∧ fields k .buffer (.obj (others members)) = .ok a := by
  simp only [decoder_eq_ok_iff, split, except_bind_eq_ok, splitMembers_eq_ok_iff, pure, Except.pure, Except.ok.injEq]
  constructor
  · rintro ⟨_, ⟨inner, henter, _, ⟨t, k, htags, hk, hothers, rfl⟩, rfl⟩, ha⟩
    exact ⟨inner, t, k, henter, htags, hk, hothers, ha⟩
  · rintro ⟨inner, t, k, henter, htags, hk, hothers, ha⟩
    exact ⟨_, ⟨inner, henter, _, ⟨t, k, htags, hk, hothers, rfl⟩, rfl⟩, ha⟩

/-- The tree of a record that says its kind first reads as its other fields do. -/
theorem decoder_record {name : String} {k : τ} {cells : List (String × Tree)} (hk : kind name = .ok k)
    (hnames : ∀ c ∈ cells, c.1 ≠ tagName) (hreadable : ∀ c ∈ cells, c.2.value?.isSome)
    (hs : s.admits (.record ((tagName, .str name) :: cells))) (ha : fields k .buffer (.record cells) = .ok a) :
    decoder type kind fields s (.record ((tagName, .str name) :: cells)) = .ok a := by
  obtain ⟨inner, henter, hinner⟩ := Source.exists_enter hs (Nat.succ_pos _)
  have hne : ∀ m ∈ cells.map fun c => (some c.1, c.2), m.1 ≠ some tagName := by
    intro m hm
    obtain ⟨c, hc, rfl⟩ := List.mem_map.1 hm
    exact fun h => hnames c hc (Option.some.inj h)
  have hothers : others (cells.map fun c => (some c.1, c.2)) = cells.map fun c => (some c.1, c.2) :=
    List.filter_eq_self.2 fun m hm => decide_eq_true (hne m hm)
  have htags : tags (cells.map fun c => (some c.1, c.2)) = [] := by
    rw [tags, List.filter_eq_nil_iff.2 fun m hm => by simpa using hne m hm, List.map_nil]
  refine decoder_obj.2 ⟨inner, .str name, k, henter, ?_, hk, ?_, ?_⟩
  · rw [List.map_cons, tags_cons_tag, htags]
  · rw [List.map_cons, others_cons_tag, hothers]
    intro m hm
    obtain ⟨c, hc, rfl⟩ := List.mem_map.1 hm
    exact ⟨rfl, hreadable c hc, hinner c.2 (List.mem_map.2 ⟨_, List.mem_map_of_mem (List.mem_cons_of_mem _ hc), rfl⟩)⟩
  · rwa [List.map_cons, others_cons_tag, hothers]

/-- Whatever a value with a kind was read from, its fields were read from a tree that nests no deeper and whose numbers are among
those of the tree. -/
theorem exists_fields {t : Tree} (h : decoder type kind fields s t = .ok a) :
    ∃ k rest, fields k .buffer rest = .ok a ∧ 0 < s.room t ∧ rest.height ≤ s.room t ∧ rest.numbers ⊆ t.numbers := by
  cases t with
  | obj members =>
    obtain ⟨inner, u, k, henter, -, -, hothers, ha⟩ := decoder_obj.1 h
    obtain ⟨n, hn, hroom⟩ := Source.room_of_enter (t := .obj members) henter (Nat.succ_pos _)
    refine ⟨k, _, ha, hn ▸ n.succ_pos, ?_, fun x hx => ?_⟩
    · rw [hn, Tree.height_obj_le]
      intro m hm
      have hmem : m ∈ members := List.mem_of_mem_filter hm
      exact (Source.height_le_room (hothers m hm).2.2).trans (hroom m.2 (List.mem_map_of_mem hmem))
    · obtain ⟨m, hm, hx⟩ := Tree.mem_numbers_obj.1 hx
      exact Tree.mem_numbers_obj.2 ⟨m, List.mem_of_mem_filter hm, hx⟩
  | arr items =>
    obtain ⟨p, hp, ha⟩ := decoder_eq_ok_iff.1 h
    simp only [split, except_bind_eq_ok] at hp
    obtain ⟨inner, henter, hp⟩ := hp
    cases items with
    | nil => exact absurd hp (by simp [throw, throwThe, MonadExceptOf.throw])
    | cons u items =>
      simp only [except_bind_eq_ok, mapM_eq_ok_iff, Decoder.buffered_eq_ok_iff, pure, Except.pure, Except.ok.injEq] at hp
      obtain ⟨k, -, rest, hrest, rfl⟩ := hp
      obtain ⟨n, hn, hroom⟩ := Source.room_of_enter (t := .arr (u :: items)) henter (Nat.succ_pos _)
      have hparts : ∀ v ∈ rest, v ∈ items ∧ inner.admits v := by
        intro v hv
        obtain ⟨w, hw, ⟨-, hadmits⟩, rfl⟩ := Tree.exists_of_forall₂ hrest hv
        exact ⟨hw, hadmits⟩
      refine ⟨k, .arr rest, ha, hn ▸ n.succ_pos, ?_, fun x hx => ?_⟩
      · rw [hn, Tree.height_arr_le]
        intro v hv
        obtain ⟨hmem, hadmits⟩ := hparts v hv
        exact (Source.height_le_room hadmits).trans (hroom v (List.mem_cons_of_mem _ hmem))
      · obtain ⟨v, hv, hx⟩ := Tree.mem_numbers_arr.1 hx
        exact Tree.mem_numbers_arr.2 ⟨v, List.mem_cons_of_mem _ (hparts v hv).1, hx⟩
  | null | bool | num | str | unreadable | broken =>
    exact absurd (decoder_eq_ok_iff.1 h) (by simp [split])

/-- Nothing is read that has a part which cannot be, also where no field asks for that part. -/
theorem readable_of_decoder {t : Tree} (h : decoder type kind fields s t = .ok a) : t.value?.isSome ∧ s.admits t := by
  cases t with
  | obj members =>
    obtain ⟨inner, u, k, henter, htags, hk, hothers, -⟩ := decoder_obj.1 h
    obtain ⟨name, rfl, -⟩ := tag_eq_ok_iff.1 hk
    have hkeeps : ∀ m ∈ members, Keeps inner m := by
      rintro ⟨k, u⟩ hm
      by_cases hname : k = some tagName
      · subst hname
        have hu : u ∈ tags members := mem_tags.2 hm
        rw [htags, List.mem_singleton] at hu
        subst hu
        exact ⟨rfl, rfl, Source.admits_leaf rfl⟩
      · exact hothers _ (mem_others.2 ⟨hm, hname⟩)
    refine ⟨Tree.isSome_value?_obj.2 fun m hm => ⟨(hkeeps m hm).1, (hkeeps m hm).2.1⟩, Source.admits_of_enter henter fun u hu => ?_⟩
    obtain ⟨m, hm, rfl⟩ := List.mem_map.1 hu
    exact (hkeeps m hm).2.2
  | arr items =>
    obtain ⟨p, hp, -⟩ := decoder_eq_ok_iff.1 h
    simp only [split, except_bind_eq_ok] at hp
    obtain ⟨inner, henter, hp⟩ := hp
    cases items with
    | nil => exact absurd hp (by simp [throw, throwThe, MonadExceptOf.throw])
    | cons u items =>
      simp only [except_bind_eq_ok, Decoder.mapM_buffered_eq_ok_iff] at hp
      obtain ⟨k, hk, rest, ⟨hrest, -⟩, -⟩ := hp
      obtain ⟨name, rfl, -⟩ := tag_eq_ok_iff.1 hk
      have hitems : ∀ v ∈ Tree.str name :: items, v.value?.isSome ∧ inner.admits v :=
        List.forall_mem_cons.2 ⟨⟨rfl, Source.admits_leaf rfl⟩, hrest⟩
      exact ⟨Tree.isSome_value?_arr.2 fun v hv => (hitems v hv).1, Source.admits_of_enter henter fun v hv => (hitems v hv).2⟩
  | null | bool | num | str | unreadable | broken => exact absurd (decoder_eq_ok_iff.1 h) (by simp [split])

end Variant

end FleetFeed.Json
