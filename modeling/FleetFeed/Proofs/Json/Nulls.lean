import FleetFeed.Proofs.Json.Members

/-! Fields that are given as null and fields that are left out. Where a field may be null, both read alike, whether the record is
read or refused (`decoder_leavesOut`); where it may only be left out, null makes the whole record unreadable
(`decoder_givesNull`). -/
namespace FleetFeed.Json

/-- The second value leaves out fields that the first one gives as null: some by name, or some by place at the end. -/
inductive LeavesOut (names left : List String) : Value → Value → Prop
  | byName {members : List (String × Value)} (h : ∀ name ∈ left, (name, .null) ∈ members) :
    LeavesOut names left (.obj members) (.obj (members.filter fun m => m.1 ∉ left))
  | byPlace {items : List Value} (h : left <+: names.drop items.length) :
    LeavesOut names left (.arr (items ++ left.map fun _ => .null)) (.arr items)

/-- The value gives a field as null. -/
inductive GivesNull (names : List String) (name : String) : Value → Prop
  | byName {members : List (String × Value)} (h : (name, .null) ∈ members) : GivesNull names name (.obj members)
  | byPlace {items : List Value} (h : (name, .null) ∈ names.zip items) : GivesNull names name (.arr items)

theorem lookup_filter_notMem {ν : Type} (left : List String) (cells : List (String × ν)) (k : String) :
    (cells.filter fun c => c.1 ∉ left).lookup k = if k ∈ left then none else cells.lookup k := by
  induction cells with
  | nil => split <;> rfl
  | cons c cells ih =>
    obtain ⟨n, v⟩ := c
    rw [List.filter_cons]
    by_cases hkn : k = n
    · subst hkn
      by_cases hk : k ∈ left
      · rw [if_neg (by simpa using hk), ih, if_pos hk, if_pos hk]
      · rw [if_pos (by simpa using hk), List.lookup_cons_self, List.lookup_cons_self, if_neg hk]
    · have hne : (k == n) = false := beq_eq_false_iff_ne.2 hkn
      by_cases hn : n ∈ left
      · rw [if_neg (by simpa using hn), ih, List.lookup_cons, hne]
      · rw [if_pos (by simpa using hn), List.lookup_cons, List.lookup_cons, hne, ih]

namespace Fields

variable {α β : Type} {x : Fields α} {nullable left names : List String} {name : String} {d : Decoder α}

/-- Null is taken for these fields and for no others, and taken for no value. -/
structure Nullable (x : Fields α) (nullable : List String) : Prop where
  takes : ∀ f ∈ x.fields, f.name ∈ nullable → ∀ s, f.check s .null = .ok ()
  refuses : ∀ f ∈ x.fields, f.name ∉ nullable → ∀ s, f.check s .null ≠ .ok ()
  build_filter : ∀ {r : Row} {left : List String}, left ⊆ nullable → (∀ c ∈ r.cells, c.1 ∈ left → c.2 = .null) →
    x.build { r with cells := r.cells.filter fun c => c.1 ∉ left } = x.build r

theorem Nullable.map (f : α → β) (hx : x.Nullable nullable) : (f <$> x).Nullable nullable where
  takes := hx.takes
  refuses := hx.refuses
  build_filter hleft hcells := by rw [build_map, build_map, hx.build_filter hleft hcells]

theorem Nullable.seq {f : Fields (α → β)} (hf : f.Nullable nullable) (hx : x.Nullable nullable) :
    (f <*> x).Nullable nullable where
  takes y hy := (List.mem_append.1 hy).elim (hf.takes y) (hx.takes y)
  refuses y hy := (List.mem_append.1 hy).elim (hf.refuses y) (hx.refuses y)
  build_filter hleft hcells := by
    rw [build_seq, build_seq, hf.build_filter hleft hcells, hx.build_filter hleft hcells]

/-- A field that null is no value of. -/
theorem Nullable.single {absent : Row → Except DecodeError α} (hname : name ∉ nullable) (hd : ∀ s a, d s .null ≠ .ok a)
    (habsent : ∀ (r : Row) (cells : List (String × Tree)), absent r = absent { r with cells }) :
    (single name d absent).Nullable nullable where
  takes f hf hmem := by
    obtain rfl := List.mem_singleton.1 hf
    exact absurd hmem hname
  refuses f hf _ s := by
    obtain rfl := List.mem_singleton.1 hf
    intro h
    obtain ⟨a, ha, -⟩ := except_map_eq_ok.1 h
    exact hd s a ha
  build_filter {r left} hleft _ := by
    rw [build_single, build_single, lookup_filter_notMem, if_neg fun h => hname (hleft h), ← habsent]

theorem Nullable.required (hname : name ∉ nullable) (hd : ∀ s a, d s .null ≠ .ok a) : (required name d).Nullable nullable :=
  .single hname hd fun _ _ => rfl

theorem Nullable.defaulted {value : α} (hname : name ∉ nullable) (hd : ∀ s a, d s .null ≠ .ok a) :
    (defaulted name d value).Nullable nullable := .single hname hd fun _ _ => rfl

theorem Nullable.optional (hname : name ∈ nullable) : (optional name d).Nullable nullable where
  takes f hf _ s := by
    obtain rfl := List.mem_singleton.1 hf
    rfl
  refuses f hf hother := by
    obtain rfl := List.mem_singleton.1 hf
    exact absurd hname hother
  build_filter {r left} _ hcells := by
    rw [Fields.optional, Fields.defaulted, build_single, build_single, lookup_filter_notMem]
    split_ifs with hmem
    · cases hlookup : r.cells.lookup name with
      | none => rfl
      | some t =>
        obtain rfl : t = .null := hcells (name, t) (mem_of_lookup hlookup) hmem
        rfl
    · rfl

/-! ### By name -/

theorem checkMembers_filter {fields : List Field} {s : Source}
    (htakes : ∀ f ∈ fields, f.name ∈ left → f.check s .null = .ok ()) {members : List (String × Value)}
    {cells : List (String × Tree)} (hnodup : (members.map Prod.fst).Nodup) (hnull : ∀ m ∈ members, m.1 ∈ left → m.2 = .null)
    (hnew : ∀ m ∈ members, m.1 ∈ left → cells.lookup m.1 = none) :
    checkMembers fields s (cells.filter fun c => c.1 ∉ left) (treesOfMembers (members.filter fun m => m.1 ∉ left)) =
      (checkMembers fields s cells (treesOfMembers members)).map (List.filter fun c => c.1 ∉ left) := by
  induction members generalizing cells with
  | nil => rfl
  | cons m members ih =>
    obtain ⟨n, v⟩ := m
    obtain ⟨hn, hmembers⟩ := List.nodup_cons.1 hnodup
    obtain ⟨hv, hothers⟩ := List.forall_mem_cons.1 hnull
    obtain ⟨hfresh, hlater⟩ := List.forall_mem_cons.1 hnew
    have hrest {t : Tree} (m) (hm : m ∈ members) (hleft : m.1 ∈ left) : ((n, t) :: cells).lookup m.1 = none := by
      refine lookup_cons_eq_none.2 ⟨fun hmn => ?_, hlater m hm hleft⟩
      exact hn (List.mem_map.2 ⟨m, hm, hmn⟩)
    rw [List.filter_cons]
    by_cases hleft : n ∈ left
    · obtain rfl := hv hleft
      rw [if_neg (by simpa using hleft), treesOfMembers, checkMembers]
      cases hfind : fields.find? (·.name = n) with
      | none => exact ih hmembers hothers hlater
      | some f =>
        have hname : f.name = n := by simpa using List.find?_some hfind
        have hcheck := htakes f (List.mem_of_find?_eq_some hfind) (hname ▸ hleft)
        have hcells : ((n, Tree.null) :: cells).filter (fun c => c.1 ∉ left) = cells.filter fun c => c.1 ∉ left :=
          List.filter_cons_of_neg (by simpa using hleft)
        rw [← hcells, ih hmembers hothers hrest]
        simp [hfresh hleft, Value.toTree, hcheck, bind, Except.bind]
    · have hlookup := (lookup_filter_notMem left cells n).trans (if_neg hleft)
      rw [if_pos (by simpa using hleft), treesOfMembers, treesOfMembers, checkMembers, checkMembers]
      cases hfind : fields.find? (·.name = n) with
      | none => simp only [v.isWhole_toTree, if_true, ih hmembers hothers hlater]
      | some f =>
        have hcells (t : Tree) : ((n, t) :: cells).filter (fun c => c.1 ∉ left) = (n, t) :: cells.filter fun c => c.1 ∉ left :=
          List.filter_cons_of_pos (by simpa using hleft)
        simp only [hlookup]
        split_ifs
        · rfl
        · cases f.check s v.toTree with
          | error e => rfl
          | ok _ =>
            simp only [bind, Except.bind]
            rw [← hcells, ih hmembers hothers hrest]

theorem decoder_filter (hx : x.Nullable nullable) (hleft : left ⊆ nullable) {members : List (String × Value)}
    (hnodup : (members.map Prod.fst).Nodup) (hnull : ∀ m ∈ members, m.1 ∈ left → m.2 = .null) (record : String) :
    x.decoder record .value (.obj (treesOfMembers (members.filter fun m => m.1 ∉ left))) =
      x.decoder record .value (.obj (treesOfMembers members)) := by
  have hfresh : ∀ m ∈ members, m.1 ∈ left → ([] : List (String × Tree)).lookup m.1 = none := fun _ _ _ => rfl
  have hcheck := checkMembers_filter (s := .value) (fun f hf hmem => hx.takes f hf (hleft hmem) .value) hnodup hnull hfresh
  simp only [decoder, Source.enter, bind, Except.bind]
  rw [List.filter_nil] at hcheck
  rw [hcheck]
  cases hcells : checkMembers x.fields .value [] (treesOfMembers members) with
  | error e => rfl
  | ok cells =>
    refine hx.build_filter (r := ⟨record, x.names, false, .value, cells⟩) hleft fun c hc hmem => ?_
    obtain ⟨-, -, rfl⟩ := checkMembers_eq_ok_iff.1 hcells
    rw [List.append_nil, List.mem_reverse, mem_found, Value.treesOfMembers_eq] at hc
    obtain ⟨m, hm, hmc⟩ := List.mem_map.1 hc.2
    obtain ⟨hname, htree⟩ := Prod.mk.inj hmc
    have hnullm := hnull m hm ((Option.some.inj hname).symm ▸ hmem)
    rw [← htree, hnullm]
    rfl

/-! ### By place -/

theorem checkItems_nulls {s : Source} {fields : List Field} (htakes : ∀ f ∈ fields, f.name ∈ left → f.check s .null = .ok ())
    (hleft : left <+: fields.map (·.name)) :
    checkItems s fields (left.map fun _ => .null) = .ok (left.map fun name => (name, .null)) := by
  induction fields generalizing left with
  | nil =>
    obtain rfl : left = [] := by simpa using hleft
    rfl
  | cons f fields ih =>
    cases left with
    | nil => rfl
    | cons name left =>
      obtain ⟨hname, hprefix⟩ := List.cons_prefix_cons.1 hleft
      obtain ⟨hf, hfields⟩ := List.forall_mem_cons.1 htakes
      have hrest := ih (fun g hg hmem => hfields g hg (List.mem_cons_of_mem _ hmem)) hprefix
      have hcheck : f.check s .null = .ok () := hf (hname ▸ List.mem_cons_self)
      simp only [List.map_cons, checkItems, hcheck, hrest, ← hname]
      rfl

theorem checkItems_append_nulls {s : Source} {fields : List Field} {items : List Tree}
    (htakes : ∀ f ∈ fields, f.name ∈ left → f.check s .null = .ok ()) (hleft : left <+: (fields.map (·.name)).drop items.length) :
    checkItems s fields (items ++ left.map fun _ => .null) =
      (checkItems s fields items).map (· ++ left.map fun name => (name, .null)) := by
  induction fields generalizing items with
  | nil =>
    obtain rfl : left = [] := by simpa using hleft
    rw [List.map_nil, List.append_nil]
    rfl
  | cons f fields ih =>
    cases items with
    | nil => exact checkItems_nulls htakes hleft
    | cons t items =>
      simp only [List.cons_append, checkItems, ih (List.forall_mem_cons.1 htakes).2 hleft]
      cases f.check s t with
      | error e => rfl
      | ok _ => cases checkItems s fields items <;> rfl

/-- Items are read as fields that stand before those left out. -/
theorem notMem_of_checkItems {s : Source} (hnames : x.names.Nodup) {items : List Tree} (hleft : left <+: x.names.drop items.length)
    {cells : List (String × Tree)} (h : checkItems s x.fields items = .ok cells) : ∀ c ∈ cells, c.1 ∉ left := by
  intro c hc hmem
  rw [(checkItems_eq_ok_iff.1 h).2] at hc
  have htake : c.1 ∈ x.names.take items.length := by
    rw [← map_fst_zip_eq_take]
    exact List.mem_map_of_mem hc
  exact List.disjoint_take_drop hnames le_rfl htake (hleft.subset hmem)

theorem decoder_append_nulls (hx : x.Nullable nullable) (hnames : x.names.Nodup) (hnullable : left ⊆ nullable) {items : List Tree}
    (hleft : left <+: x.names.drop items.length) (record : String) (s : Source) :
    x.decoder record s (.arr (items ++ left.map fun _ => .null)) = x.decoder record s (.arr items) := by
  by_cases hnone : left = []
  · rw [hnone, List.map_nil, List.append_nil]
  have hfits : items.length + left.length ≤ x.fields.length := by
    have hroom := hleft.length_le
    have hpos := List.length_pos_of_ne_nil hnone
    rw [List.length_drop, names, List.length_map] at hroom
    omega
  have hlong : (items ++ left.map fun _ => Tree.null).length ≤ x.fields.length := by
    rwa [List.length_append, List.length_map]
  have hshort : items.length ≤ x.fields.length := by omega
  simp only [decoder, hlong, hshort, if_true]
  cases s.enter with
  | error e => rfl
  | ok inner =>
    have hcheck := checkItems_append_nulls (s := inner) (fun f hf hmem => hx.takes f hf (hnullable hmem) inner) hleft
    simp only [bind, Except.bind, hcheck]
    cases hcells : checkItems inner x.fields items with
    | error e => rfl
    | ok cells =>
      have hother := notMem_of_checkItems hnames hleft hcells
      have hfilter : (cells ++ left.map fun name => (name, Tree.null)).filter (fun c => c.1 ∉ left) = cells := by
        rw [List.filter_append, List.filter_eq_self.2 fun c hc => by simpa using hother c hc]
        simp
      have hbuild := hx.build_filter (r := ⟨record, x.names, true, inner, cells ++ left.map fun name => (name, .null)⟩) hnullable
        fun c hc hmem => ?_
      · simp only [Except.map, ← hbuild, hfilter]
      · rcases List.mem_append.1 hc with hc | hc
        · exact absurd hmem (hother c hc)
        · obtain ⟨_, -, rfl⟩ := List.mem_map.1 hc
          rfl

/-! ### Either way -/

/-- Null reads as a field that is left out, where it is taken. -/
theorem decoder_leavesOut (hx : x.Nullable nullable) (hnames : x.names.Nodup) (hleft : left ⊆ nullable) {v w : Value}
    (h : LeavesOut x.names left v w) (hv : v.Sorted) (record : String) :
    x.decoder record .value w.toTree = x.decoder record .value v.toTree := by
  cases h with
  | @byName members hnull =>
    have hnodup := Value.nodup_of_sorted hv
    refine decoder_filter hx hleft hnodup (fun m hm hmem => ?_) record
    have hlookup := (lookup_eq_some_iff_mem hnodup).2 (hnull m.1 hmem)
    exact Option.some.inj (((lookup_eq_some_iff_mem hnodup).2 hm).symm.trans hlookup)
  | @byPlace items hprefix =>
    have htree : (Value.arr (items ++ left.map fun _ => .null)).toTree =
        .arr (items.map Value.toTree ++ left.map fun _ => .null) := by
      rw [Value.toTree, Value.treesOfItems_eq, List.map_append, List.map_map]
      rfl
    rw [htree, Value.toTree, Value.treesOfItems_eq]
    refine (decoder_append_nulls hx hnames hleft ?_ record .value).symm
    rwa [List.length_map]

/-- Null makes a record unreadable, where it is not taken. -/
theorem decoder_givesNull (hx : x.Nullable nullable) (hname : name ∈ x.names) (hother : name ∉ nullable) {v : Value}
    (h : GivesNull x.names name v) (record : String) (a : α) : x.decoder record .value v.toTree ≠ .ok a := by
  intro hread
  cases h with
  | @byName members hnull =>
    simp only [Value.toTree, decoder, Source.enter, bind, Except.bind] at hread
    cases hcells : checkMembers x.fields .value [] (treesOfMembers members) with
    | error e => simp [hcells] at hread
    | ok cells =>
      obtain ⟨-, hchecks, -⟩ := checkMembers_eq_ok_iff.1 hcells
      have hfound : (name, Tree.null) ∈ found (x.fields.map (·.name)) (treesOfMembers members) := by
        rw [mem_found, Value.treesOfMembers_eq]
        exact ⟨hname, List.mem_map.2 ⟨_, hnull, rfl⟩⟩
      cases hfind : x.fields.find? (·.name = name) with
      | none => exact absurd hname (find?_eq_none_iff.1 hfind)
      | some f =>
        have hf : f.name = name := by simpa using List.find?_some hfind
        exact hx.refuses f (List.mem_of_find?_eq_some hfind) (hf ▸ hother) .value ((hchecks _ hfound).2 f hfind)
  | @byPlace items hnull =>
    simp only [Value.toTree, decoder, Source.enter, bind, Except.bind] at hread
    cases hcells : checkItems .value x.fields (treesOfItems items) with
    | error e => simp [hcells] at hread
    | ok cells =>
      rw [names, List.zip_map_left] at hnull
      obtain ⟨p, hp, hpnull⟩ := List.mem_map.1 hnull
      have hname : p.1.name = name := congrArg Prod.fst hpnull
      have hv : p.2 = .null := congrArg Prod.snd hpnull
      have htree : (p.1, Tree.null) ∈ x.fields.zip (treesOfItems items) := by
        rw [Value.treesOfItems_eq, List.zip_map_right]
        refine List.mem_map.2 ⟨p, hp, ?_⟩
        rw [Prod.map, hv]
        rfl
      exact hx.refuses p.1 (List.of_mem_zip hp).1 (hname ▸ hother) .value ((checkItems_eq_ok_iff.1 hcells).1 _ htree)

end Fields

end FleetFeed.Json
