import FleetFeed.Event.Merge
import FleetFeed.Proofs.Time.Stamps
import Mathlib.Data.List.Sort

/-! Merged records. The merge is the one rearrangement of its input in which instants do not fall, records without an instant
stand last, and records of one instant stand as they came. What it gives thus depends only on which records of each instant there
are and in what order, so a merge that is merged again with what came since is the merge of all that came. -/
namespace FleetFeed.Event

open Time

/-! ### The order of instants -/

/-- An instant that is before another, or that is known where the other one is not. -/
inductive Earlier : Option Instant → Option Instant → Prop
  | instant {a b : Instant} (h : a.seconds < b.seconds ∨ a.seconds = b.seconds ∧ a.nanos < b.nanos) : Earlier (some a) (some b)
  | known {a : Instant} : Earlier (some a) none

variable {a b c : Option Instant}

theorem Earlier.irrefl : ¬ Earlier a a := by
  rintro ⟨h⟩
  omega

theorem Earlier.trans (hab : Earlier a b) (hbc : Earlier b c) : Earlier a c := by
  cases hab with
  | known => cases hbc
  | instant hab =>
    cases hbc with
    | known => exact .known
    | instant hbc => exact .instant (by omega)

theorem earlier_trichotomy (a b : Option Instant) : Earlier a b ∨ a = b ∨ Earlier b a := by
  cases a with
  | none =>
    cases b with
    | none => exact .inr (.inl rfl)
    | some b => exact .inr (.inr .known)
  | some a =>
    cases b with
    | none => exact .inl .known
    | some b =>
      obtain ⟨s, n⟩ := a
      obtain ⟨t, m⟩ := b
      rcases lt_trichotomy s t with h | rfl | h
      · exact .inl (.instant (.inl h))
      · rcases lt_trichotomy n m with h | rfl | h
        · exact .inl (.instant (.inr ⟨rfl, h⟩))
        · exact .inr (.inl rfl)
        · exact .inr (.inr (.instant (.inr ⟨rfl, h⟩)))
      · exact .inr (.inr (.instant (.inl h)))

theorem notAfter_iff : notAfter a b = true ↔ Earlier a b ∨ a = b := by
  constructor
  · intro h
    rcases earlier_trichotomy a b with hab | hab | hba
    · exact .inl hab
    · exact .inr hab
    · cases hba with
      | known => cases h
      | instant hba =>
        simp only [notAfter, Instant.le, Bool.or_eq_true, Bool.and_eq_true, decide_eq_true_eq, beq_iff_eq] at h
        omega
  · rintro (h | rfl)
    · cases h with
      | known => rfl
      | instant h =>
        simp only [notAfter, Instant.le, Bool.or_eq_true, Bool.and_eq_true, decide_eq_true_eq, beq_iff_eq]
        omega
    · cases a <;> simp [notAfter, Instant.le]

theorem notAfter_trans (hab : notAfter a b = true) (hbc : notAfter b c = true) : notAfter a c = true := by
  rw [notAfter_iff] at *
  rcases hab with hab | rfl
  · rcases hbc with hbc | rfl
    · exact .inl (hab.trans hbc)
    · exact .inl hab
  · exact hbc

theorem notAfter_total (a b : Option Instant) : (notAfter a b || notAfter b a) = true := by
  rw [Bool.or_eq_true, notAfter_iff, notAfter_iff]
  rcases earlier_trichotomy a b with h | h | h
  · exact .inl (.inl h)
  · exact .inl (.inr h)
  · exact .inr (.inl h)

theorem notAfter_antisymm (hab : notAfter a b = true) (hba : notAfter b a = true) : a = b := by
  rw [notAfter_iff] at *
  rcases hab with hab | rfl
  · rcases hba with hba | rfl
    · exact absurd (hab.trans hba) Earlier.irrefl
    · rfl
  · rfl

/-! ### Records of one instant -/

/-- Records whose instants do not fall. -/
def Ordered (rs : List Record) : Prop := rs.Pairwise fun r s => notAfter r.instant? s.instant? = true

/-- The records of an instant, or those without one, as they stand. -/
def ofInstant (i : Option Instant) (rs : List Record) : List Record := rs.filter fun r => r.instant? = i

variable {i : Option Instant} {r s : Record} {rs xs ys : List Record}

theorem Ordered.notAfter_of_mem (h : Ordered (r :: rs)) (hs : s ∈ r :: rs) : notAfter r.instant? s.instant? = true := by
  rcases List.mem_cons.1 hs with rfl | hs
  · exact notAfter_iff.2 (.inr rfl)
  · exact (List.pairwise_cons.1 h).1 s hs

theorem mem_ofInstant : r ∈ ofInstant i rs ↔ r ∈ rs ∧ r.instant? = i := by
  rw [ofInstant, List.mem_filter, decide_eq_true_eq]

theorem ofInstant_append (i : Option Instant) (xs ys : List Record) :
    ofInstant i (xs ++ ys) = ofInstant i xs ++ ofInstant i ys := List.filter_append ..

theorem ofInstant_cons (i : Option Instant) (r : Record) (rs : List Record) :
    ofInstant i (r :: rs) = if r.instant? = i then r :: ofInstant i rs else ofInstant i rs := by
  by_cases h : r.instant? = i <;> simp [ofInstant, h]

theorem ofInstant_ofInstant (i : Option Instant) (rs : List Record) : ofInstant i (ofInstant i rs) = ofInstant i rs :=
  List.filter_eq_self.2 fun _ hr => decide_eq_true (mem_ofInstant.1 hr).2

theorem ordered_ofInstant (i : Option Instant) (rs : List Record) : Ordered (ofInstant i rs) := by
  refine List.pairwise_of_forall_mem_list fun r hr s hs => notAfter_iff.2 (.inr ?_)
  rw [(mem_ofInstant.1 hr).2, (mem_ofInstant.1 hs).2]

theorem mem_iff_of_ofInstant (h : ∀ i, ofInstant i xs = ofInstant i ys) : r ∈ xs ↔ r ∈ ys := by
  have hr : ∀ rs, r ∈ rs ↔ r ∈ ofInstant r.instant? rs := fun rs => by rw [mem_ofInstant, and_iff_left rfl]
  rw [hr, h, ← hr]

/-- Records in order are told by the records of each instant. -/
theorem Ordered.eq_of_ofInstant (hxs : Ordered xs) (hys : Ordered ys) (h : ∀ i, ofInstant i xs = ofInstant i ys) : xs = ys := by
  induction xs generalizing ys with
  | nil => exact (List.eq_nil_iff_forall_not_mem.2 fun r hr => List.not_mem_nil ((mem_iff_of_ofInstant h).2 hr)).symm
  | cons r xs ih =>
    cases ys with
    | nil => exact absurd ((mem_iff_of_ofInstant h).1 List.mem_cons_self) List.not_mem_nil
    | cons s ys =>
      -- Each head stands in the other list too, so neither is after the other.
      have hrs := hxs.notAfter_of_mem ((mem_iff_of_ofInstant h).2 List.mem_cons_self)
      have hsr := hys.notAfter_of_mem ((mem_iff_of_ofInstant h).1 List.mem_cons_self)
      have hsame := notAfter_antisymm hrs hsr
      have hheads := h r.instant?
      rw [ofInstant_cons, ofInstant_cons, if_pos rfl, if_pos hsame.symm] at hheads
      obtain ⟨rfl, -⟩ := List.cons.inj hheads
      refine congrArg (r :: ·) (ih (List.pairwise_cons.1 hxs).2 (List.pairwise_cons.1 hys).2 fun i => ?_)
      have hi := h i
      rw [ofInstant_cons, ofInstant_cons] at hi
      split at hi
      · exact (List.cons.inj hi).2
      · exact hi

/-! ### Merging -/

theorem ordered_mergeByTimestamp (rs : List Record) : Ordered (mergeByTimestamp rs) :=
  List.pairwise_mergeSort (fun r s t => notAfter_trans (a := r.instant?) (b := s.instant?) (c := t.instant?))
    (fun r s => notAfter_total r.instant? s.instant?) rs

/-- Records of one instant are neither lost nor rearranged. -/
theorem ofInstant_mergeByTimestamp (i : Option Instant) (rs : List Record) :
    ofInstant i (mergeByTimestamp rs) = ofInstant i rs := by
  have hsub : (ofInstant i rs).Sublist (mergeByTimestamp rs) :=
    List.sublist_mergeSort (fun r s t => notAfter_trans (a := r.instant?) (b := s.instant?) (c := t.instant?))
      (fun r s => notAfter_total r.instant? s.instant?) (ordered_ofInstant i rs) List.filter_sublist
  have hinner : (ofInstant i (ofInstant i rs)).Sublist (ofInstant i (mergeByTimestamp rs)) := hsub.filter _
  rw [ofInstant_ofInstant] at hinner
  have hlength : (ofInstant i (mergeByTimestamp rs)).length = (ofInstant i rs).length :=
    ((List.mergeSort_perm rs _).filter _).length_eq
  exact (hinner.eq_of_length hlength.symm).symm

/-- A merge is told by the records of each instant. -/
theorem mergeByTimestamp_congr (h : ∀ i, ofInstant i xs = ofInstant i ys) : mergeByTimestamp xs = mergeByTimestamp ys := by
  refine (ordered_mergeByTimestamp xs).eq_of_ofInstant (ordered_mergeByTimestamp ys) fun i => ?_
  rw [ofInstant_mergeByTimestamp, h, ofInstant_mergeByTimestamp]

/-! ### The merge as a rearrangement -/

/-- Records in order are those with an instant, whose instants do not fall, and then the others. -/
theorem Ordered.exists_known (h : Ordered rs) :
    ∃ (known unknown : List Record) (instants : List Instant), rs = known ++ unknown ∧
      known.map Record.instant? = instants.map some ∧ instants.Pairwise (fun i j => i.le j = true) ∧
      unknown.map Record.instant? = List.replicate unknown.length none := by
  induction rs with
  | nil => exact ⟨[], [], [], rfl, rfl, .nil, rfl⟩
  | cons r rs ih =>
    obtain ⟨hr, hrs⟩ := List.pairwise_cons.1 h
    cases hi : r.instant? with
    | none =>
      have hnone : ∀ s ∈ rs, s.instant? = none := fun s hs => by
        have hrs := hr s hs
        rw [hi, notAfter_iff] at hrs
        rcases hrs with hrs | hrs
        · cases hrs
        · exact hrs.symm
      refine ⟨[], r :: rs, [], rfl, rfl, .nil, List.eq_replicate_iff.2 ⟨List.length_map .., fun i hmem => ?_⟩⟩
      obtain ⟨s, hs, rfl⟩ := List.mem_map.1 hmem
      rcases List.mem_cons.1 hs with rfl | hs
      · exact hi
      · exact hnone s hs
    | some i =>
      obtain ⟨known, unknown, instants, rfl, hknown, hinstants, hunknown⟩ := ih hrs
      refine ⟨r :: known, unknown, i :: instants, rfl, by simp [hi, hknown], List.pairwise_cons.2 ⟨fun j hj => ?_, hinstants⟩,
        hunknown⟩
      have hmem : some j ∈ known.map Record.instant? := hknown ▸ List.mem_map_of_mem hj
      obtain ⟨s, hs, hsj⟩ := List.mem_map.1 hmem
      have hrs := hr s (List.mem_append_left _ hs)
      rwa [hi, hsj] at hrs

/-- The merge has each record with its place in the input once, the earlier instant first and of one instant the earlier
place. -/
theorem exists_places (rs : List Record) :
    ∃ placed : List (Record × Nat), placed.Perm rs.zipIdx ∧ placed.map Prod.fst = mergeByTimestamp rs ∧
      placed.Pairwise fun a b => Earlier a.1.instant? b.1.instant? ∨ a.1.instant? = b.1.instant? ∧ a.2 < b.2 := by
  let le (r s : Record) : Bool := notAfter r.instant? s.instant?
  have htrans : ∀ r s t, le r s = true → le s t = true → le r t = true := fun _ _ _ => notAfter_trans
  have htotal : ∀ r s, (le r s || le s r) = true := fun _ _ => notAfter_total _ _
  have hperm := List.mergeSort_perm rs.zipIdx (List.zipIdxLE le)
  refine ⟨_, hperm, List.mergeSort_zipIdx, ?_⟩
  have hplaces : (rs.zipIdx.map Prod.snd).Nodup := by
    rw [List.zipIdx_map_snd]
    exact List.nodup_range'
  have hdistinct := List.pairwise_map.1 ((hperm.map Prod.snd).nodup_iff.2 hplaces)
  have hsorted := List.pairwise_mergeSort (List.zipIdxLE_trans htrans) (List.zipIdxLE_total htotal) rs.zipIdx
  refine (hsorted.and hdistinct).imp fun {a b} ⟨hle, hne⟩ => ?_
  unfold List.zipIdxLE at hle
  have hab : le a.1 b.1 = true := by
    by_contra h
    rw [if_neg h] at hle
    cases hle
  rcases notAfter_iff.1 hab with hab' | hsame
  · exact .inl hab'
  · have hba : le b.1 a.1 = true := notAfter_iff.2 (.inr hsame.symm)
    rw [if_pos hab, if_pos hba, decide_eq_true_eq] at hle
    exact .inr ⟨hsame, lt_of_le_of_ne hle hne⟩

/-- The merge rearranges records by the instants that their timestamps name, those that name none behind the others, and records of
one instant as they came. -/
theorem merge_is_stable_by_instant (rs : List Record) :
    (mergeByTimestamp rs).Perm rs ∧
    (∃ (known unknown : List Record) (instants : List Instant), mergeByTimestamp rs = known ++ unknown ∧
      known.map Record.instant? = instants.map some ∧ instants.Pairwise (fun i j => i.le j = true) ∧
      unknown.map Record.instant? = List.replicate unknown.length none) ∧
    (∃ placed : List (Record × Nat), placed.Perm rs.zipIdx ∧ placed.map Prod.fst = mergeByTimestamp rs ∧
      placed.Pairwise fun a b => Earlier a.1.instant? b.1.instant? ∨ a.1.instant? = b.1.instant? ∧ a.2 < b.2) ∧
    ∀ r i, Record.instant? r = some i ↔ ∃ s : Stamp, s.Valid ∧ r.timestamp.toList = s.text ∧ s.instant = i :=
  ⟨List.mergeSort_perm .., (ordered_mergeByTimestamp rs).exists_known, exists_places rs, fun _ _ => Rfc3339.parse?_eq_some_iff⟩

/-! ### Merging again -/

theorem mergeByTimestamp_merged_append (xs ys : List Record) :
    mergeByTimestamp (mergeByTimestamp xs ++ ys) = mergeByTimestamp (xs ++ ys) :=
  mergeByTimestamp_congr fun i => by rw [ofInstant_append, ofInstant_append, ofInstant_mergeByTimestamp]

theorem mergeByTimestamp_append_merged (xs ys : List Record) :
    mergeByTimestamp (xs ++ mergeByTimestamp ys) = mergeByTimestamp (xs ++ ys) :=
  mergeByTimestamp_congr fun i => by rw [ofInstant_append, ofInstant_append, ofInstant_mergeByTimestamp]

/-- What is shown is merged anew with each batch. -/
theorem foldl_mergeByTimestamp (arrived : List Record) (batches : List (List Record)) :
    batches.foldl (fun shown batch => mergeByTimestamp (shown ++ batch)) (mergeByTimestamp arrived) =
      mergeByTimestamp (arrived ++ batches.flatten) := by
  induction batches generalizing arrived with
  | nil => rw [List.foldl_nil, List.flatten_nil, List.append_nil]
  | cons batch batches ih => rw [List.foldl_cons, mergeByTimestamp_merged_append, ih, List.flatten_cons, List.append_assoc]

/-- Merging batches, each before or as it comes, is merging all at once. -/
theorem merging_in_batches (xs ys : List Record) (batches : List (List Record)) :
    mergeByTimestamp (mergeByTimestamp xs ++ mergeByTimestamp ys) = mergeByTimestamp (xs ++ ys) ∧
    mergeByTimestamp (mergeByTimestamp xs ++ ys) = mergeByTimestamp (xs ++ ys) ∧
    batches.foldl (fun shown batch => mergeByTimestamp (shown ++ batch)) [] = mergeByTimestamp batches.flatten := by
  refine ⟨?_, mergeByTimestamp_merged_append xs ys, ?_⟩
  · rw [mergeByTimestamp_append_merged, mergeByTimestamp_merged_append]
  · have hnone : mergeByTimestamp [] = [] := List.mergeSort_nil
    have hall := foldl_mergeByTimestamp [] batches
    rwa [hnone, List.nil_append] at hall

end FleetFeed.Event
