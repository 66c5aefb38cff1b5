import FleetFeed.Event.Subscription
import FleetFeed.Proofs.Text.ByteOrder
import Mathlib.Data.List.Sort

/-! Keys of sets of containers. A key lists each container once, in increasing order, so lists of the same containers have the
same key; where no name holds a comma, the containers can be read off the key. -/
namespace FleetFeed.Event

variable {xs ys : List String}

/-! ### Each text once -/

section Repetitions

variable {α : Type} [DecidableEq α]

theorem eraseRepsBy_loop (a : α) (l acc : List α) :
    List.eraseRepsBy.loop (· == ·) a l acc = acc.reverse ++ (a :: l).eraseReps := by
  induction l generalizing a acc with
  | nil => simp [List.eraseReps, List.eraseRepsBy, List.eraseRepsBy.loop]
  | cons b l ih =>
    simp only [List.eraseReps, List.eraseRepsBy, List.eraseRepsBy.loop] at ih ⊢
    split
    · exact ih a acc
    · rw [ih b (a :: acc), ih b [a], List.reverse_cons, List.append_assoc, List.reverse_singleton]

theorem eraseReps_cons_cons (a b : α) (l : List α) :
    (a :: b :: l).eraseReps = if a = b then (a :: l).eraseReps else a :: (b :: l).eraseReps := by
  by_cases h : a = b
  · simp [List.eraseReps, List.eraseRepsBy, List.eraseRepsBy.loop, h]
  · have hloop := eraseRepsBy_loop b l [a]
    simp only [List.eraseReps, List.eraseRepsBy, List.eraseRepsBy.loop, beq_eq_false_iff_ne.2 h, if_neg h] at hloop ⊢
    exact hloop

theorem mem_eraseReps {x : α} {l : List α} : x ∈ l.eraseReps ↔ x ∈ l := by
  cases l with
  | nil => rfl
  | cons a l =>
    induction l generalizing a with
    | nil => rfl
    | cons b l ih =>
      rw [eraseReps_cons_cons]
      split
      case isTrue h => rw [ih, h, List.mem_cons, List.mem_cons, List.mem_cons, or_self_left]
      case isFalse => rw [List.mem_cons, ih, List.mem_cons, List.mem_cons, List.mem_cons]

/-- In a list in order equal elements stand next to each other, so none is left twice. -/
theorem pairwise_eraseReps [PartialOrder α] {l : List α} (h : l.Pairwise (· ≤ ·)) : l.eraseReps.Pairwise (· < ·) := by
  cases l with
  | nil => exact .nil
  | cons a l =>
    induction l generalizing a with
    | nil => exact List.pairwise_singleton _ _
    | cons b l ih =>
      obtain ⟨ha, hl⟩ := List.pairwise_cons.1 h
      rw [eraseReps_cons_cons]
      split
      case isTrue hab =>
        subst hab
        exact ih a hl
      case isFalse hab =>
        refine List.pairwise_cons.2 ⟨fun x hx => ?_, ih b hl⟩
        have hbx : b ≤ x := by
          rcases List.mem_cons.1 (mem_eraseReps.1 hx) with rfl | hx
          · exact le_rfl
          · exact (List.pairwise_cons.1 hl).1 x hx
        exact lt_of_lt_of_le (lt_of_le_of_ne (ha b List.mem_cons_self) hab) hbx

/-- Whichever way lists were put in order, what is left of them without repetitions is told by their elements. -/
theorem eraseReps_eq_iff [PartialOrder α] {l m : List α} (hl : l.Pairwise (· ≤ ·)) (hm : m.Pairwise (· ≤ ·)) :
    l.eraseReps = m.eraseReps ↔ ∀ x, x ∈ l ↔ x ∈ m := by
  constructor
  · intro h x
    rw [← mem_eraseReps, h, mem_eraseReps]
  · intro h
    refine (pairwise_eraseReps hl).eq_of_mem_iff (pairwise_eraseReps hm) fun x => ?_
    rw [mem_eraseReps, mem_eraseReps, h]

end Repetitions

theorem mem_distinct {id : String} : id ∈ distinct xs ↔ id ∈ xs := by
  rw [distinct, mem_eraseReps, List.mem_mergeSort]

theorem pairwise_distinct (xs : List String) : (distinct xs).Pairwise (· < ·) :=
  pairwise_eraseReps (List.pairwise_mergeSort' (· ≤ ·) xs)

theorem distinct_eq_iff : distinct xs = distinct ys ↔ ∀ id, id ∈ xs ↔ id ∈ ys := by
  rw [distinct, distinct, eraseReps_eq_iff (List.pairwise_mergeSort' (· ≤ ·) xs) (List.pairwise_mergeSort' (· ≤ ·) ys)]
  simp only [List.mem_mergeSort]

theorem distinct_eq_self (h : xs.Pairwise (· < ·)) : distinct xs = xs :=
  (pairwise_distinct xs).eq_of_mem_iff h fun _ => mem_distinct

theorem distinct_ne_nil (h : xs ≠ []) : distinct xs ≠ [] := by
  obtain ⟨id, hid⟩ := List.exists_mem_of_ne_nil xs h
  exact List.ne_nil_of_mem (mem_distinct.2 hid)

/-! ### Keys -/

/-- Lists of the same containers have the same key. -/
theorem mergedKey_eq_of_mem_iff (h : ∀ id, id ∈ xs ↔ id ∈ ys) : mergedKey xs = mergedKey ys := by
  rw [mergedKey, distinct_eq_iff.2 h, mergedKey]

/-- A list in order, without repetitions, is its own key but for the commas. -/
theorem mergedKey_of_pairwise (h : xs.Pairwise (· < ·)) : mergedKey xs = ",".intercalate xs := by
  rw [mergedKey, distinct_eq_self h]

/-- What stands between the commas of a key. -/
def namesIn (key : String) : List String := (key.split ',').toList.map (·.copy)

/-- A key whose names hold no comma falls apart at the commas into its names. -/
theorem namesIn_mergedKey (hne : xs ≠ []) (hcomma : ∀ id ∈ xs, ',' ∉ id.toList) : namesIn (mergedKey xs) = distinct xs := by
  have hsplit := String.toList_split_intercalate fun id hid => hcomma id (mem_distinct.1 hid)
  rwa [if_neg (distinct_ne_nil hne)] at hsplit

/-- Where no name holds a comma, the containers can be read off the key. -/
theorem mem_iff_of_mergedKey_eq (hxs : xs ≠ []) (hys : ys ≠ []) (hx : ∀ id ∈ xs, ',' ∉ id.toList) (hy : ∀ id ∈ ys, ',' ∉ id.toList)
    (h : mergedKey xs = mergedKey ys) (id : String) : id ∈ xs ↔ id ∈ ys := by
  have hdistinct : distinct xs = distinct ys := by rw [← namesIn_mergedKey hxs hx, h, namesIn_mergedKey hys hy]
  exact distinct_eq_iff.1 hdistinct id

/-- A name that holds a comma can be taken for two. -/
example : mergedKey ["a,b"] = mergedKey ["a", "b"] := by
  rw [mergedKey_of_pairwise (by decide), mergedKey_of_pairwise (by decide)]
  decide

/-- A key depends on nothing but which containers are listed. Where their names hold no comma, it falls apart at the commas into
each of them once, in the order of their bytes; a name may even be empty. -/
theorem mergedKey_is_canonical :
    (∀ xs ys : List String, (∀ id, id ∈ xs ↔ id ∈ ys) → mergedKey xs = mergedKey ys) ∧
    ∀ xs : List String, xs ≠ [] → (∀ id ∈ xs, ',' ∉ id.toList) →
      ((namesIn (mergedKey xs)).Pairwise fun a b => Text.bytes a < Text.bytes b) ∧
      ∀ id, id ∈ namesIn (mergedKey xs) ↔ id ∈ xs := by
  refine ⟨fun xs ys => mergedKey_eq_of_mem_iff, fun xs hne hcomma => ?_⟩
  rw [namesIn_mergedKey hne hcomma]
  exact ⟨(pairwise_distinct xs).imp Text.bytes_lt_iff.2, fun id => mem_distinct⟩

/-- A container is listed twice; one name begins another, and two of them are in the order of their bytes but not in that of
their units of sixteen bits. -/
theorem shuffled_names_have_one_key :
    let xs := ["😀", "c10", "～", "c1", "c10"]
    let ys := ["c1", "～", "c10", "😀"]
    (∀ id, id ∈ xs ↔ id ∈ ys) ∧ mergedKey xs = mergedKey ys ∧ xs ≠ [] ∧ (∀ id ∈ xs, ',' ∉ id.toList) ∧
      ((namesIn (mergedKey xs)).Pairwise fun a b => Text.bytes a < Text.bytes b) ∧
      ∀ id, id ∈ namesIn (mergedKey xs) ↔ id ∈ xs := by
  intro xs ys
  have hsame : ∀ id, id ∈ xs ↔ id ∈ ys := by
    intro id
    simp only [xs, ys, List.mem_cons, List.not_mem_nil, or_false]
    tauto
  have hne : xs ≠ [] := List.cons_ne_nil _ _
  have hcomma : ∀ id ∈ xs, ',' ∉ id.toList := by decide
  exact ⟨hsame, mergedKey_is_canonical.1 xs ys hsame, hne, hcomma, mergedKey_is_canonical.2 xs hne hcomma⟩

end FleetFeed.Event
