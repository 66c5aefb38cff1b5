import FleetFeed.Proofs.Feed.Slots
import Mathlib.Data.Nat.Count

/-! Numbered things of which some are kept. What is kept is numbered anew, in the same order and without gaps; a list that
grows, or of which one place is changed, is followed place by place in the list of what is kept of it. -/
namespace FleetFeed.Feed

/-- How many things before this one are kept, which is its number among them. -/
def rank (kept : Nat → Bool) (i : Nat) : Nat := Nat.count (kept · = true) i

section Rank

variable {kept : Nat → Bool} {i j n : Nat}

theorem rank_succ_of_kept (h : kept i = true) : rank kept (i + 1) = rank kept i + 1 := by
  rw [rank, Nat.count_succ, if_pos h, rank]

theorem rank_succ_of_omitted (h : kept i = false) : rank kept (i + 1) = rank kept i := by
  rw [rank, Nat.count_succ, if_neg (by simp [h]), rank, Nat.add_zero]

theorem rank_lt (h : kept i = true) (hlt : i < n) : rank kept i < rank kept n := Nat.count_strict_mono h hlt

theorem rank_inj (hi : kept i = true) (hj : kept j = true) : rank kept i = rank kept j ↔ i = j :=
  ⟨Nat.count_injective hi hj, fun h => by rw [h]⟩

end Rank

variable {α β : Type}

/-- The second list has what is kept of the first, each thing as `f` makes it. -/
structure Selects (kept : Nat → Bool) (f : α → β) (l : List α) (l' : List β) : Prop where
  length_eq : l'.length = rank kept l.length
  getElem?_eq : ∀ i, kept i = true → l'[rank kept i]? = (l[i]?).map f

namespace Selects

variable {kept : Nat → Bool} {f : α → β} {l : List α} {l' : List β}

theorem nil : Selects kept f [] [] where
  length_eq := (Nat.count_zero _).symm
  getElem?_eq _ _ := rfl

theorem concat_kept (h : Selects kept f l l') (hk : kept l.length = true) (x : α) :
    Selects kept f (l ++ [x]) (l' ++ [f x]) where
  length_eq := by
    rw [List.length_append, List.length_append, h.length_eq]
    exact (rank_succ_of_kept hk).symm
  getElem?_eq i hi := by
    rcases Nat.lt_trichotomy i l.length with hlt | rfl | hlt
    · have hlt' : rank kept i < l'.length := h.length_eq ▸ rank_lt hi hlt
      rw [List.getElem?_append_left hlt, List.getElem?_append_left hlt', h.getElem?_eq i hi]
    · rw [← h.length_eq, List.getElem?_concat_length, List.getElem?_concat_length]
      rfl
    · have hlt' : l'.length < rank kept i := h.length_eq ▸ rank_lt hk hlt
      rw [List.getElem?_eq_none (by simp; omega), List.getElem?_eq_none (by simp; omega)]
      rfl

theorem concat_omitted (h : Selects kept f l l') (hk : kept l.length = false) (x : α) :
    Selects kept f (l ++ [x]) l' where
  length_eq := by
    rw [List.length_append, h.length_eq]
    exact (rank_succ_of_omitted hk).symm
  getElem?_eq i hi := by
    have hne : i ≠ l.length := fun heq => by simp [heq, hk] at hi
    rw [h.getElem?_eq i hi, getElem?_concat_of_ne hne]

/-- A change of a place that is kept is made at its number. -/
theorem modify_kept (h : Selects kept f l l') {i : Nat} (hk : kept i = true) {g : α → α} {g' : β → β}
    (hg : ∀ x, f (g x) = g' (f x)) : Selects kept f (l.modify i g) (l'.modify (rank kept i) g') where
  length_eq := by rw [List.length_modify, List.length_modify, h.length_eq]
  getElem?_eq j hj := by
    rw [List.getElem?_modify, List.getElem?_modify, h.getElem?_eq j hj]
    simp only [rank_inj hk hj]
    split <;> simp [Function.comp_def, hg]

/-- A change of a place that is not kept is not seen. -/
theorem modify_omitted (h : Selects kept f l l') {i : Nat} (hk : kept i = false) (g : α → α) :
    Selects kept f (l.modify i g) l' where
  length_eq := by rw [List.length_modify, h.length_eq]
  getElem?_eq j hj := by
    have hne : i ≠ j := fun heq => by simp [heq, hj] at hk
    rw [h.getElem?_eq j hj, List.getElem?_modify_ne _ _ hne]

theorem set_kept (h : Selects kept f l l') {i : Nat} (hk : kept i = true) (x : α) :
    Selects kept f (l.set i x) (l'.set (rank kept i) (f x)) := by
  rw [List.set_eq_modify, List.set_eq_modify]
  exact h.modify_kept hk fun _ => rfl

theorem set_omitted (h : Selects kept f l l') {i : Nat} (hk : kept i = false) (x : α) :
    Selects kept f (l.set i x) l' := by
  rw [List.set_eq_modify]
  exact h.modify_omitted hk _

/-- Nothing is kept of what came before. -/
theorem of_omitted (h : ∀ i < l.length, kept i = false) : Selects kept f l [] where
  length_eq := by
    refine (Nat.count_iff_forall_not.2 fun i hi => ?_).symm
    simp [h i hi]
  getElem?_eq i hi := by
    have hge : l.length ≤ i := Nat.le_of_not_lt fun hlt => by simp [h i hlt] at hi
    rw [List.getElem?_eq_none hge]
    rfl

end Selects

/-- Each thing of the list is as one that is kept, or one that is not, has to be. -/
def Marked (kept : Nat → Bool) (P : Bool → α → Prop) (l : List α) : Prop := ∀ i x, l[i]? = some x → P (kept i) x

namespace Marked

variable {kept : Nat → Bool} {P : Bool → α → Prop} {l : List α} {x : α}

theorem nil : Marked kept P [] := fun _ _ h => absurd h (by simp)

theorem concat (h : Marked kept P l) (hx : P (kept l.length) x) : Marked kept P (l ++ [x]) := by
  intro i y hy
  by_cases hi : i = l.length
  · rw [hi, List.getElem?_concat_length] at hy
    rw [hi, ← Option.some.inj hy]
    exact hx
  · rw [getElem?_concat_of_ne hi] at hy
    exact h i y hy

theorem set (h : Marked kept P l) {i : Nat} (hx : P (kept i) x) : Marked kept P (l.set i x) := by
  intro j y hy
  rw [List.getElem?_set] at hy
  split at hy
  case isTrue hij =>
    split at hy
    · rw [← hij, ← Option.some.inj hy]
      exact hx
    · exact absurd hy (by simp)
  case isFalse => exact h j y hy

end Marked

end FleetFeed.Feed
