import FleetFeed.Proofs.Feed.Guards

/-! A channel is seen through a guard and through its key, and the two agree as long as the entry of the key is the one
that the guard was taken from. Once it is not, the channel of the guard has come to its end, whoever has the key now. -/
namespace FleetFeed.Feed

variable {ρ : Type}

namespace Registry

/-- The entry of the key is the one that the guard was taken from. -/
def Backs (r : Registry ρ) (g : Guard) : Prop := (r.entry? g.key).map Entry.channel = some g.receiver.channel

instance (r : Registry ρ) (g : Guard) : Decidable (r.Backs g) :=
  inferInstanceAs (Decidable ((r.entry? g.key).map Entry.channel = some g.receiver.channel))

/-- Who takes a guard takes it from the entry that is there then. -/
theorem backs_acquire (r : Registry ρ) (key : String) (o : Opening ρ) :
    (r.acquire key o).1.Backs (r.acquire key o).2 := by
  cases hk : r.entry? key with
  | none =>
    rw [acquire_of_absent hk, Backs, entry?_openFor hk]
    rfl
  | some e =>
    rw [acquire_of_present hk, Backs, entry?_recount, hk]
    rfl

theorem Backs.status? {r : Registry ρ} {g : Guard} (h : r.Backs g) : r.status? g.key = some (g.current r) := by
  obtain ⟨e, he, hc⟩ := Option.map_eq_some_iff.1 h
  rw [Registry.status?, he, Option.map_some, hc]
  rfl

theorem Backs.peek {r : Registry ρ} {g : Guard} (h : r.Backs g) : r.peek g.key = g.latest r := by
  rw [Registry.peek, h.status?]
  rfl

/-- A guard that its entry backs gives one of the references back. -/
theorem giveBack_of_entry? {r : Registry ρ} {g : Guard} {e : Entry} (he : r.entry? g.key = some e)
    (hc : e.channel = g.receiver.channel) : r.giveBack g = r.dropRef e := by
  simp only [giveBack, he, hc, if_true]

/-- A guard that finds another entry for its key than its own, or none, is given back in vain. -/
theorem giveBack_of_not_backs {r : Registry ρ} {g : Guard} (h : ¬ r.Backs g) : r.giveBack g = r := by
  unfold giveBack
  cases he : r.entry? g.key with
  | none => rfl
  | some e => exact if_neg fun hc => h (by rw [Backs, he, Option.map_some, hc])

theorem Sound.backs_iff_listed {r : Registry ρ} (h : r.Sound) {g : Guard} (hg : r.Issued g) :
    r.Backs g ↔ r.Listed g.receiver.channel := by
  constructor
  · intro hb
    obtain ⟨e, he, hc⟩ := Option.map_eq_some_iff.1 hb
    exact hc ▸ List.mem_map_of_mem (entry?_spec he).1
  · intro hl
    obtain ⟨e, he, hc⟩ := List.mem_map.1 hl
    rw [Backs, h.entry?_of_issued hg he hc, Option.map_some, hc]

/-- A guard whose entry is gone shows the end of its channel. -/
theorem Sound.current_of_not_backs {r : Registry ρ} (h : r.Sound) {g : Guard} (hg : r.Issued g) (hb : ¬ r.Backs g) :
    .cancelled g.receiver.channel ∈ r.journal ∧ g.current r = .closed := by
  have hlt := lt_of_keyOf? hg
  rw [h.backs_iff_listed hg] at hb
  refine ⟨(h.cancelled_mem_iff _).2 ⟨hlt, hb⟩, ?_⟩
  rw [← h.statusOf_ne_closed_iff hlt, not_not] at hb
  exact hb

end Registry

namespace Consumers

theorem reached_giveBack {steps : List (Step ρ)} {i : Nat} {g : Guard} (h : (start.run steps).guard? i = some g) :
    reached (steps ++ [.giveBack i]) = (reached steps).giveBack g := by
  rw [reached, run_concat, step, h]
  rfl

theorem reached_unbind {steps : List (Step ρ)} {i : Nat} {b : Binding ρ} (h : (start.run steps).binding? i = some b) :
    reached (steps ++ [.unbind i]) = b.letGo (reached steps) := by
  rw [reached, run_concat, step, h]
  rfl

/-- A guard is taken from the entry of its key. As long as that is there, the guard shows what the key does, and so does
every other guard of it. Afterwards it shows that its channel is closed, and giving it back, by itself or with its
binding, changes nothing at all. -/
theorem guard_views_agree (steps : List (Step ρ)) :
    (∀ d ∈ trail steps, ∀ g, d.found.taken? d.operation = some g → (d.found.perform d.operation).Backs g) ∧
    (∀ g ∈ (start.run steps).held, (reached steps).Backs g →
      (reached steps).status? g.key = some (g.current (reached steps)) ∧
      (reached steps).peek g.key = g.latest (reached steps) ∧
      ∀ f ∈ (start.run steps).held, f.key = g.key → (reached steps).Backs f →
        f.current (reached steps) = g.current (reached steps)) ∧
    (∀ g ∈ (start.run steps).held, ¬ (reached steps).Backs g →
      .cancelled g.receiver.channel ∈ (reached steps).journal ∧
      g.current (reached steps) = .closed ∧ g.latest (reached steps) = none ∧
      (reached steps).giveBack g = reached steps ∧
      (∀ i, (start.run steps).guard? i = some g → reached (steps ++ [.giveBack i]) = reached steps) ∧
      ∀ i b, (start.run steps).binding? i = some b → b.guard = some g →
        reached (steps ++ [.unbind i]) = reached steps) := by
  have hs := sound_reached steps
  refine ⟨fun d _ g hg => ?_, fun g _ hb => ⟨hb.status?, hb.peek, fun f _ hk hf => ?_⟩, fun g hheld hb => ?_⟩
  · cases hop : d.operation with
    | acquire key o =>
      rw [hop] at hg
      obtain rfl := Option.some.inj hg
      exact d.found.backs_acquire key o
    | _ => exact absurd hg (by simp [hop, Registry.taken?])
  · have hsame := hf.status?
    rw [hk, hb.status?] at hsame
    exact (Option.some.inj hsame).symm
  · obtain ⟨hcancelled, hclosed⟩ := hs.current_of_not_backs (issued_of_held steps g hheld) hb
    have hgive := Registry.giveBack_of_not_backs hb
    refine ⟨hcancelled, hclosed, ?_, hgive, fun i hi => (reached_giveBack hi).trans hgive, fun i b hi hg => ?_⟩
    · rw [Guard.latest, hclosed]
      rfl
    · rw [reached_unbind hi, Binding.letGo, hg]
      exact hgive

end Consumers

end FleetFeed.Feed
