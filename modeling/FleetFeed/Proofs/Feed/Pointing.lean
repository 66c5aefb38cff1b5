import FleetFeed.Proofs.Feed.Holdings

/-! Pointing a binding at a key. Afterwards the guard of the binding is one of those that the entry of the key counts. The
one exception is a binding that was there already and whose channel went with a clearing: the keys are compared, not the
entries, and so it keeps what is left of it. -/
namespace FleetFeed.Feed

variable {ρ : Type}

namespace Consumers

/-- A guard that its entry backs is one of those that the key counts. -/
theorem Unreleased.counted {steps : List (Step ρ)} (h : Unreleased steps) {g : Guard}
    (hg : g ∈ (start.run steps).held) (hb : (reached steps).Backs g) :
    (reached steps).contains g.key = true ∧
    (reached steps).refCount g.key =
      ((start.run steps).held.countP fun f => f.key = g.key ∧ (reached steps).Backs f) ∧
    g.current (reached steps) ≠ .closed := by
  have hs := sound_reached steps
  obtain ⟨e, he, hc⟩ := Option.map_eq_some_iff.1 hb
  obtain ⟨hmem, hkey⟩ := Registry.entry?_spec he
  have hissued := issued_of_held steps g hg
  refine ⟨by rw [Registry.contains, he]; rfl, ?_, ?_⟩
  · rw [Registry.refCount, he, Option.map_some, Option.getD_some, h.refs_eq hmem]
    refine List.countP_congr fun f hf => ?_
    have hfissued := issued_of_held steps f hf
    simp only [decide_eq_true_eq]
    constructor
    · intro hfc
      have hfkey := hfissued
      rw [Registry.Issued, hfc, hs.key_eq e hmem, Option.some.injEq] at hfkey
      refine ⟨hfkey.symm.trans hkey, (hs.backs_iff_listed hfissued).2 ?_⟩
      rw [hfc]
      exact List.mem_map_of_mem hmem
    · rintro ⟨hfk, hfb⟩
      rw [Registry.Backs, hfk, he] at hfb
      exact (Option.some.inj hfb).symm
  · exact (hs.statusOf_ne_closed_iff (Registry.lt_of_keyOf? hissued)).2 ((hs.backs_iff_listed hissued).1 hb)

/-- The binding is at the key, and the registry was cleared since it came there. -/
def Stranded (steps : List (Step ρ)) (b : Binding ρ) (key : String) : Prop :=
  ∃ g, b.guard = some g ∧ g.key = key ∧ Cleared steps g.receiver.channel

/-- After a binding was pointed at a key, its guard is one that the entry of the key backs, unless it is stranded there. -/
theorem Unreleased.backs_setKey {steps : List (Step ρ)} (h : Unreleased steps) {i : Nat} {b : Binding ρ}
    (hb : (start.run steps).binding? i = some b) {key : Option String} {k : String} (hk : Binding.usable key = some k)
    (hfree : ¬ Stranded steps b k) :
    ∃ b' g, (start.run (steps ++ [.setKey i key])).binding? i = some b' ∧ b'.guard = some g ∧ g.key = k ∧
      (reached (steps ++ [.setKey i key])).Backs g := by
  rw [reached, run_concat]
  by_cases hsame : b.key = Binding.usable key
  · rw [step_setKey_of_same hb hsame]
    obtain ⟨g, hg, hgk⟩ := Option.map_eq_some_iff.1 (hsame.trans hk)
    have hheld := mem_held_of_binding? hb hg
    have hl := (h.listed_iff hheld).2 fun hcleared => hfree ⟨g, hg, hgk, hcleared⟩
    exact ⟨b, g, hb, hg, hgk, ((sound_reached steps).backs_iff_listed (issued_of_held steps g hheld)).2 hl⟩
  · simp only [step_setKey hb, Binding.setKey_of_some hsame hk, binding?_set _ _ hb, if_true]
    exact ⟨_, _, rfl, rfl, Registry.key_acquire .., Registry.backs_acquire ..⟩

/-- As long as nobody releases a key by its name, pointing a binding at a key leaves it there, and at a blank one without a
guard. At any other key its guard is one of those that the entry of the key counts, and does not show that it is closed;
but a binding that was there already when the registry was cleared stays as it is, closed, and nothing changes at all. -/
theorem setKey_binds_unless_stranded (steps : List (Step ρ)) (h : Unreleased steps) (i : Nat) (b : Binding ρ)
    (hb : (start.run steps).binding? i = some b) (key : Option String) :
    let after := steps ++ [.setKey i key]
    ∃ b', (start.run after).binding? i = some b' ∧ b'.key = Binding.usable key ∧
      (Binding.usable key = none → b'.guard = none) ∧
      ∀ k, Binding.usable key = some k →
        (Stranded steps b k → start.run after = start.run steps ∧
          ((start.run steps).step (.setKey i key)).2 = .flag false ∧ b'.current (reached after) = some .closed) ∧
        (¬ Stranded steps b k → ∃ g, b'.guard = some g ∧ g.key = k ∧
          (reached after).contains k = true ∧ (reached after).Backs g ∧ g ∈ (start.run after).held ∧
          (reached after).refCount k = ((start.run after).held.countP fun f => f.key = k ∧ (reached after).Backs f) ∧
          b'.current (reached after) ≠ some .closed) := by
  intro after
  have hafter : (start.run after).binding? i = some (b.setKey (reached steps) key).1 := by
    simp only [after, run_concat, step_setKey hb, binding?_set _ _ hb, if_true]
    rfl
  have hkey := Binding.key_setKey b (reached steps) key
  refine ⟨_, hafter, hkey, fun hnone => Option.map_eq_none_iff.1 (hkey.trans hnone), fun k hk => ⟨?_, fun hfree => ?_⟩⟩
  · rintro ⟨g, hg, rfl, hcleared⟩
    have hsame : b.key = Binding.usable key := by rw [hk, Binding.key, hg, Option.map_some]
    have hstep := step_setKey_of_same hb hsame
    have hrun : start.run after = start.run steps := by rw [run_concat, hstep]
    refine ⟨hrun, by rw [hstep], ?_⟩
    have hheld := mem_held_of_binding? hb hg
    have hissued := issued_of_held steps g hheld
    have hgone : ¬ (reached steps).Backs g := fun hbacks =>
      (h.listed_iff hheld).1 (((sound_reached steps).backs_iff_listed hissued).1 hbacks) hcleared
    have hreached : reached after = reached steps := congrArg Consumers.registry hrun
    rw [hreached, Binding.setKey_of_same hsame, Binding.current, hg]
    exact congrArg some ((sound_reached steps).current_of_not_backs hissued hgone).2
  · have hunreleased : Unreleased after := fun k hmem =>
      (List.mem_append.1 hmem).elim (h k) fun hlast => absurd hlast (by simp)
    obtain ⟨b', g, hb', hg, rfl, hbacks⟩ := h.backs_setKey hb hk hfree
    obtain rfl := Option.some.inj (hafter.symm.trans hb')
    have hheld := mem_held_of_binding? hb' hg
    obtain ⟨hcontains, hcount, hopen⟩ := hunreleased.counted hheld hbacks
    refine ⟨g, hg, rfl, hcontains, hbacks, hheld, hcount, ?_⟩
    rw [Binding.current, hg]
    exact fun hclosed => hopen (Option.some.inj hclosed)

/-- Two bindings hold a key when the registry is cleared, and the first takes it anew by way of another one. -/
def returning : List (Step Nat) :=
  [.bind ⟨[], []⟩, .setKey 0 (some "c1"), .bind ⟨[], []⟩, .setKey 1 (some "c1"), .clearAll, .setKey 0 (some "c2")]

theorem returning_binds :
    Unreleased returning ∧ (reached (returning ++ [.setKey 0 (some "c1")])).refCount "c1" = 1 ∧
      ∃ b, (start.run (returning ++ [.setKey 0 (some "c1")])).binding? 0 = some b ∧ b.key = some "c1" := by
  have h : Unreleased returning := fun key => by simp [returning]
  obtain ⟨b, hb, hkey, -, hbound⟩ := setKey_binds_unless_stranded returning h 0
    ⟨⟨[], []⟩, some ⟨"c2", ⟨1, 0⟩⟩⟩ (by decide) (some "c1")
  have hfree : ¬ Stranded returning ⟨⟨[], []⟩, some ⟨"c2", ⟨1, 0⟩⟩⟩ "c1" := by
    rintro ⟨g, hg, hk, -⟩
    obtain rfl := Option.some.inj hg
    exact absurd hk (by decide)
  have husable : Binding.usable (some "c1") = some "c1" := by decide
  obtain ⟨g, -, -, -, -, -, hcount, -⟩ := (hbound "c1" husable).2 hfree
  refine ⟨h, ?_, b, hb, hkey.trans husable⟩
  rw [hcount]
  decide

/-- A binding is at a key when the registry is cleared, and is pointed there once more: no entry is made, nothing counts its
guard, and it shows that it is closed. -/
theorem cleared_binding_stays_closed :
    let steps : List (Step Nat) := [.bind ⟨[], []⟩, .setKey 0 (some "c1"), .clearAll]
    let after := steps ++ [.setKey 0 (some "c1")]
    Unreleased steps ∧ Binding.usable (some "c1") = some "c1" ∧
      (reached after).contains "c1" = false ∧ (reached after).refCount "c1" = 0 ∧
      ∃ b, (start.run after).binding? 0 = some b ∧ b.current (reached after) = some .closed := by
  intro steps after
  exact ⟨fun key => by simp [steps], by decide, by decide, by decide, ⟨⟨[], []⟩, some ⟨"c1", ⟨0, 0⟩⟩⟩, by decide, by decide⟩

end Consumers

end FleetFeed.Feed
