import FleetFeed.Proofs.Feed.CellHistory
import FleetFeed.Proofs.Feed.References
import FleetFeed.Proofs.Feed.Slots
import FleetFeed.Proofs.Feed.Views

/-! Bindings hold what they point at. As long as nobody releases a key by its name, a guard that is held is one of the entry
of its key until the registry is cleared; without a clearing the references of a key are the bindings that point at it and
the guards that were acquired for it directly. A binding that moves gives its old reference back first. -/
namespace FleetFeed.Feed

variable {ρ : Type}

namespace Registry

/-! ### Nothing is owed to an entry that is gone -/

/-- Without a clearing, an entry goes with its last reference. -/
theorem Sound.last_returned {r : Registry ρ} (h : r.Sound) {op : Operation ρ} {c : Nat} (hop : op ≠ .clearAll)
    (hold : r.Listed c) (hl : ¬ (r.perform op).Listed c) :
    (∃ e ∈ r.entries, e.channel = c ∧ e.refs = 1) ∧ Deed.takes c ⟨r, op⟩ = false ∧ Deed.returns c ⟨r, op⟩ = true := by
  obtain ⟨e, he, rfl⟩ := List.mem_map.1 hold
  have hout := r.outcome_perform op
  generalize r.perform op = s at hout hl
  cases hout with
  | joined => exact absurd ((listed_recount ..).2 hold) hl
  | opened => exact absurd ((listed_openFor ..).2 (.inl hold)) hl
  | @hit _ f hf =>
    have hmem := (entry?_spec (entry?_of_hit hf)).1
    rw [dropRef_eq] at hl
    split at hl
    case isFalse => exact absurd ((listed_recount ..).2 hold) hl
    case isTrue hlast =>
      have hsame : e.channel = f.channel := by
        by_contra hne
        exact hl ((h.listed_remove hmem _).2 ⟨hold, hne⟩)
      obtain rfl := h.eq_of_channel he hmem hsame
      refine ⟨⟨e, he, rfl, Nat.le_antisymm hlast (h.refs_pos e he)⟩, ?_, ?_⟩
      · simp [Deed.takes, taken?_of_hit hf]
      · simp [Deed.returns, hf]
  | missedGuard | missedKey | letGo => exact absurd hold hl
  | cleared => exact absurd rfl hop
  | pushed d p => exact absurd (by rw [Listed, entries_push]; exact hold) hl

/-- What leaves an entry out of the map neither takes of it nor returns to it. -/
theorem untouched_of_not_listed {r : Registry ρ} {op : Operation ρ} {c : Nat} (hold : ¬ r.Listed c)
    (hl : ¬ (r.perform op).Listed c) : Deed.takes c ⟨r, op⟩ = false ∧ Deed.returns c ⟨r, op⟩ = false := by
  constructor
  · have hout := r.outcome_perform op
    generalize r.perform op = s at hout hl
    cases hout with
    | @joined key o e hk =>
      have hne : e.channel ≠ c := fun hc => hold (hc ▸ List.mem_map_of_mem (entry?_spec hk).1)
      simpa [Deed.takes, taken?, acquire_of_present hk] using hne
    | @opened key o hk =>
      have hne : r.channels.length ≠ c := fun hc => hl ((listed_openFor ..).2 (.inr hc.symm))
      simpa [Deed.takes, taken?, acquire_of_absent hk] using hne
    | hit hf => simp [Deed.takes, taken?_of_hit hf]
    | _ => rfl
  · unfold Deed.returns
    cases hf : r.hit? op with
    | none => rfl
    | some f =>
      have hne : f.channel ≠ c := fun hc => hold (hc ▸ List.mem_map_of_mem (entry?_spec (entry?_of_hit hf)).1)
      simpa using hne

/-- What was taken of an entry that is gone was returned, unless a clearing found the entry there. -/
theorem taken_eq_returned (ops : List (Operation ρ)) (c : Nat)
    (hclear : ∀ xs ys, ops = xs ++ .clearAll :: ys → ¬ ((empty : Registry ρ).performAll xs).Listed c)
    (hl : ¬ ((empty : Registry ρ).performAll ops).Listed c) :
    ((empty : Registry ρ).trail ops).countP (Deed.takes c) = (empty.trail ops).countP (Deed.returns c) := by
  induction ops using List.reverseRecOn with
  | nil => rfl
  | append_singleton ops op ih =>
    set r : Registry ρ := empty.performAll ops with hr
    have hs : r.Sound := sound_performAll ops
    simp only [performAll_concat, trail_concat, ← hr, List.countP_append, List.countP_singleton] at hl ⊢
    by_cases hold : r.Listed c
    · have hop : op ≠ .clearAll := fun hop => hclear ops [] (by rw [hop]) hold
      obtain ⟨⟨e, he, hc, hrefs⟩, htakes, hreturns⟩ := hs.last_returned hop hold hl
      have hbalance := (balanced_performAll ops c).refs_add e he hc
      simp only [htakes, hreturns, if_true, Bool.false_eq_true, if_false]
      omega
    · obtain ⟨htakes, hreturns⟩ := untouched_of_not_listed hold hl
      have hbefore := ih (fun xs ys hsplit => hclear xs (ys ++ [op]) (by simp [hsplit])) hold
      simpa [htakes, hreturns] using hbefore

/-- Who returns a reference of a channel surrenders a guard of it, unless a key is released by its name. -/
theorem surrenders_of_returns {r : Registry ρ} {op : Operation ρ} {c : Nat} (hop : ∀ key, op ≠ .release key)
    (h : Deed.returns c ⟨r, op⟩ = true) : Deed.surrenders c ⟨r, op⟩ = true := by
  cases op with
  | giveBack g =>
    obtain ⟨e, he, hc⟩ := (Option.any_eq_true _ _).1 h
    obtain ⟨-, hchannel⟩ := Option.filter_eq_some_iff.1 he
    have hg : g.receiver.channel = c := by
      rw [← of_decide_eq_true hc]
      exact (of_decide_eq_true hchannel).symm
    simpa [Deed.surrenders, Operation.given?] using hg
  | release key => exact absurd rfl (hop key)
  | _ => exact absurd h (by simp [Deed.returns, hit?])

end Registry

namespace Consumers

/-- Nobody releases a key by its name. -/
def Unreleased (steps : List (Step ρ)) : Prop := ∀ key, .release key ∉ steps

/-- The registry was cleared after the channel had been opened. -/
def Cleared (steps : List (Step ρ)) (c : Nat) : Prop :=
  ∃ before after, steps = before ++ .clearAll :: after ∧ .opened c ∈ (reached before).journal

/-- A clearing among the operations of a run is one of its steps. -/
theorem clearAll_of_history {w : Consumers ρ} {steps : List (Step ρ)} {xs ys : List (Operation ρ)}
    (h : w.history steps = xs ++ .clearAll :: ys) :
    ∃ before after, steps = before ++ .clearAll :: after ∧ w.history before = xs := by
  induction steps generalizing w xs with
  | nil => exact absurd h (by simp [history])
  | cons s steps ih =>
    have hlater : ∀ zs, (w.step s).1.history steps = zs ++ .clearAll :: ys → xs = w.operations s ++ zs →
        ∃ before after, s :: steps = before ++ .clearAll :: after ∧ w.history before = xs := by
      intro zs hzs hxs
      obtain ⟨before, after, rfl, hbefore⟩ := ih hzs
      exact ⟨s :: before, after, rfl, by rw [history, hbefore, hxs]⟩
    rw [history, List.append_eq_append_iff] at h
    obtain ⟨zs, hxs, hzs⟩ | ⟨zs, hops, hzs⟩ := h
    · exact hlater zs hzs hxs
    · cases zs with
      | nil => exact hlater [] hzs.symm (by simpa using hops.symm)
      | cons z zs =>
        obtain ⟨rfl, -⟩ := List.cons.inj hzs
        -- only a clearing has one among its operations, and no other with it
        have hmem : Operation.clearAll ∈ w.history [s] := by simp [history, hops]
        obtain rfl := List.mem_singleton.1 (named_mem_history (s := .clearAll) rfl hmem)
        have hnil : xs = [] := by
          cases xs with
          | nil => rfl
          | cons x xs => exact absurd (congrArg List.length hops) (by simp [operations])
        exact ⟨[], steps, rfl, hnil.symm⟩

/-- The entry of a guard that is held is in the map, until the registry is cleared. -/
theorem Unreleased.listed_iff {steps : List (Step ρ)} (h : Unreleased steps) {g : Guard}
    (hg : g ∈ (start.run steps).held) :
    (reached steps).Listed g.receiver.channel ↔ ¬ Cleared steps g.receiver.channel := by
  constructor
  · rintro hl ⟨before, after, rfl, hopened⟩
    have hs := sound_reached before
    have hlt := (hs.opened_mem_iff _).1 hopened
    have hgone : ¬ (reached before).clearAll.Listed g.receiver.channel := by simp [Registry.Listed, hs.entries_clearAll]
    have hlt' := Nat.lt_of_lt_of_le hlt ((reached before).length_le_perform .clearAll)
    have hclosed := hs.clearAll.statusOf_performAll_closed hlt' hgone
      (((start.run before).step .clearAll).1.history after)
    have hafter : reached (before ++ .clearAll :: after) =
        (reached before).clearAll.performAll (((start.run before).step .clearAll).1.history after) := by
      rw [reached_append]
      rfl
    rw [← hafter] at hclosed
    have hissued := issued_of_held _ g hg
    exact ((sound_reached _).statusOf_ne_closed_iff (Registry.lt_of_keyOf? hissued)).2 hl hclosed
  · intro hcleared
    by_contra hl
    have hheld := held_run steps g.receiver.channel
    have hreturned : (trail steps).countP (Deed.takes g.receiver.channel) =
        (trail steps).countP (Deed.returns g.receiver.channel) := by
      refine Registry.taken_eq_returned (start.history steps) _ (fun xs ys hsplit hlisted => ?_)
        (reached_eq_performAll steps ▸ hl)
      obtain ⟨before, after, hsteps, rfl⟩ := clearAll_of_history hsplit
      rw [← reached_eq_performAll] at hlisted
      have hs := sound_reached before
      exact hcleared ⟨before, after, hsteps, (hs.opened_mem_iff _).2 (hs.lt_of_listed hlisted)⟩
    have hle : (trail steps).countP (Deed.returns g.receiver.channel) ≤
        (trail steps).countP (Deed.surrenders g.receiver.channel) := by
      refine List.countP_mono_left fun d hd hreturns => ?_
      have hnamed : ∀ key, d.operation ≠ .release key := fun key hkey =>
        h key (release_mem_history (hkey ▸ Registry.operation_mem_of_trail hd))
      exact Registry.surrenders_of_returns hnamed hreturns
    have hpos : 0 < (start.run steps).held.countP (·.receiver.channel = g.receiver.channel) :=
      List.countP_pos_iff.2 ⟨g, hg, by simp⟩
    omega

/-- The references of an entry are its guards. -/
theorem Unreleased.refs_eq {steps : List (Step ρ)} (h : Unreleased steps) {e : Entry} (he : e ∈ (reached steps).entries) :
    e.refs = (start.run steps).held.countP (·.receiver.channel = e.channel) := by
  have hheld := held_run steps e.channel
  have hbalanced := Registry.balanced_performAll (start.history steps) e.channel
  rw [← reached_eq_performAll] at hbalanced
  have hrefs : e.refs + (trail steps).countP _ = (trail steps).countP _ := hbalanced.refs_add e he rfl
  have hsame : (trail steps).countP _ = (trail steps).countP _ :=
    (Registry.returned_eq_surrendered (start.history steps) (issued_of_giveBack steps)).1 e
      (reached_eq_performAll steps ▸ he) fun hrel => h _ (release_mem_history hrel)
  omega

/-- Nobody releases a key by its name, and nobody clears the registry. -/
def Orderly (steps : List (Step ρ)) : Prop := .clearAll ∉ steps ∧ ∀ key, .release key ∉ steps

/-- The entry of a guard that is held is in the map. -/
theorem Orderly.listed_of_held {steps : List (Step ρ)} (h : Orderly steps) {g : Guard}
    (hg : g ∈ (start.run steps).held) : (reached steps).Listed g.receiver.channel := by
  refine (Unreleased.listed_iff h.2 hg).2 ?_
  rintro ⟨before, after, rfl, -⟩
  exact h.1 (by simp)

theorem Orderly.backs_of_held {steps : List (Step ρ)} (h : Orderly steps) {g : Guard}
    (hg : g ∈ (start.run steps).held) : (reached steps).Backs g :=
  ((sound_reached steps).backs_iff_listed (issued_of_held steps g hg)).2 (h.listed_of_held hg)

/-- The references of a key are its guards. -/
theorem Orderly.refCount_eq {steps : List (Step ρ)} (h : Orderly steps) (key : String) :
    (reached steps).refCount key = (start.run steps).held.countP (·.key = key) := by
  have hs := sound_reached steps
  cases he : Registry.entry? (reached steps) key with
  | none =>
    have hnone : (start.run steps).held.countP (·.key = key) = 0 := by
      refine List.countP_eq_zero.2 fun g hg hkey => ?_
      have hb := h.backs_of_held hg
      rw [Registry.Backs, of_decide_eq_true hkey, he] at hb
      exact absurd hb (by simp)
    rw [hnone, Registry.refCount, he]
    rfl
  | some e =>
    obtain ⟨hmem, rfl⟩ := Registry.entry?_spec he
    rw [Registry.refCount, he, Option.map_some, Option.getD_some, Unreleased.refs_eq h.2 hmem]
    refine List.countP_congr fun g hg => ?_
    simp only [decide_eq_true_eq]
    constructor
    · intro hc
      have hissued := issued_of_held steps g hg
      rw [Registry.Issued, hc, hs.key_eq e hmem] at hissued
      exact (Option.some.inj hissued).symm
    · intro hkey
      have hb := h.backs_of_held hg
      rw [Registry.Backs, hkey, he] at hb
      exact (Option.some.inj hb).symm

/-! ### Where a binding points -/

/-- What a step points a binding at. -/
def pointedBy (w : Consumers ρ) (i : Nat) : Step ρ → Option (Option String)
  | .setKey j key => if j = i then (w.binding? i).map fun _ => key else none
  | _ => none

/-- All that some steps point a binding at, in order. -/
def pointed (w : Consumers ρ) (i : Nat) : List (Step ρ) → List (Option String)
  | [] => []
  | s :: steps => (w.pointedBy i s).toList ++ (w.step s).1.pointed i steps

/-- The key that a binding was pointed at last. A blank one is none, and so is that of a binding that never was. -/
def lastKey (steps : List (Step ρ)) (i : Nat) : Option String :=
  Binding.usable ((start : Consumers ρ).pointed i steps).getLast?.join

theorem pointed_append (w : Consumers ρ) (i : Nat) (xs ys : List (Step ρ)) :
    w.pointed i (xs ++ ys) = w.pointed i xs ++ (w.run xs).pointed i ys := by
  induction xs generalizing w with
  | nil => rfl
  | cons x xs ih => simp only [List.cons_append, pointed, ih, List.append_assoc]; rfl

theorem pointed_concat (w : Consumers ρ) (i : Nat) (steps : List (Step ρ)) (s : Step ρ) :
    w.pointed i (steps ++ [s]) = w.pointed i steps ++ ((w.run steps).pointedBy i s).toList := by
  rw [pointed_append, pointed, pointed, List.append_nil]

/-- After a step a binding has the key that the step points it at, else the one it had; or it has just been made. -/
theorem key_step {w : Consumers ρ} {s : Step ρ} {i : Nat} {b : Binding ρ} (h : (w.step s).1.binding? i = some b) :
    (∃ b₀, w.binding? i = some b₀ ∧ b.key = ((w.pointedBy i s).map Binding.usable).getD b₀.key) ∨
      w.bindings.length ≤ i ∧ b.key = none := by
  cases binding_after h with
  | made o hi => exact .inr ⟨Nat.le_of_eq hi.symm, rfl⟩
  | @moved b₀ key h₀ =>
    refine .inl ⟨b₀, h₀, ?_⟩
    rw [pointedBy, if_pos rfl, h₀, Binding.key_setKey]
    rfl
  | @looked b₀ h₀ => exact .inl ⟨b₀, h₀, b₀.key_poll w.registry⟩
  | kept h₀ hmove hlook =>
    refine .inl ⟨b, h₀, ?_⟩
    cases s with
    | setKey j key => rw [pointedBy, if_neg fun hji : j = i => hmove key (hji ▸ rfl)]; rfl
    | _ => rfl

/-- A binding points where it was pointed last, and one that is yet to be made was pointed nowhere. -/
theorem key_eq_lastKey (steps : List (Step ρ)) :
    (∀ i b, (start.run steps).binding? i = some b → b.key = lastKey steps i) ∧
    ∀ i, (start.run steps).bindings.length ≤ i → (start : Consumers ρ).pointed i steps = [] := by
  induction steps using List.reverseRecOn with
  | nil => exact ⟨fun i b hb => absurd hb (by simp [run, start, binding?]), fun _ _ => rfl⟩
  | append_singleton steps s ih =>
    obtain ⟨ihkey, ihnew⟩ := ih
    simp only [lastKey, run_concat, pointed_concat] at ihkey ⊢
    set w : Consumers ρ := start.run steps with hw
    have hunmade : ∀ {i}, w.bindings.length ≤ i → w.pointedBy i s = none := by
      intro i hi
      have hnone : w.binding? i = none := by rw [binding?, List.getElem?_eq_none hi]; rfl
      cases s with
      | setKey j key => by_cases hji : j = i <;> simp [pointedBy, hji, hnone]
      | _ => rfl
    refine ⟨fun i b hb => ?_, fun i hi => ?_⟩
    · rcases key_step hb with ⟨b₀, h₀, hkey⟩ | ⟨hi, hkey⟩
      · rw [hkey]
        cases hp : w.pointedBy i s with
        | none => simpa using ihkey i b₀ h₀
        | some key => simp
      · rw [hkey, ihnew i hi, hunmade hi]
        rfl
    · have hle : w.bindings.length ≤ i := Nat.le_trans (length_bindings_le w s) hi
      rw [ihnew i hle, hunmade hle]
      rfl

/-! ### Moves -/

/-- How many bindings point at a key. -/
def pointing (w : Consumers ρ) (key : String) : Nat := (w.bindings.filterMap id).countP (·.key = some key)

/-- How many guards of a key are held without a binding. -/
def direct (w : Consumers ρ) (key : String) : Nat := (w.guards.filterMap id).countP (·.key = key)

theorem count_held (w : Consumers ρ) (key : String) :
    w.held.countP (·.key = key) = w.pointing key + w.direct key := by
  have hbindings : (w.bindings.filterMap (·.bind Binding.guard)).countP (·.key = key) = w.pointing key := by
    have hbind : w.bindings.filterMap (·.bind Binding.guard) = (w.bindings.filterMap id).filterMap Binding.guard := by
      rw [List.filterMap_filterMap]
      rfl
    rw [hbind, List.countP_filterMap, pointing]
    refine List.countP_congr fun b _ => ?_
    unfold Binding.key
    cases b.guard <;> simp
  rw [held, List.countP_append, hbindings, direct, Nat.add_comm]

/-- What a change of the key does, in order. -/
theorem trail_setKey {steps : List (Step ρ)} {i : Nat} {b : Binding ρ} (hb : (start.run steps).binding? i = some b)
    {key : Option String} (hkey : b.key ≠ Binding.usable key) :
    trail (steps ++ [.setKey i key]) = trail steps ++
      ((b.guard.map fun g => ⟨reached steps, .giveBack g⟩).toList ++
        ((Binding.usable key).map fun k => ⟨b.letGo (reached steps), .acquire k b.opening⟩).toList) := by
  have hops : (start.run steps).operations (.setKey i key) =
      (b.guard.map .giveBack).toList ++ ((Binding.usable key).map (.acquire · b.opening)).toList := by
    simp only [operations, hb, hkey, if_false]
  rw [trail_concat, hops, Registry.trail_append, ← letGo_eq_performAll]
  congr 2
  · cases b.guard <;> rfl
  · cases Binding.usable key <;> rfl

/-- A binding that lets go gives one reference back, and ends the channel if there is no other. -/
theorem Orderly.letGo_spec {steps : List (Step ρ)} (h : Orderly steps) {i : Nat} {b : Binding ρ} {g : Guard}
    (hb : (start.run steps).binding? i = some b) (hg : b.guard = some g) :
    Registry.refCount (b.letGo (reached steps)) g.key + 1 = (reached steps).refCount g.key ∧
    (b.letGo (reached steps)).journal = (reached steps).journal ++
      if (reached steps).refCount g.key = 1 then [.cancelled g.receiver.channel] else [] := by
  have hs := sound_reached steps
  obtain ⟨e, he, hc⟩ := Option.map_eq_some_iff.1 (h.backs_of_held (mem_held_of_binding? hb hg))
  obtain ⟨hmem, hkey⟩ := Registry.entry?_spec he
  have hpos := hs.refs_pos e hmem
  have hcount : (reached steps).refCount g.key = e.refs := by rw [Registry.refCount, he]; rfl
  have hgive : b.letGo (reached steps) = (reached steps).dropRef e := by
    rw [Binding.letGo, hg]
    exact Registry.giveBack_of_entry? he hc
  rw [hgive, hcount, Registry.dropRef_eq]
  split
  case isTrue hlast =>
    have hone : e.refs = 1 := by omega
    have hgone : Registry.entry? ((reached steps).remove e) g.key = none := hkey ▸ Registry.entry?_remove _ e
    rw [Registry.refCount, hgone, hone, if_pos rfl, Registry.remove_eq, hc]
    exact ⟨rfl, rfl⟩
  case isFalse hmany =>
    rw [Registry.refCount, hkey, Registry.entry?_recount, he, if_neg (by omega)]
    refine ⟨?_, by simp [Registry.recount]⟩
    simp only [Option.map_some, Option.getD_some]
    omega

/-- As long as nobody releases a key by its name or clears the registry, the references of a key are the bindings that point
at it and the guards that are held for it directly. A binding points where it was pointed last, if that is not blank, and
pointing it anywhere says whether that is new. If so, the old reference is given back, and its channel is cancelled if that
was the last one, in the registry in which the new one is acquired and before anything that opening it brings. -/
theorem bindings_hold_their_keys (steps : List (Step ρ)) (h : Orderly steps) :
    (∀ key, (reached steps).refCount key = (start.run steps).pointing key + (start.run steps).direct key) ∧
    (∀ i b, (start.run steps).binding? i = some b → b.key = lastKey steps i) ∧
    (∀ i b key, (start.run steps).binding? i = some b →
      ((start.run steps).step (.setKey i key)).2 = .flag (Binding.usable key ≠ lastKey steps i)) ∧
    (∀ i b key, (start.run steps).binding? i = some b → Binding.usable key ≠ lastKey steps i →
      trail (steps ++ [.setKey i key]) = trail steps ++
        ((b.guard.map fun g => ⟨reached steps, .giveBack g⟩).toList ++
          ((Binding.usable key).map fun k => ⟨b.letGo (reached steps), .acquire k b.opening⟩).toList)) ∧
    ∀ i b g, (start.run steps).binding? i = some b → b.guard = some g →
      Registry.refCount (b.letGo (reached steps)) g.key + 1 = (reached steps).refCount g.key ∧
      (b.letGo (reached steps)).journal = (reached steps).journal ++
        (if (reached steps).refCount g.key = 1 then [.cancelled g.receiver.channel] else []) ∧
      ∀ key, ∀ x ∈ (b.letGo (reached steps)).calls (.acquire key b.opening),
        (b.letGo (reached steps)).journal ⊆ x.found.journal := by
  have hlast := (key_eq_lastKey steps).1
  refine ⟨fun key => ?_, hlast, fun i b key hb => ?_, fun i b key hb hkey => ?_, fun i b g hb hg => ?_⟩
  · rw [h.refCount_eq, count_held]
  · simp only [step, hb, Binding.changed_setKey, hlast i b hb, ne_comm (a := Binding.usable key), ne_eq, decide_not]
  · rw [← hlast i b hb] at hkey
    exact trail_setKey hb (Ne.symm hkey)
  · obtain ⟨hrefs, hjournal⟩ := h.letGo_spec hb hg
    exact ⟨hrefs, hjournal, fun key x hx => Registry.journal_subset_found hx⟩

/-- Two bindings and a guard share a channel; one binding is then pointed at a blank key. -/
def sharing : List (Step Nat) :=
  [.bind ⟨[], []⟩, .setKey 0 (some "c1"), .bind ⟨[.event 1], []⟩, .setKey 1 (some "c1"), .acquire "c1" ⟨[], []⟩,
    .setKey 0 (some " ")]

theorem sharing_counts :
    Orderly sharing ∧ (reached sharing).refCount "c1" = 2 ∧
      ((start.run sharing).step (.setKey 1 (some "c1"))).2 = .flag false := by
  have h : Orderly sharing := ⟨by decide, fun key => by simp [sharing]⟩
  obtain ⟨hrefs, -, hflag, -⟩ := bindings_hold_their_keys sharing h
  refine ⟨h, ?_, ?_⟩
  · rw [hrefs]
    decide
  · rw [hflag 1 _ (some "c1") rfl]
    decide

end Consumers

end FleetFeed.Feed
