import FleetFeed.Proofs.Feed.Guards

/-! Every reference is accounted for. An entry counts the acquires that opened or joined it less the releases that hit it;
while nobody releases a key by its name, that is how many guards of the entry are still held. -/
namespace FleetFeed.Feed

variable {ρ : Type}

namespace Deed

/-- An acquire that opened or joined the entry of the channel. -/
def takes (c : Nat) (d : Deed ρ) : Bool := (d.found.taken? d.operation).any (·.receiver.channel = c)

/-- A release that hit the entry of the channel, be it of a guard or of a key. -/
def returns (c : Nat) (d : Deed ρ) : Bool := (d.found.hit? d.operation).any (·.channel = c)

/-- A guard of the channel is given back, whether its entry is still there or not. -/
def surrenders (c : Nat) (d : Deed ρ) : Bool := d.operation.given?.any (·.receiver.channel = c)

end Deed

namespace Registry

/-! ### Taken and returned -/

/-- What was taken of the entry of a channel and not returned is its references. Nothing was of one that is yet to come. -/
structure Balanced (r : Registry ρ) (c taken returned : Nat) : Prop where
  refs_add : ∀ e ∈ r.entries, e.channel = c → e.refs + returned = taken
  untouched : r.channels.length ≤ c → taken = 0 ∧ returned = 0

namespace Balanced

variable {r : Registry ρ} {c taken returned : Nat}

theorem join (h : r.Balanced c taken returned) (hs : r.Sound) {key : String} {e₁ : Entry} (hk : r.entry? key = some e₁) :
    (r.recount key (· + 1)).Balanced c (taken + if e₁.channel = c then 1 else 0) returned := by
  obtain ⟨he₁, hkey⟩ := entry?_spec hk
  constructor
  · intro e he hc
    obtain ⟨e₀, h₀, -, hc₀, hrefs⟩ := mem_recount he
    rw [hc₀] at hc
    have hold := h.refs_add e₀ h₀ hc
    rw [hrefs]
    by_cases heq : e₀.key = key
    · obtain rfl := hs.eq_of_key h₀ he₁ (heq.trans hkey.symm)
      simp only [heq, hc, if_true]
      omega
    · have hne : e₁.channel ≠ c := fun hch => heq (hs.eq_of_channel he₁ h₀ (hch.trans hc.symm) ▸ hkey)
      simp only [heq, hne, if_false]
      omega
  · intro hc
    have hne : e₁.channel ≠ c := Nat.ne_of_lt (Nat.lt_of_lt_of_le (lt_of_keyOf? (hs.key_eq e₁ he₁)) hc)
    simpa [hne] using h.untouched hc

theorem openFor (h : r.Balanced c taken returned) (hs : r.Sound) (key : String) (o : Opening ρ) :
    (r.openFor key o).Balanced c (taken + if r.channels.length = c then 1 else 0) returned := by
  constructor
  · intro e he hc
    rcases List.mem_append.1 he with he | he
    · have hlt := lt_of_keyOf? (hs.key_eq e he)
      have hne : r.channels.length ≠ c := by omega
      simpa [hne] using h.refs_add e he hc
    · obtain rfl := List.mem_singleton.1 he
      have heq : r.channels.length = c := hc
      have hnew := h.untouched (Nat.le_of_eq heq)
      rw [if_pos heq, hnew.1, hnew.2]
  · intro hc
    simp only [Registry.openFor, List.length_append, List.length_singleton] at hc
    have hne : r.channels.length ≠ c := by omega
    simpa [hne] using h.untouched (by omega)

theorem dropRef (h : r.Balanced c taken returned) (hs : r.Sound) {e : Entry} (he : e ∈ r.entries) :
    (r.dropRef e).Balanced c taken (returned + if e.channel = c then 1 else 0) := by
  have huntouched : r.channels.length ≤ c → taken = 0 ∧ returned + (if e.channel = c then 1 else 0) = 0 := by
    intro hc
    have hne : e.channel ≠ c := Nat.ne_of_lt (Nat.lt_of_lt_of_le (lt_of_keyOf? (hs.key_eq e he)) hc)
    simpa [hne] using h.untouched hc
  rw [dropRef_eq]
  split
  case isTrue =>
    constructor
    · intro f hf hc
      obtain ⟨hf, hk⟩ := mem_remove.1 hf
      have hne : e.channel ≠ c := fun hch => hk (congrArg Entry.key (hs.eq_of_channel hf he (hc.trans hch.symm)))
      simpa [hne] using h.refs_add f hf hc
    · rw [remove_eq, List.length_modify]
      exact huntouched
  case isFalse hmany =>
    constructor
    · intro f hf hc
      obtain ⟨f₀, h₀, -, hc₀, hrefs⟩ := mem_recount hf
      rw [hc₀] at hc
      have hold := h.refs_add f₀ h₀ hc
      rw [hrefs]
      by_cases heq : f₀.key = e.key
      · obtain rfl := hs.eq_of_key h₀ he heq
        simp only [hc, if_true]
        omega
      · have hne : e.channel ≠ c := fun hch => heq (congrArg Entry.key (hs.eq_of_channel h₀ he (hc.trans hch.symm)))
        simp only [heq, hne, if_false]
        omega
    · exact huntouched

/-- Where the entries stay, so does the balance. -/
theorem frame (h : r.Balanced c taken returned) {s : Registry ρ} (he : s.entries = r.entries)
    (hlen : r.channels.length ≤ s.channels.length) : s.Balanced c taken returned :=
  ⟨fun e hmem => h.refs_add e (he ▸ hmem), fun hc => h.untouched (Nat.le_trans hlen hc)⟩

theorem perform (h : r.Balanced c taken returned) (hs : r.Sound) (op : Operation ρ) :
    (r.perform op).Balanced c (taken + if Deed.takes c ⟨r, op⟩ then 1 else 0)
      (returned + if Deed.returns c ⟨r, op⟩ then 1 else 0) := by
  have hlen := r.length_le_perform op
  have hout := r.outcome_perform op
  generalize r.perform op = s at hout hlen ⊢
  cases hout with
  | joined hk => simpa [Deed.takes, Deed.returns, taken?, hit?, acquire_of_present hk] using h.join hs hk
  | opened hk => simpa [Deed.takes, Deed.returns, taken?, hit?, acquire_of_absent hk] using h.openFor hs _ _
  | hit he => simpa [Deed.takes, Deed.returns, taken?_of_hit he, he] using h.dropRef hs (entry?_spec (entry?_of_hit he)).1
  | missedGuard he => simpa [Deed.takes, Deed.returns, taken?, he] using h
  | missedKey he => simpa [Deed.takes, Deed.returns, taken?, he] using h
  | cleared =>
    simp only [Deed.takes, Deed.returns, taken?, hit?, Option.any_none, Bool.false_eq_true, if_false, Nat.add_zero]
    exact ⟨fun e he => absurd (hs.entries_clearAll ▸ he) List.not_mem_nil, fun hc => h.untouched (Nat.le_trans hlen hc)⟩
  | pushed d p => simpa [Deed.takes, Deed.returns, taken?, hit?] using h.frame (r.entries_push d p) hlen
  | letGo d => simpa [Deed.takes, Deed.returns, taken?, hit?] using h.frame (s := r.letGo d) rfl hlen

end Balanced

theorem balanced_performAll (ops : List (Operation ρ)) (c : Nat) :
    ((empty : Registry ρ).performAll ops).Balanced c ((empty.trail ops).countP (Deed.takes c))
      ((empty.trail ops).countP (Deed.returns c)) := by
  induction ops using List.reverseRecOn with
  | nil => exact ⟨fun e he => absurd he List.not_mem_nil, fun _ => ⟨rfl, rfl⟩⟩
  | append_singleton ops op ih =>
    rw [performAll_concat, trail_concat]
    simpa only [List.countP_append, List.countP_singleton] using ih.perform (sound_performAll ops) op

/-! ### Guards -/

/-- A guard of an entry that is there hits it, and no other release does as long as nobody names the key. -/
theorem Sound.returns_eq_surrenders {r : Registry ρ} (h : r.Sound) {e : Entry} (he : e ∈ r.entries) {op : Operation ρ}
    (hop : op ≠ .release e.key) (hissued : ∀ g, op = .giveBack g → r.Issued g) :
    Deed.returns e.channel ⟨r, op⟩ = Deed.surrenders e.channel ⟨r, op⟩ := by
  cases op with
  | giveBack g =>
    simp only [Deed.returns, Deed.surrenders, hit?, Operation.given?, Option.any_some]
    by_cases hc : g.receiver.channel = e.channel
    · rw [h.entry?_of_issued (hissued g rfl) he hc.symm]
      simp [Option.filter_some, hc]
    · simp only [hc, decide_false]
      cases r.entry? g.key with
      | none => rfl
      | some f => by_cases hf : f.channel = g.receiver.channel <;> simp [Option.filter_some, hf, hc]
  | release key =>
    simp only [Deed.returns, Deed.surrenders, hit?, Operation.given?, Option.any_none]
    cases hk : r.entry? key with
    | none => rfl
    | some f =>
      obtain ⟨hf, rfl⟩ := entry?_spec hk
      have hne : f.channel ≠ e.channel := fun hc => hop (by rw [h.eq_of_channel hf he hc])
      simp [hne]
  | _ => rfl

/-- As long as nobody names its key, an entry is hit by its own guards only, and by each that is given back. -/
theorem returned_eq_surrendered (ops : List (Operation ρ))
    (hissued : ∀ d ∈ (empty : Registry ρ).trail ops, ∀ g, d.operation = .giveBack g → d.found.Issued g) :
    (∀ e ∈ ((empty : Registry ρ).performAll ops).entries, .release e.key ∉ ops →
      (empty.trail ops).countP (Deed.returns e.channel) = (empty.trail ops).countP (Deed.surrenders e.channel)) ∧
    ∀ c, ((empty : Registry ρ).performAll ops).channels.length ≤ c →
      (empty.trail ops).countP (Deed.surrenders c) = 0 := by
  induction ops using List.reverseRecOn with
  | nil => exact ⟨fun e he => absurd he List.not_mem_nil, fun _ _ => rfl⟩
  | append_singleton ops op ih =>
    set r : Registry ρ := empty.performAll ops with hr
    have hs : r.Sound := sound_performAll ops
    rw [trail_concat, ← hr] at hissued
    have hlast : ∀ g, op = .giveBack g → r.Issued g := hissued ⟨r, op⟩ (by simp)
    obtain ⟨ihe, ihc⟩ := ih fun d hd => hissued d (List.mem_append_left _ hd)
    -- nothing is given back of a channel that is yet to come
    have hnew : ∀ c, r.channels.length ≤ c → Deed.surrenders c ⟨r, op⟩ = false ∧ Deed.returns c ⟨r, op⟩ = false := by
      intro c hc
      constructor
      · cases op with
        | giveBack g =>
          have hlt := lt_of_keyOf? (hlast g rfl)
          simp only [Deed.surrenders, Operation.given?, Option.any_some, decide_eq_false_iff_not]
          omega
        | _ => rfl
      · unfold Deed.returns
        cases hf : r.hit? op with
        | none => rfl
        | some f =>
          have hlt := lt_of_keyOf? (hs.key_eq f (entry?_spec (entry?_of_hit hf)).1)
          simp only [Option.any_some, decide_eq_false_iff_not]
          omega
    simp only [performAll_concat, trail_concat, ← hr, List.countP_append, List.countP_singleton]
    refine ⟨fun e he hrel => ?_, fun c hc => ?_⟩
    · rw [List.mem_append, not_or, List.mem_singleton] at hrel
      rcases hs.mem_perform he with ⟨e₀, h₀, hk, hc⟩ | hc
      · rw [hk] at hrel
        rw [hc, ihe e₀ h₀ hrel.1, hs.returns_eq_surrenders h₀ (Ne.symm hrel.2) hlast]
      · have hle : r.channels.length ≤ e.channel := Nat.le_of_eq hc.symm
        rw [ihc _ hle, ((balanced_performAll ops e.channel).untouched hle).2, (hnew _ hle).1, (hnew _ hle).2]
    · have hle : r.channels.length ≤ c := Nat.le_trans (r.length_le_perform op) hc
      simp [ihc c hle, (hnew c hle).1]

end Registry

namespace Consumers

theorem count_handedOut (ds : List (Deed ρ)) (c : Nat) :
    (handedOut ds).countP (·.receiver.channel = c) = ds.countP (Deed.takes c) := by
  rw [handedOut, List.countP_filterMap]
  refine List.countP_congr fun d _ => ?_
  unfold Deed.takes
  cases d.found.taken? d.operation <;> simp

theorem count_takenBack (ds : List (Deed ρ)) (c : Nat) :
    (takenBack ds).countP (·.receiver.channel = c) = ds.countP (Deed.surrenders c) := by
  rw [takenBack, List.countP_filterMap]
  refine List.countP_congr fun d _ => ?_
  unfold Deed.surrenders
  cases d.operation.given? <;> simp

/-- The guards of a channel that are held are those that were handed out and not taken back. -/
theorem held_run (steps : List (Step ρ)) (c : Nat) :
    (start.run steps).held.countP (·.receiver.channel = c) + (trail steps).countP (Deed.surrenders c) =
      (trail steps).countP (Deed.takes c) := by
  induction steps using List.reverseRecOn with
  | nil => rfl
  | append_singleton steps s ih =>
    have hstep := held_step (start.run steps) s (q := fun g => g.receiver.channel = c) fun _ _ => rfl
    rw [count_handedOut, count_takenBack] at hstep
    rw [run_concat, trail_concat, List.countP_append, List.countP_append, reached]
    omega

/-- An entry is the only one of its key, and its references are the acquires that opened or joined it less the releases
that hit it. Unless its key is released by name, they are its guards that are held. An acquire opens a channel exactly
where there is no entry. -/
theorem references_accounted (steps : List (Step ρ)) :
    (∀ key, ((reached steps).entries.filter (·.key = key)).length ≤ 1) ∧
    (∀ e ∈ (reached steps).entries, 1 ≤ e.refs ∧
      e.refs + (trail steps).countP (Deed.returns e.channel) = (trail steps).countP (Deed.takes e.channel)) ∧
    (∀ key, .release key ∉ steps → (reached steps).refCount key =
      (start.run steps).held.countP fun g => (Registry.entry? (reached steps) key).any (·.channel = g.receiver.channel)) ∧
    ∀ d ∈ trail steps, ∀ key o, d.operation = .acquire key o →
      (d.found.perform d.operation).journal =
        d.found.journal ++ if d.found.contains key then [] else [.opened d.found.channels.length] := by
  have hs := sound_reached steps
  have hbalanced := Registry.balanced_performAll (start.history steps)
  rw [← reached_eq_performAll] at hbalanced
  refine ⟨fun key => ?_, fun e he => ⟨hs.refs_pos e he, (hbalanced e.channel).refs_add e he rfl⟩, fun key hkey => ?_, ?_⟩
  · rw [← List.countP_eq_length_filter]
    have hone := List.nodup_iff_count_le_one.1 hs.keys_nodup key
    rw [List.count, List.countP_map] at hone
    exact Nat.le_trans (Nat.le_of_eq (List.countP_congr fun e _ => by simp)) hone
  · cases he : Registry.entry? (reached steps) key with
    | none => simp [Registry.refCount, he]
    | some e =>
      obtain ⟨hmem, rfl⟩ := Registry.entry?_spec he
      have hheld := held_run steps e.channel
      have hrefs := (hbalanced e.channel).refs_add e hmem rfl
      have hsame := (Registry.returned_eq_surrendered (start.history steps) (issued_of_giveBack steps)).1 e
        (reached_eq_performAll steps ▸ hmem) fun hrel => hkey (release_mem_history hrel)
      simp only [Registry.refCount, he, Option.map_some, Option.getD_some, Option.any_some]
      simp only [eq_comm (a := e.channel)]
      change (trail steps).countP _ = (trail steps).countP _ at hsame
      change e.refs + (trail steps).countP _ = (trail steps).countP _ at hrefs
      omega
  · intro d _ key o hop
    rw [hop, Registry.perform]
    cases hk : d.found.entry? key with
    | none => simp [Registry.acquire_of_absent hk, Registry.openFor, Registry.contains, hk]
    | some e => simp [Registry.acquire_of_present hk, Registry.recount, Registry.contains, hk]

end Consumers

end FleetFeed.Feed
