import FleetFeed.Proofs.Feed.Effect
import FleetFeed.Proofs.Feed.Operation
import Mathlib.Data.List.Nodup

/-! The life of a channel, from its opening to its one cancellation. Its entry, its live flag and its cell move together
on every path, and the counters and the journal keep up with them: `Registry.Sound` says so of a registry, every operation
keeps it, and so it holds of every registry that a run can reach. -/
namespace FleetFeed.Feed

variable {ρ : Type}

namespace Registry

/-- The entry of a channel is in the map. -/
def Listed (r : Registry ρ) (c : Nat) : Prop := c ∈ r.entries.map Entry.channel

instance (r : Registry ρ) (c : Nat) : Decidable (r.Listed c) :=
  inferInstanceAs (Decidable (c ∈ r.entries.map Entry.channel))

/-- What holds of a registry between any two operations. -/
structure Sound (r : Registry ρ) : Prop where
  keys_nodup : (r.entries.map Entry.key).Nodup
  refs_pos : ∀ e ∈ r.entries, 1 ≤ e.refs
  /-- An entry names a channel that was opened for its key. -/
  key_eq : ∀ e ∈ r.entries, r.keyOf? e.channel = some e.key
  live_iff : ∀ c ch, r.channels[c]? = some ch → (ch.live = true ↔ r.Listed c)
  closed_iff : ∀ c ch, r.channels[c]? = some ch → (ch.status = .closed ↔ ¬ r.Listed c)
  opened : ∀ c, r.journal.count (.opened c) = if c < r.channels.length then 1 else 0
  cancelled : ∀ c, r.journal.count (.cancelled c) = if c < r.channels.length ∧ ¬ r.Listed c then 1 else 0
  balance : r.opened = r.closed + r.entries.length

namespace Sound

variable {r : Registry ρ}

theorem eq_of_key (h : r.Sound) {e f : Entry} (he : e ∈ r.entries) (hf : f ∈ r.entries) (hk : e.key = f.key) : e = f :=
  List.inj_on_of_nodup_map h.keys_nodup he hf hk

/-- Two entries never share a channel: it was opened for one key. -/
theorem eq_of_channel (h : r.Sound) {e f : Entry} (he : e ∈ r.entries) (hf : f ∈ r.entries)
    (hc : e.channel = f.channel) : e = f := by
  have hk := h.key_eq e he
  rw [hc, h.key_eq f hf] at hk
  exact h.eq_of_key he hf (Option.some.inj hk).symm

theorem lt_of_listed (h : r.Sound) {c : Nat} (hc : r.Listed c) : c < r.channels.length := by
  obtain ⟨e, he, rfl⟩ := List.mem_map.1 hc
  exact lt_of_keyOf? (h.key_eq e he)

/-- The entry that a key finds is the one that is there. -/
theorem entry?_of_mem (h : r.Sound) {e : Entry} (he : e ∈ r.entries) : r.entry? e.key = some e := by
  cases hf : r.entry? e.key with
  | none => exact absurd (List.find?_eq_none.1 hf e he) (by simp)
  | some f =>
    obtain ⟨hmem, hk⟩ := entry?_spec hf
    rw [h.eq_of_key hmem he hk]

/-- An operation on sinks reaches a cell exactly while the entry of its channel is in the map. -/
theorem accepts_iff (h : r.Sound) (c : Nat) : r.accepts c = true ↔ r.Listed c := by
  rw [accepts_eq]
  cases hc : r.channels[c]? with
  | none =>
    refine ⟨fun hfalse => absurd hfalse (by simp), fun hl => ?_⟩
    have := h.lt_of_listed hl
    rw [List.getElem?_eq_none_iff] at hc
    omega
  | some ch =>
    have hlive := h.live_iff c ch hc
    have hclosed := h.closed_iff c ch hc
    simp only [Option.map_some, Option.getD_some, Bool.and_eq_true, Bool.not_eq_true', Bool.eq_false_iff, ne_eq,
      Status.isClosed_iff]
    tauto

theorem opened_mem_iff (h : r.Sound) (c : Nat) : .opened c ∈ r.journal ↔ c < r.channels.length := by
  rw [← List.count_pos_iff, h.opened c]
  split_ifs with hc <;> simp [hc]

theorem isLive_iff (h : r.Sound) {c : Nat} (hc : c < r.channels.length) : r.isLive c = true ↔ r.Listed c := by
  rw [isLive, List.getElem?_eq_getElem hc]
  exact h.live_iff c _ (List.getElem?_eq_getElem hc)

theorem statusOf_ne_closed_iff (h : r.Sound) {c : Nat} (hc : c < r.channels.length) :
    r.statusOf c ≠ .closed ↔ r.Listed c := by
  rw [statusOf, List.getElem?_eq_getElem hc, ← not_iff_not, not_not]
  exact h.closed_iff c _ (List.getElem?_eq_getElem hc)

theorem cancelled_mem_iff (h : r.Sound) (c : Nat) : .cancelled c ∈ r.journal ↔ c < r.channels.length ∧ ¬ r.Listed c := by
  rw [← List.count_pos_iff, h.cancelled c]
  split_ifs with hc <;> simp [hc]

theorem listed_of_not_cancelled (h : r.Sound) {c : Nat} (hlt : c < r.channels.length) (hc : .cancelled c ∉ r.journal) :
    r.Listed c := by
  by_contra hl
  exact hc ((h.cancelled_mem_iff c).2 ⟨hlt, hl⟩)

end Sound

theorem sound_empty : (empty : Registry ρ).Sound where
  keys_nodup := List.nodup_nil
  refs_pos e he := absurd he List.not_mem_nil
  key_eq e he := absurd he List.not_mem_nil
  live_iff c ch hc := absurd hc (by simp [empty])
  closed_iff c ch hc := absurd hc (by simp [empty])
  opened c := by simp [empty]
  cancelled c := by simp [empty]
  balance := rfl

/-! ### References -/

section Recount

variable (r : Registry ρ) (key : String) (f : Nat → Nat)

@[simp] theorem map_key_recount : (r.recount key f).entries.map Entry.key = r.entries.map Entry.key := by
  simp only [recount, List.map_map]
  refine List.map_congr_left fun e _ => ?_
  simp only [Function.comp_apply]
  split <;> rfl

@[simp] theorem map_channel_recount : (r.recount key f).entries.map Entry.channel = r.entries.map Entry.channel := by
  simp only [recount, List.map_map]
  refine List.map_congr_left fun e _ => ?_
  simp only [Function.comp_apply]
  split <;> rfl

theorem listed_recount (c : Nat) : (r.recount key f).Listed c ↔ r.Listed c := by
  rw [Listed, map_channel_recount, Listed]

variable {r key f}

theorem mem_recount {e : Entry} (he : e ∈ (r.recount key f).entries) :
    ∃ e₀ ∈ r.entries, e.key = e₀.key ∧ e.channel = e₀.channel ∧ e.refs = if e₀.key = key then f e₀.refs else e₀.refs := by
  obtain ⟨e₀, h₀, rfl⟩ := List.mem_map.1 he
  refine ⟨e₀, h₀, ?_⟩
  split <;> simp

/-- Counting references anew keeps a registry sound as long as it leaves one to the entry. -/
theorem Sound.recount (h : r.Sound) (hf : ∀ e ∈ r.entries, e.key = key → 1 ≤ f e.refs) : (r.recount key f).Sound where
  keys_nodup := by rw [map_key_recount]; exact h.keys_nodup
  refs_pos e he := by
    obtain ⟨e₀, h₀, -, -, hrefs⟩ := mem_recount he
    rw [hrefs]
    split
    case isTrue hk => exact hf e₀ h₀ hk
    case isFalse => exact h.refs_pos e₀ h₀
  key_eq e he := by
    obtain ⟨e₀, h₀, hk, hc, -⟩ := mem_recount he
    rw [hk, hc]
    exact h.key_eq e₀ h₀
  live_iff c ch hc := (h.live_iff c ch hc).trans (listed_recount r key f c).symm
  closed_iff c ch hc := (h.closed_iff c ch hc).trans (not_congr (listed_recount r key f c).symm)
  opened := h.opened
  cancelled c := by simp only [listed_recount]; exact h.cancelled c
  balance := by
    have hlen : (r.recount key f).entries.length = r.entries.length := List.length_map ..
    rw [hlen]
    exact h.balance

end Recount

/-! ### Cells -/

/-- A change of one cell that leaves the flag and the key alone, and closes nothing. -/
theorem Sound.onChannel {r : Registry ρ} (h : r.Sound) (c : Nat) (f : Channel ρ → Channel ρ)
    (hkey : ∀ ch, (f ch).key = ch.key) (hf : ∀ ch, r.channels[c]? = some ch →
      (f ch).live = ch.live ∧ ((f ch).status = .closed ↔ ch.status = .closed)) :
    (r.onChannel c f).Sound := by
  have hback : ∀ (d : Nat) (ch : Channel ρ), (r.onChannel c f).channels[d]? = some ch → ∃ ch₀, r.channels[d]? = some ch₀ ∧
      ch.live = ch₀.live ∧ (ch.status = .closed ↔ ch₀.status = .closed) := by
    intro d ch hd
    rw [channels_onChannel] at hd
    split at hd
    case isTrue hcd =>
      subst hcd
      obtain ⟨ch₀, h₀, rfl⟩ := Option.map_eq_some_iff.1 hd
      exact ⟨ch₀, h₀, hf ch₀ h₀⟩
    case isFalse => exact ⟨ch, hd, rfl, Iff.rfl⟩
  exact {
    keys_nodup := h.keys_nodup
    refs_pos := h.refs_pos
    key_eq := fun e he => (r.keyOf?_onChannel c e.channel hkey).trans (h.key_eq e he)
    live_iff := fun d ch hd => by
      obtain ⟨ch₀, h₀, hlive, -⟩ := hback d ch hd
      rw [hlive]
      exact h.live_iff d ch₀ h₀
    closed_iff := fun d ch hd => by
      obtain ⟨ch₀, h₀, -, hclosed⟩ := hback d ch hd
      rw [hclosed]
      exact h.closed_iff d ch₀ h₀
    opened := fun d => by rw [length_onChannel]; exact h.opened d
    cancelled := fun d => by rw [length_onChannel]; exact h.cancelled d
    balance := h.balance }

/-- The counters of calls have no part in it. -/
theorem Sound.recounted {r : Registry ρ} (h : r.Sound) (events errors dropped : Nat) :
    ({ r with events := events, errors := errors, dropped := dropped } : Registry ρ).Sound :=
  ⟨h.keys_nodup, h.refs_pos, h.key_eq, h.live_iff, h.closed_iff, h.opened, h.cancelled, h.balance⟩

theorem Sound.push {r : Registry ρ} (h : r.Sound) (c : Nat) (p : Push ρ) : (r.push c p).Sound := by
  cases hc : r.accepts c with
  | false =>
    rw [push_of_refuses hc]
    exact h.recounted _ _ _
  | true =>
    rw [push_of_accepts hc]
    refine (h.onChannel c (·.writes [p]) (fun _ => rfl) fun ch hch => ⟨rfl, ?_⟩).recounted _ _ _
    have hl := (h.accepts_iff c).1 hc
    have hopen : ch.status ≠ .closed := fun hcl => (h.closed_iff c ch hch).1 hcl hl
    exact iff_of_false (Channel.writes_status_ne_closed hopen [p]) hopen

theorem Sound.letGo {r : Registry ρ} (h : r.Sound) (c : Nat) : (r.letGo c).Sound :=
  h.onChannel c _ (fun _ => rfl) fun _ _ => ⟨rfl, Iff.rfl⟩

/-! ### Opening -/

theorem entry?_eq_none_iff {r : Registry ρ} {key : String} : r.entry? key = none ↔ key ∉ r.entries.map Entry.key := by
  unfold entry?
  simp only [List.find?_eq_none, List.mem_map, decide_eq_true_eq, not_exists, not_and]

section OpenFor

variable (r : Registry ρ) (key : String) (o : Opening ρ)

theorem listed_openFor (c : Nat) : (r.openFor key o).Listed c ↔ r.Listed c ∨ c = r.channels.length := by
  simp [Listed, openFor]

variable {r key o}

/-- A channel is an old one, or the new one behind them. -/
theorem channels_openFor {c : Nat} {ch : Channel ρ} (hc : (r.openFor key o).channels[c]? = some ch) :
    c < r.channels.length ∧ r.channels[c]? = some ch ∨
      c = r.channels.length ∧ ch = (Channel.fresh key o.late).writes o.early := by
  rw [openFor, List.getElem?_append] at hc
  split at hc
  case isTrue hlt => exact .inl ⟨hlt, hc⟩
  case isFalse hge =>
    obtain ⟨hlt, heq⟩ := List.getElem?_eq_some_iff.1 hc
    simp only [List.length_singleton] at hlt
    refine .inr ⟨by omega, ?_⟩
    simpa [show c - r.channels.length = 0 by omega] using heq.symm

theorem Sound.openFor (h : r.Sound) (hk : r.entry? key = none) : (r.openFor key o).Sound := by
  have hlisted := listed_openFor r key o
  have hnew : ¬ r.Listed r.channels.length := fun hl => absurd (h.lt_of_listed hl) (Nat.lt_irrefl _)
  have hlen : (r.openFor key o).channels.length = r.channels.length + 1 := by simp [Registry.openFor]
  exact {
    keys_nodup := by
      rw [Registry.openFor, List.map_append, List.map_singleton, List.nodup_append]
      refine ⟨h.keys_nodup, List.nodup_singleton _, fun a ha b hb hab => ?_⟩
      rw [List.mem_singleton] at hb
      rw [hab, hb] at ha
      exact entry?_eq_none_iff.1 hk ha
    refs_pos := fun e he => by
      rcases List.mem_append.1 he with he | he
      · exact h.refs_pos e he
      · obtain rfl := List.mem_singleton.1 he
        exact Nat.le_refl 1
    key_eq := fun e he => by
      rcases List.mem_append.1 he with he | he
      · exact keyOf?_openFor (h.key_eq e he) key o
      · obtain rfl := List.mem_singleton.1 he
        exact r.keyOf?_openFor_self key o
    live_iff := fun c ch hc => by
      rw [hlisted]
      rcases channels_openFor hc with ⟨hlt, hc⟩ | ⟨rfl, rfl⟩
      · rw [h.live_iff c ch hc]
        exact ⟨.inl, fun hor => hor.resolve_right (Nat.ne_of_lt hlt)⟩
      · refine iff_of_true ?_ (.inr rfl)
        rw [Channel.writes_eq]
        rfl
    closed_iff := fun c ch hc => by
      rw [hlisted]
      rcases channels_openFor hc with ⟨hlt, hc⟩ | ⟨rfl, rfl⟩
      · rw [h.closed_iff c ch hc]
        exact not_congr ⟨.inl, fun hor => hor.resolve_right (Nat.ne_of_lt hlt)⟩
      · exact iff_of_false (Channel.writes_status_ne_closed (by simp [Channel.fresh]) _) (by simp)
    opened := fun c => by
      rw [hlen, Registry.openFor, List.count_append, h.opened c]
      simp only [List.count_singleton, beq_iff_eq, Happening.opened.injEq]
      split_ifs <;> omega
    cancelled := fun c => by
      simp only [hlisted, hlen]
      rw [Registry.openFor, List.count_append, h.cancelled c]
      by_cases hc : c = r.channels.length
      · simp [hc, hnew]
      · simp only [hc, or_false, List.count_singleton, beq_iff_eq, reduceCtorEq, if_false, Nat.add_zero]
        congr 1
        simp only [eq_iff_iff, and_congr_left_iff]
        omega
    balance := by
      have := h.balance
      simp only [Registry.openFor, List.length_append, List.length_singleton]
      omega }

end OpenFor

/-! ### The end of a channel -/

section Remove

variable {r : Registry ρ} {e : Entry}

theorem mem_remove {f : Entry} : f ∈ (r.remove e).entries ↔ f ∈ r.entries ∧ f.key ≠ e.key := by
  simp [remove_eq]

theorem entry?_remove (r : Registry ρ) (e : Entry) : Registry.entry? (r.remove e) e.key = none := by
  rw [entry?_eq_none_iff]
  intro hmem
  obtain ⟨f, hf, hk⟩ := List.mem_map.1 hmem
  exact (mem_remove.1 hf).2 hk

theorem Sound.listed_remove (h : r.Sound) (he : e ∈ r.entries) (c : Nat) :
    (r.remove e).Listed c ↔ r.Listed c ∧ c ≠ e.channel := by
  simp only [Listed, List.mem_map, mem_remove]
  constructor
  · rintro ⟨f, ⟨hf, hk⟩, rfl⟩
    exact ⟨⟨f, hf, rfl⟩, fun hc => hk (congrArg Entry.key (h.eq_of_channel hf he hc))⟩
  · rintro ⟨⟨f, hf, rfl⟩, hc⟩
    exact ⟨f, ⟨hf, fun hk => hc (congrArg Entry.channel (h.eq_of_key hf he hk))⟩, rfl⟩

theorem Sound.length_remove (h : r.Sound) (he : e ∈ r.entries) : (r.remove e).entries.length + 1 = r.entries.length := by
  have hone : r.entries.countP (·.key = e.key) = 1 := by
    rw [← List.count_eq_one_of_mem h.keys_nodup (List.mem_map_of_mem he), List.count, List.countP_map]
    exact List.countP_congr fun f _ => by simp
  have hsplit := List.length_eq_countP_add_countP (fun f : Entry => decide (f.key = e.key)) (l := r.entries)
  rw [remove_eq, ← List.countP_eq_length_filter, hsplit, hone, Nat.add_comm]
  simp

/-- A cell after a removal: it was ended, or nothing happened to it. -/
theorem channels_remove {c : Nat} {ch : Channel ρ} (hc : (r.remove e).channels[c]? = some ch) :
    c = e.channel ∧ ch.live = false ∧ ch.status = .closed ∨ c ≠ e.channel ∧ r.channels[c]? = some ch := by
  have hget := channels_onChannel r e.channel c Channel.ended
  rw [remove_eq] at hc
  change (r.onChannel e.channel Channel.ended).channels[c]? = some ch at hc
  rw [hget] at hc
  split at hc
  case isTrue heq =>
    obtain ⟨ch₀, -, rfl⟩ := Option.map_eq_some_iff.1 hc
    exact .inl ⟨heq.symm, rfl, rfl⟩
  case isFalse hne => exact .inr ⟨Ne.symm hne, hc⟩

theorem Sound.remove (h : r.Sound) (he : e ∈ r.entries) : (r.remove e).Sound := by
  have hlisted := h.listed_remove he
  have hlen : (r.remove e).channels.length = r.channels.length := by
    rw [remove_eq]
    exact List.length_modify ..
  have hlt := h.lt_of_listed (List.mem_map_of_mem he)
  exact {
    keys_nodup := by
      rw [remove_eq]
      exact h.keys_nodup.sublist (List.filter_sublist.map Entry.key)
    refs_pos := fun f hf => h.refs_pos f (mem_remove.1 hf).1
    key_eq := fun f hf => (r.keyOf?_remove e f.channel).trans (h.key_eq f (mem_remove.1 hf).1)
    live_iff := fun c ch hc => by
      rw [hlisted]
      rcases channels_remove hc with ⟨rfl, hlive, -⟩ | ⟨hne, hc⟩
      · simp [hlive]
      · simp [h.live_iff c ch hc, hne]
    closed_iff := fun c ch hc => by
      rw [hlisted]
      rcases channels_remove hc with ⟨rfl, -, hclosed⟩ | ⟨hne, hc⟩
      · simp [hclosed]
      · simp [h.closed_iff c ch hc, hne]
    opened := fun c => by
      rw [hlen, remove_eq, List.count_append, h.opened c]
      simp
    cancelled := fun c => by
      simp only [hlisted, hlen]
      rw [remove_eq, List.count_append, h.cancelled c]
      by_cases hc : c = e.channel
      · have hl : r.Listed e.channel := List.mem_map_of_mem he
        simp [hc, hl, hlt]
      · simp [hc, Ne.symm hc]
    balance := by
      have hbalance := h.balance
      have hremove := h.length_remove he
      have hclosed : (r.remove e).closed = r.closed + 1 := by rw [remove_eq]
      have hopened : (r.remove e).opened = r.opened := by rw [remove_eq]
      omega }

theorem Sound.dropRef (h : r.Sound) (he : e ∈ r.entries) : (r.dropRef e).Sound := by
  rw [dropRef_eq]
  split
  case isTrue => exact h.remove he
  case isFalse hmany =>
    refine h.recount fun f hf hk => ?_
    rw [h.eq_of_key hf he hk]
    omega

end Remove

/-- Removing the first entry leaves the others. -/
theorem Sound.entries_remove_head {r : Registry ρ} (h : r.Sound) {e : Entry} {es : List Entry}
    (hes : r.entries = e :: es) :
    (r.remove e).entries = es := by
  have hnodup := h.keys_nodup
  rw [hes, List.map_cons, List.nodup_cons] at hnodup
  rw [remove_eq, hes]
  simp only [ne_eq, not_true_eq_false, decide_false, Bool.false_eq_true, not_false_eq_true, List.filter_cons_of_neg]
  refine List.filter_eq_self.2 fun f hf => ?_
  simp only [decide_not, Bool.not_eq_true', decide_eq_false_iff_not]
  exact fun hk => hnodup.1 (hk ▸ List.mem_map_of_mem hf)

/-- What every removal of an entry keeps holds after all of them, and then there is none left. -/
theorem Sound.clearAll_induction {r : Registry ρ} (h : r.Sound) {P : Registry ρ → Prop} (hr : P r)
    (hstep : ∀ s e, s.Sound → e ∈ s.entries → P s → P (s.remove e)) :
    r.clearAll.Sound ∧ r.clearAll.entries = [] ∧ P r.clearAll := by
  have hall : ∀ (es : List Entry) (s : Registry ρ), s.entries = es → s.Sound → P s →
      (es.foldl Registry.remove s).Sound ∧ (es.foldl Registry.remove s).entries = [] ∧ P (es.foldl Registry.remove s) := by
    intro es
    induction es with
    | nil => exact fun s hes hs hp => ⟨hs, hes, hp⟩
    | cons e es ih =>
      intro s hes hs hp
      have he : e ∈ s.entries := hes ▸ List.mem_cons_self
      exact ih (s.remove e) (hs.entries_remove_head hes) (hs.remove he) (hstep s e hs he hp)
  exact hall r.entries r rfl h hr

theorem Sound.clearAll {r : Registry ρ} (h : r.Sound) : r.clearAll.Sound :=
  (h.clearAll_induction (P := fun _ => True) trivial fun _ _ _ _ _ => trivial).1

theorem Sound.entries_clearAll {r : Registry ρ} (h : r.Sound) : r.clearAll.entries = [] :=
  (h.clearAll_induction (P := fun _ => True) trivial fun _ _ _ _ _ => trivial).2.1

/-! ### Every run -/

theorem Sound.perform {r : Registry ρ} (h : r.Sound) (op : Operation ρ) : (r.perform op).Sound := by
  have hout := r.outcome_perform op
  generalize r.perform op = s at hout ⊢
  cases hout with
  | joined => exact h.recount fun e he _ => Nat.le_succ_of_le (h.refs_pos e he)
  | opened hk => exact h.openFor hk
  | hit hhit => exact h.dropRef (entry?_spec (entry?_of_hit hhit)).1
  | missedGuard | missedKey => exact h
  | cleared => exact h.clearAll
  | pushed c p => exact h.push c p
  | letGo c => exact h.letGo c

/-- After an operation an entry is an old one, counted anew or not, or it has just been opened. -/
theorem Sound.mem_perform {r : Registry ρ} (h : r.Sound) {op : Operation ρ} {e : Entry} (he : e ∈ (r.perform op).entries) :
    (∃ e₀ ∈ r.entries, e.key = e₀.key ∧ e.channel = e₀.channel) ∨ e.channel = r.channels.length := by
  have hrecount : ∀ {key f}, e ∈ (r.recount key f).entries → ∃ e₀ ∈ r.entries, e.key = e₀.key ∧ e.channel = e₀.channel := by
    intro key f hmem
    obtain ⟨e₀, h₀, hk, hc, -⟩ := mem_recount hmem
    exact ⟨e₀, h₀, hk, hc⟩
  have hout := r.outcome_perform op
  generalize r.perform op = s at hout he
  cases hout with
  | joined => exact .inl (hrecount he)
  | opened =>
    rcases List.mem_append.1 he with he | he
    · exact .inl ⟨e, he, rfl, rfl⟩
    · rw [List.mem_singleton.1 he]
      exact .inr rfl
  | hit =>
    rw [dropRef_eq] at he
    split at he
    case isTrue => exact .inl ⟨e, (mem_remove.1 he).1, rfl, rfl⟩
    case isFalse => exact .inl (hrecount he)
  | missedGuard | missedKey => exact .inl ⟨e, he, rfl, rfl⟩
  | cleared => exact absurd (h.entries_clearAll ▸ he) List.not_mem_nil
  | pushed c p => exact .inl ⟨e, r.entries_push c p ▸ he, rfl, rfl⟩
  | letGo => exact .inl ⟨e, he, rfl, rfl⟩

theorem Sound.listed_perform {r : Registry ρ} (h : r.Sound) {op : Operation ρ} {c : Nat} (hc : (r.perform op).Listed c) :
    r.Listed c ∨ c = r.channels.length := by
  obtain ⟨e, he, rfl⟩ := List.mem_map.1 hc
  rcases h.mem_perform he with ⟨e₀, h₀, -, hc⟩ | hc
  · exact .inl (hc ▸ List.mem_map_of_mem h₀)
  · exact .inr hc

theorem Sound.performAll {r : Registry ρ} (h : r.Sound) (ops : List (Operation ρ)) : (r.performAll ops).Sound :=
  performAll_induction h (fun _ op hs => hs.perform op) ops

theorem sound_performAll (ops : List (Operation ρ)) : ((empty : Registry ρ).performAll ops).Sound :=
  sound_empty.performAll ops

end Registry

namespace Consumers

theorem sound_reached (steps : List (Step ρ)) : (reached steps).Sound := by
  rw [reached_eq_performAll]
  exact Registry.sound_performAll _

/-- A channel that was opened is cancelled once its entry has left the map, and only then and only once; its live flag and
its cell say the same. A key never has two channels that are not cancelled, and the counters agree with the entries. -/
theorem channel_lives_once (steps : List (Step ρ)) :
    (∀ c, .opened c ∈ (reached steps).journal →
      (reached steps).journal.count (.opened c) = 1 ∧
      (reached steps).journal.count (.cancelled c) = (if (reached steps).Listed c then 0 else 1) ∧
      ((reached steps).isLive c = true ↔ (reached steps).Listed c) ∧
      ((reached steps).statusOf c ≠ .closed ↔ (reached steps).Listed c)) ∧
    (∀ key c d, (reached steps).keyOf? c = some key → (reached steps).keyOf? d = some key →
      .cancelled c ∉ (reached steps).journal → .cancelled d ∉ (reached steps).journal → c = d) ∧
    (reached steps).stats.active = (reached steps).entries.length ∧
    (reached steps).stats.opened = (reached steps).stats.active + (reached steps).stats.closed := by
  have h := sound_reached steps
  refine ⟨fun c hc => ?_, fun key c d hkc hkd hnc hnd => ?_, rfl, ?_⟩
  · have hlt := (h.opened_mem_iff c).1 hc
    refine ⟨by rw [h.opened c, if_pos hlt], ?_, h.isLive_iff hlt, h.statusOf_ne_closed_iff hlt⟩
    rw [h.cancelled c]
    split_ifs <;> simp_all
  · obtain ⟨e, he, rfl⟩ := List.mem_map.1 (h.listed_of_not_cancelled (Registry.lt_of_keyOf? hkc) hnc)
    obtain ⟨f, hf, rfl⟩ := List.mem_map.1 (h.listed_of_not_cancelled (Registry.lt_of_keyOf? hkd) hnd)
    rw [h.key_eq e he] at hkc
    rw [h.key_eq f hf] at hkd
    rw [h.eq_of_key he hf (Option.some.inj (hkc.trans hkd.symm))]
  · exact h.balance.trans (Nat.add_comm ..)

end Consumers

end FleetFeed.Feed
