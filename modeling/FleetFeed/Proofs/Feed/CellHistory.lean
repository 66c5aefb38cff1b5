import FleetFeed.Proofs.Feed.LastWrite

/-! The states that a cell takes, in order: it is opened pending, every call that lands writes it once, and its end is the
last write of all. A cell counts its writes, and its count says where in this list it stands. -/
namespace FleetFeed.Feed

variable {ρ : Type}

/-- The call lands in the cell of the channel. -/
def Call.landsOn (c : Nat) (x : Call ρ) : Bool := x.channel = c && x.inTime

namespace Registry

/-! ### How often a cell is written -/

theorem versionOf_congr {r s : Registry ρ} {c : Nat} (h : r.channels[c]? = s.channels[c]?) :
    r.versionOf c = s.versionOf c := by
  rw [versionOf, versionOf, h]

/-- A change of one cell that counts one write, or none. -/
theorem versionOf_onChannel {r : Registry ρ} {d : Nat} (hd : d < r.channels.length) (c n : Nat)
    {f : Channel ρ → Channel ρ} (hf : ∀ ch, (f ch).version = ch.version + n) :
    (r.onChannel d f).versionOf c = r.versionOf c + if d = c then n else 0 := by
  rw [versionOf, channels_onChannel]
  split
  case isTrue hdc =>
    subst hdc
    rw [versionOf, List.getElem?_eq_getElem hd]
    exact hf _
  case isFalse => rfl

theorem lt_of_accepts {r : Registry ρ} {c : Nat} (h : r.accepts c = true) : c < r.channels.length := by
  rw [accepts_eq] at h
  by_contra hge
  rw [List.getElem?_eq_none (Nat.le_of_not_lt hge)] at h
  exact absurd h (by simp)

theorem versionOf_push (r : Registry ρ) (c d : Nat) (p : Push ρ) :
    (r.push d p).versionOf c = r.versionOf c + if d = c ∧ r.accepts d then 1 else 0 := by
  cases hd : r.accepts d with
  | false =>
    rw [push_of_refuses hd]
    simp [versionOf]
  | true =>
    have hwrite : (r.push d p).versionOf c = (r.onChannel d (·.writes [p])).versionOf c := by
      rw [push_of_accepts hd]
      rfl
    rw [hwrite, versionOf_onChannel (lt_of_accepts hd) c 1 fun _ => rfl]
    simp

theorem versionOf_remove {r : Registry ρ} {e : Entry} (he : e.channel < r.channels.length) (c : Nat) :
    (r.remove e).versionOf c + r.journal.count (.cancelled c) =
      r.versionOf c + (r.remove e).journal.count (.cancelled c) := by
  have hversion := versionOf_onChannel he c 1 (f := Channel.ended) fun _ => rfl
  have hwrite : (r.remove e).versionOf c = (r.onChannel e.channel Channel.ended).versionOf c := by
    rw [remove_eq]
    rfl
  have hjournal : (r.remove e).journal = r.journal ++ [.cancelled e.channel] := by rw [remove_eq]
  rw [hwrite, hversion, hjournal, List.count_append, List.count_singleton]
  simp only [beq_iff_eq, Happening.cancelled.injEq]
  omega

@[simp] theorem versionOf_letGo (r : Registry ρ) (c d : Nat) : (r.letGo d).versionOf c = r.versionOf c := by
  rw [versionOf, letGo, channels_onChannel]
  split
  case isTrue => simp [versionOf, Function.comp_def]
  case isFalse => rfl

theorem countP_landsOn_of_late {xs : List (Call ρ)} (hxs : ∀ x ∈ xs, x.inTime = false) (c : Nat) :
    xs.countP (Call.landsOn c) = 0 :=
  List.countP_eq_zero.2 fun x hx => by simp [Call.landsOn, hxs x hx]

/-- The cell of a channel that has just been opened counts what its open function brought. -/
theorem Sound.versionOf_openFor {r : Registry ρ} (h : r.Sound) (key : String) (o : Opening ρ) (c : Nat) :
    (r.openFor key o).versionOf c =
      r.versionOf c + ((r.addChannel key o.late).callsOn r.channels.length o.early).countP (Call.landsOn c) := by
  rcases Nat.lt_trichotomy c r.channels.length with hc | rfl | hc
  · have hnone : ((r.addChannel key o.late).callsOn r.channels.length o.early).countP (Call.landsOn c) = 0 := by
      refine List.countP_eq_zero.2 fun x hx => ?_
      simp [Call.landsOn, (mem_callsOn hx).1, Nat.ne_of_gt hc]
    rw [hnone]
    exact versionOf_congr (List.getElem?_append_left hc)
  · have hall : ((r.addChannel key o.late).callsOn r.channels.length o.early).countP
        (Call.landsOn r.channels.length) = o.early.length := by
      rw [← length_callsOn (r.addChannel key o.late) r.channels.length o.early, List.countP_eq_length]
      intro x hx
      simp [Call.landsOn, (mem_callsOn hx).1, (h.inTime_of_mem_early hx).1]
    rw [hall, versionOf, versionOf, Registry.openFor, List.getElem?_concat_length, List.getElem?_eq_none (Nat.le_refl _),
      Channel.writes_eq]
    rfl
  · have hnone : ((r.addChannel key o.late).callsOn r.channels.length o.early).countP (Call.landsOn c) = 0 := by
      refine List.countP_eq_zero.2 fun x hx => ?_
      simp [Call.landsOn, (mem_callsOn hx).1, Nat.ne_of_lt hc]
    rw [hnone]
    refine versionOf_congr ?_
    rw [Registry.openFor, List.getElem?_eq_none (by simp; omega), List.getElem?_eq_none (Nat.le_of_lt hc)]

/-- A cell counts the calls that land in it, and its end. -/
theorem Sound.versionOf_perform {r : Registry ρ} (h : r.Sound) (op : Operation ρ) (c : Nat) :
    (r.perform op).versionOf c + r.journal.count (.cancelled c) =
      r.versionOf c + (r.calls op).countP (Call.landsOn c) + (r.perform op).journal.count (.cancelled c) := by
  have hout := r.outcome_perform op
  generalize r.perform op = s at hout ⊢
  cases hout with
  | joined hk => rw [calls_of_present hk]; rfl
  | @opened key o hk =>
    have hjournal : (r.openFor key o).journal.count (.cancelled c) = r.journal.count (.cancelled c) := by
      rw [Registry.openFor, List.count_append]
      simp
    rw [calls_of_absent hk, hjournal, h.versionOf_openFor]
  | @hit _ e he =>
    have hmem := (entry?_spec (entry?_of_hit he)).1
    rw [calls_of_hit he, dropRef_eq, dropCalls]
    split
    case isTrue =>
      rw [countP_landsOn_of_late fun x hx => (late_of_mem_lateCalls hx).2.2.1, Nat.add_zero]
      exact versionOf_remove (lt_of_keyOf? (h.key_eq e hmem)) c
    case isFalse => rfl
  | missedGuard he => rw [calls, he]; rfl
  | missedKey he => rw [calls, he]; rfl
  | cleared =>
    rw [calls, countP_landsOn_of_late fun x hx => (accepts_of_mem_clearCalls hx).1, Nat.add_zero]
    refine (h.clearAll_induction (P := fun s => s.versionOf c + r.journal.count (.cancelled c) =
      r.versionOf c + s.journal.count (.cancelled c)) rfl fun s e hs he ih => ?_).2.2
    have := versionOf_remove (lt_of_keyOf? (hs.key_eq e he)) c
    omega
  | pushed d p =>
    have hlands : [(⟨r, d, p⟩ : Call ρ)].countP (Call.landsOn c) = if d = c ∧ r.accepts d then 1 else 0 := by
      have hmem : Call.mk r d p ∈ r.calls (.push d p) := List.mem_singleton_self _
      have htime := h.accepts_of_mem_calls hmem
      rw [List.countP_singleton]
      simp only [Call.landsOn, ← htime, Bool.and_eq_true, decide_eq_true_eq]
    rw [versionOf_push, calls, hlands, journal_push]
  | letGo d =>
    rw [versionOf_letGo]
    rfl

/-! ### What a call finds -/

theorem journal_subset_found_clearCalls {es : List Entry} {r : Registry ρ} {x : Call ρ} (hx : x ∈ r.clearCalls es) :
    r.journal ⊆ x.found.journal := by
  induction es generalizing r with
  | nil => exact absurd hx List.not_mem_nil
  | cons e es ih =>
    rcases List.mem_append.1 hx with hx | hx
    · rw [(late_of_mem_lateCalls hx).2.1]
      exact List.subset_append_left ..
    · exact List.Subset.trans (r.journal_subset_remove e) (ih hx)

/-- A call finds all that happened before the operation that makes it. -/
theorem journal_subset_found {r : Registry ρ} {op : Operation ρ} {x : Call ρ} (hx : x ∈ r.calls op) :
    r.journal ⊆ x.found.journal := by
  obtain ⟨key, o, -, -, hearly⟩ | ⟨e, -, -, hlate⟩ | ⟨-, hclear⟩ | ⟨-, hfound⟩ := mem_calls hx
  · rw [(mem_callsOn hearly).2.1]
    exact List.subset_append_left ..
  · rw [(late_of_mem_lateCalls hlate).2.1]
    exact List.subset_append_left ..
  · exact journal_subset_found_clearCalls hclear
  · rw [hfound]
    exact List.Subset.refl _

theorem journal_subset_found_trail {r : Registry ρ} {ops : List (Operation ρ)} {x : Call ρ}
    (hx : x ∈ (r.trail ops).flatMap Deed.calls) : r.journal ⊆ x.found.journal := by
  induction ops generalizing r with
  | nil => exact absurd hx List.not_mem_nil
  | cons op ops ih =>
    rcases List.mem_append.1 hx with hx | hx
    · exact journal_subset_found hx
    · exact List.Subset.trans (r.journal_subset_perform op) (ih hx)

/-- Over a whole history, too. -/
theorem versionOf_performAll (ops : List (Operation ρ)) (c : Nat) :
    ((empty : Registry ρ).performAll ops).versionOf c = ((empty.trail ops).flatMap Deed.calls).countP (Call.landsOn c) +
      ((empty : Registry ρ).performAll ops).journal.count (.cancelled c) := by
  induction ops using List.reverseRecOn with
  | nil => rfl
  | append_singleton ops op ih =>
    have hstep := (sound_performAll ops).versionOf_perform op c
    rw [performAll_concat, trail_concat, List.flatMap_append, List.flatMap_singleton, List.countP_append]
    simp only [Deed.calls]
    omega

/-! ### Who can still write -/

theorem held_onChannel {r : Registry ρ} {d c : Nat} {f : Channel ρ → Channel ρ} (hf : ∀ ch, (f ch).held = ch.held)
    {ch : Channel ρ} (hc : (r.onChannel d f).channels[c]? = some ch) :
    ∃ ch₀, r.channels[c]? = some ch₀ ∧ ch₀.held = ch.held := by
  rw [channels_onChannel] at hc
  split at hc
  case isTrue =>
    obtain ⟨ch₀, h₀, rfl⟩ := Option.map_eq_some_iff.1 hc
    exact ⟨ch₀, h₀, (hf ch₀).symm⟩
  case isFalse => exact ⟨ch, hc, rfl⟩

theorem held_remove {r : Registry ρ} {e : Entry} {c : Nat} {ch : Channel ρ}
    (hc : (r.remove e).channels[c]? = some ch) : ∃ ch₀, r.channels[c]? = some ch₀ ∧ ch₀.held = ch.held := by
  rw [remove_eq] at hc
  exact held_onChannel (f := Channel.ended) (fun _ => rfl) hc

/-- Nobody else lets go of a cell. -/
theorem Sound.held_perform {r : Registry ρ} (h : r.Sound) {op : Operation ρ} {c : Nat} {ch : Channel ρ}
    (hc : (r.perform op).channels[c]? = some ch) (hheld : ch.held = false) :
    (op = .letGo c ∧ c < r.channels.length) ∨ ∃ ch₀, r.channels[c]? = some ch₀ ∧ ch₀.held = false := by
  have hkept : (∃ ch₀, r.channels[c]? = some ch₀ ∧ ch₀.held = ch.held) →
      ∃ ch₀, r.channels[c]? = some ch₀ ∧ ch₀.held = false := fun ⟨ch₀, h₀, heq⟩ => ⟨ch₀, h₀, heq.trans hheld⟩
  have hout := r.outcome_perform op
  generalize r.perform op = s at hout hc
  cases hout with
  | joined | missedGuard | missedKey => exact .inr ⟨ch, hc, hheld⟩
  | opened =>
    rcases channels_openFor hc with ⟨-, hold⟩ | ⟨-, rfl⟩
    · exact .inr ⟨ch, hold, hheld⟩
    · rw [Channel.writes_eq] at hheld
      exact absurd hheld (by simp [Channel.fresh])
  | hit =>
    rw [dropRef_eq] at hc
    split at hc
    case isTrue => exact .inr (hkept (held_remove hc))
    case isFalse => exact .inr ⟨ch, hc, hheld⟩
  | cleared =>
    have hall := h.clearAll_induction (P := fun s => ∀ ch, s.channels[c]? = some ch →
      ∃ ch₀, r.channels[c]? = some ch₀ ∧ ch₀.held = ch.held) (fun ch hch => ⟨ch, hch, rfl⟩) fun s e _ _ ih ch hch => by
        obtain ⟨ch₁, h₁, heq₁⟩ := held_remove hch
        obtain ⟨ch₀, h₀, heq₀⟩ := ih ch₁ h₁
        exact ⟨ch₀, h₀, heq₀.trans heq₁⟩
    exact .inr (hkept (hall.2.2 ch hc))
  | pushed d p =>
    cases hd : r.accepts d with
    | false => rw [push_of_refuses hd] at hc; exact .inr ⟨ch, hc, hheld⟩
    | true =>
      rw [push_of_accepts hd] at hc
      exact .inr (hkept (held_onChannel (f := (·.writes [p])) (fun _ => rfl) hc))
  | letGo d =>
    rw [Registry.letGo, channels_onChannel] at hc
    split at hc
    case isTrue hdc =>
      obtain ⟨ch₀, h₀, -⟩ := Option.map_eq_some_iff.1 hc
      exact .inl ⟨by rw [hdc], (List.getElem?_eq_some_iff.1 h₀).1⟩
    case isFalse => exact .inr ⟨ch, hc, hheld⟩

/-- A cell that nobody outside the registry can write to was let go of. -/
theorem letGo_of_not_held {ops : List (Operation ρ)} {c : Nat} {ch : Channel ρ}
    (hc : ((empty : Registry ρ).performAll ops).channels[c]? = some ch) (hheld : ch.held = false) :
    ∃ d ∈ (empty : Registry ρ).trail ops, d.operation = .letGo c ∧ .opened c ∈ d.found.journal := by
  induction ops using List.reverseRecOn generalizing ch with
  | nil => exact absurd hc (by simp [empty])
  | append_singleton ops op ih =>
    have hs : ((empty : Registry ρ).performAll ops).Sound := sound_performAll ops
    rw [performAll_concat] at hc
    rw [trail_concat]
    rcases hs.held_perform hc hheld with ⟨rfl, hlt⟩ | ⟨ch₀, h₀, hheld₀⟩
    · exact ⟨_, List.mem_append_right _ (List.mem_singleton_self _), rfl, (hs.opened_mem_iff c).2 hlt⟩
    · obtain ⟨d, hd, hop⟩ := ih h₀ hheld₀
      exact ⟨d, List.mem_append_left _ hd, hop⟩

end Registry

namespace Consumers

/-- The states that the cell of a channel takes in the course of some steps. -/
def took (steps : List (Step ρ)) (c : Nat) : List (Status ρ) :=
  .pending :: (((calls steps).filter (Call.landsOn c)).map (·.push.status) ++
    if .cancelled c ∈ (reached steps).journal then [.closed] else [])

/-- The writes of a cell are told by its version. -/
theorem length_took (steps : List (Step ρ)) (c : Nat) : (took steps c).length = (reached steps).versionOf c + 1 := by
  have hversion := Registry.versionOf_performAll (start.history steps) c
  rw [← reached_eq_performAll] at hversion
  have hcancelled := (sound_reached steps).cancelled c
  have hmem := (sound_reached steps).cancelled_mem_iff c
  rw [hversion, took, List.length_cons, List.length_append, List.length_map, ← List.countP_eq_length_filter, hcancelled]
  simp only [hmem]
  split <;> rfl

/-- A cell shows the last state that it took. -/
theorem getLast?_took {steps : List (Step ρ)} {c : Nat} (hc : c < (reached steps).channels.length) :
    (took steps c).getLast? = some ((reached steps).statusOf c) := by
  have hs := sound_reached steps
  by_cases hl : (reached steps).Listed c
  · have hnot : .cancelled c ∉ (reached steps).journal := fun hmem => ((hs.cancelled_mem_iff c).1 hmem).2 hl
    have hlast : (calls steps).filter (fun x => x.channel = c && x.isOpened) = (calls steps).filter (Call.landsOn c) := by
      refine List.filter_congr fun x hx => ?_
      have hlate : x.channel = c → x.isLate = false := fun hxc => by
        rw [Call.isLate, hxc, decide_eq_false_iff_not]
        exact fun hmem => hnot ((written_reached steps).found_subset x hx hmem)
      by_cases hxc : x.channel = c <;> simp [Call.landsOn, Call.inTime, hxc, hlate]
    rw [(written_reached steps).shows c hl, Registry.lastOn, hlast, took, if_neg hnot, List.append_nil, List.getLast?_cons,
      List.getLast?_map, Option.map_map]
    rfl
  · have hcancelled := (hs.cancelled_mem_iff c).2 ⟨hc, hl⟩
    have hclosed : (reached steps).statusOf c = .closed := by
      rw [← hs.statusOf_ne_closed_iff hc, not_not] at hl
      exact hl
    rw [hclosed, took, if_pos hcancelled, ← List.cons_append, List.getLast?_concat]

theorem journal_subset_append (steps more : List (Step ρ)) :
    (reached steps).journal ⊆ (reached (steps ++ more)).journal := by
  rw [reached_append]
  exact Registry.performAll_induction (P := fun r => (reached steps).journal ⊆ r.journal) (List.Subset.refl _)
    (fun r op h => List.Subset.trans h (r.journal_subset_perform op)) _

theorem calls_append (steps more : List (Step ρ)) :
    calls (steps ++ more) = calls steps ++ ((reached steps).trail ((start.run steps).history more)).flatMap Deed.calls := by
  rw [calls, trail, history_append, Registry.trail_append, ← reached_eq_performAll, List.flatMap_append]
  rfl

/-- What a cell took stays its past. -/
theorem took_grows (steps more : List (Step ρ)) (c : Nat) : took steps c <+: took (steps ++ more) c := by
  rw [took, took, calls_append, List.filter_append, List.map_append]
  by_cases hc : .cancelled c ∈ (reached steps).journal
  · -- nothing lands any more
    have hnone : (((reached steps).trail ((start.run steps).history more)).flatMap Deed.calls).filter
        (Call.landsOn c) = [] := by
      refine List.filter_eq_nil_iff.2 fun x hx => ?_
      have hlate := Registry.journal_subset_found_trail hx hc
      simp only [Call.landsOn, Bool.and_eq_true, decide_eq_true_eq, not_and, Bool.not_eq_true]
      intro hxc
      simp [Call.inTime, Call.isLate, hxc, hlate]
    simp only [if_pos hc, if_pos (journal_subset_append steps more hc), hnone, List.map_nil, List.append_nil,
      List.prefix_refl]
  · rw [if_neg hc, List.append_nil, List.append_assoc]
    exact List.cons_prefix_cons.2 ⟨rfl, List.prefix_append ..⟩

/-- Only the end of a channel closes its cell. -/
theorem cancelled_of_closed_mem_took {steps : List (Step ρ)} {c : Nat} (h : .closed ∈ took steps c) :
    .cancelled c ∈ (reached steps).journal := by
  by_contra hc
  rw [took, if_neg hc, List.append_nil, List.mem_cons] at h
  rcases h with h | h
  · exact absurd h (by simp)
  · obtain ⟨x, -, hx⟩ := List.mem_map.1 h
    exact x.push.status_ne_closed hx

theorem took_mono {xs ys : List (Step ρ)} (h : xs <+: ys) (c : Nat) : took xs c <+: took ys c := by
  obtain ⟨more, rfl⟩ := h
  exact took_grows xs more c

/-- A cell is gone when its channel was ended and its last holder has let go. -/
theorem ended_of_isGone {steps : List (Step ρ)} {c : Nat} (hc : c < (reached steps).channels.length)
    (h : (reached steps).isGone c = true) :
    .cancelled c ∈ (reached steps).journal ∧
      ∃ d ∈ trail steps, d.operation = .letGo c ∧ .opened c ∈ d.found.journal := by
  simp only [Registry.isGone, Bool.and_eq_true, Bool.not_eq_true', Bool.eq_false_iff] at h
  obtain ⟨hlisted, hheld⟩ := h
  have hl : ¬ (reached steps).Listed c := fun hl => by
    obtain ⟨e, he, hec⟩ := List.mem_map.1 hl
    exact hlisted (List.any_eq_true.2 ⟨e, he, decide_eq_true hec⟩)
  refine ⟨((sound_reached steps).cancelled_mem_iff c).2 ⟨hc, hl⟩, ?_⟩
  obtain ⟨ch, hch⟩ : ∃ ch, (reached steps).channels[c]? = some ch := ⟨_, List.getElem?_eq_getElem hc⟩
  rw [hch] at hheld
  rw [reached_eq_performAll] at hch
  exact Registry.letGo_of_not_held hch (by simpa using hheld)

end Consumers

end FleetFeed.Feed
