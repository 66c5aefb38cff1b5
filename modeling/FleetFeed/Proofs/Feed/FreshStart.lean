import FleetFeed.Proofs.Feed.Abridged

/-! After a clearing the registry starts anew. What was held before, guards, streams, bindings and sinks, reaches nothing
that is made afterwards, so a new registry would have answered every later step alike. -/
namespace FleetFeed.Feed

variable {ρ : Type}

namespace Consumers

/-! ### Nothing is watched that was not opened -/

theorem receivers_step (w : Consumers ρ) (s : Step ρ) :
    ∀ x ∈ (w.step s).1.receivers, x ∈ w.receivers ∨ ∃ g ∈ w.held, x = g.receiver := by
  intro x hx
  cases s with
  | watch i =>
    simp only [step] at hx
    cases hg : w.guard? i with
    | none => rw [hg] at hx; exact .inl hx
    | some g =>
      rw [hg] at hx
      rcases List.mem_append.1 hx with hx | hx
      · exact .inl hx
      · exact .inr ⟨g, mem_held_of_guard? hg, List.mem_singleton.1 hx⟩
  | giveBack i | pollGuard i | follow i =>
    simp only [step] at hx
    cases hg : w.guard? i <;> (rw [hg] at hx; exact .inl hx)
  | pollStream i =>
    simp only [step] at hx
    cases hu : w.streams[i]? <;> (rw [hu] at hx; exact .inl hx)
  | setKey i _ | pollBinding i | unbind i =>
    simp only [step] at hx
    cases hb : w.binding? i <;> (rw [hb] at hx; exact .inl hx)
  | _ => exact .inl hx

theorem streams_step (w : Consumers ρ) (s : Step ρ) :
    ∀ u ∈ (w.step s).1.streams, (∃ v ∈ w.streams, u.receiver.channel = v.receiver.channel) ∨
      ∃ g ∈ w.held, u.receiver.channel = g.receiver.channel := by
  intro u hu
  obtain ⟨i, hi⟩ := List.mem_iff_getElem?.1 hu
  cases stream_after hi with
  | begun hg => exact .inr ⟨_, mem_held_of_guard? hg, rfl⟩
  | looked h₀ => exact .inl ⟨_, List.mem_of_getElem? h₀, Updates.channel_poll _ _⟩
  | kept h₀ => exact .inl ⟨u, List.mem_of_getElem? h₀, rfl⟩

/-- Receivers and streams are of channels that were opened. -/
theorem watched_lt (steps : List (Step ρ)) :
    (∀ x ∈ (start.run steps).receivers, x.channel < (reached steps).channels.length) ∧
      ∀ u ∈ (start.run steps).streams, u.receiver.channel < (reached steps).channels.length := by
  induction steps using List.reverseRecOn with
  | nil => exact ⟨fun x hx => absurd hx List.not_mem_nil, fun u hu => absurd hu List.not_mem_nil⟩
  | append_singleton steps s ih =>
    have hle : (reached steps).channels.length ≤ (reached (steps ++ [s])).channels.length := by
      rw [reached, reached, run_concat, registry_step]
      exact Registry.length_le_performAll ..
    have hheld : ∀ g ∈ (start.run steps).held, g.receiver.channel < (reached steps).channels.length :=
      fun g hg => Registry.lt_of_keyOf? (issued_of_held steps g hg)
    rw [run_concat]
    refine ⟨fun x hx => Nat.lt_of_lt_of_le ?_ hle, fun u hu => Nat.lt_of_lt_of_le ?_ hle⟩
    · rcases receivers_step _ s x hx with hx | ⟨g, hg, rfl⟩
      · exact ih.1 x hx
      · exact hheld g hg
    · rcases streams_step _ s u hu with ⟨v, hv, hchannel⟩ | ⟨g, hg, hchannel⟩
      · rw [hchannel]
        exact ih.2 v hv
      · rw [hchannel]
        exact hheld g hg

/-! ### After a clearing -/

/-- Every key. -/
def anyKey (_ : String) : Bool := true

/-- What is made by the steps or later, and of the streams those that follow it. -/
def made (w : Consumers ρ) (steps : List (Step ρ)) : Kept :=
  w.keeping steps (w.registry.channels.length ≤ ·) (w.guards.length ≤ ·) (w.bindings.length ≤ ·)

section Cleared

variable (before after : List (Step ρ))

/-- The consumers after a clearing. -/
def cleared : Consumers ρ := start.run (before ++ [.clearAll])

theorem cleared_held {g : Guard} (hg : g ∈ (cleared before).held) :
    g.receiver.channel < (cleared before).registry.channels.length :=
  Registry.lt_of_keyOf? (issued_of_held (before ++ [Step.clearAll]) g hg)

/-- No channel that was opened before is kept, and no entry is there. -/
theorem registry_cleared : Registry.Excerpt anyKey ((cleared before).made after).channel (cleared before).registry
    Registry.empty := by
  have hs : (cleared before).registry.Sound := sound_reached (before ++ [Step.clearAll])
  have hentries : (cleared before).registry.entries = [] := by
    rw [cleared, run_concat]
    exact (sound_reached before).entries_clearAll
  have hjournal : (cleared before).registry.journal.filter (((cleared before).made after).channel ·.channel) = [] := by
    refine List.filter_eq_nil_iff.2 fun x hx => ?_
    have hlt : x.channel < (cleared before).registry.channels.length := by
      cases x with
      | opened c => exact (hs.opened_mem_iff c).1 hx
      | cancelled c => exact ((hs.cancelled_mem_iff c).1 hx).1
    simpa [made, keeping] using hlt
  exact {
    channels := .of_omitted fun c hc => by simpa [made, keeping] using hc
    entries := by rw [hentries]; rfl
    journal := by rw [hjournal]; rfl
    kept_eq := fun e he => absurd (hentries ▸ he) List.not_mem_nil }

theorem excerpt_cleared : Excerpt anyKey ((cleared before).made after) (cleared before) start where
  registry := registry_cleared before after
  guards := .of_omitted fun i hi => by simpa [made, keeping] using hi
  receivers := by
    have hnone : (cleared before).receivers.filter (((cleared before).made after).channel ·.channel) = [] := by
      refine List.filter_eq_nil_iff.2 fun x hx => ?_
      have hlt : x.channel < (cleared before).registry.channels.length :=
        (watched_lt (before ++ [Step.clearAll])).1 x hx
      simpa [made, keeping] using hlt
    rw [hnone]
    rfl
  streams := .of_omitted fun i hi => by
    have hu := List.getElem?_eq_getElem hi
    have hlt : (cleared before).streams[i].receiver.channel < (cleared before).registry.channels.length :=
      (watched_lt (before ++ [Step.clearAll])).2 _ (List.mem_of_getElem? hu)
    exact (keeping_stream [] after hu).trans (decide_eq_false (Nat.not_le.2 hlt))
  bindings := .of_omitted fun i hi => by simpa [made, keeping] using hi
  guard_marks i x hx g hg := by
    subst hg
    have hlt := cleared_held before (mem_held_of_guard? (Option.join_eq_some_iff.2 hx))
    have hi := (List.getElem?_eq_some_iff.1 hx).1
    refine ⟨?_, fun _ => rfl⟩
    simp only [made, keeping]
    rw [decide_eq_false (Nat.not_le.2 hlt), decide_eq_false (Nat.not_le.2 hi)]
  stream_marks i u hu := (keeping_stream [] after hu).symm
  binding_marks i x hx b g hb hg := by
    subst hb
    have hlt := cleared_held before (mem_held_of_binding? (Option.join_eq_some_iff.2 hx) hg)
    have hi := (List.getElem?_eq_some_iff.1 hx).1
    simp only [made, keeping]
    rw [decide_eq_false (Nat.not_le.2 hlt), decide_eq_false (Nat.not_le.2 hi)]
    rfl

end Cleared

theorem made_fits (w : Consumers ρ) {steps : List (Step ρ)}
    (hstill : ∀ i key, .setKey i key ∈ steps → i < w.bindings.length → Binding.usable key = none) :
    ∀ before s after, steps = before ++ s :: after → Fits anyKey (w.made steps) (w.run before) s := by
  rintro before s after rfl
  have hchannels := le_run (f := fun w : Consumers ρ => w.registry.channels.length)
    (fun w s => by rw [registry_step]; exact Registry.length_le_performAll ..) w before
  have hguards := le_run (f := fun w : Consumers ρ => w.guards.length)
    (fun w s => by rw [length_guards_step]; exact Nat.le_add_right ..) w before
  have hbindings := le_run (f := fun w : Consumers ρ => w.bindings.length) length_bindings_le w before
  exact {
    channel := fun c key hc _ => decide_eq_true (Nat.le_trans hchannels hc)
    guard := fun key o _ => decide_eq_true hguards
    stream := fun i g hs hg => by
      subst hs
      exact keeping_follow hg
    binding := fun o _ => decide_eq_true hbindings
    still := fun i key hs hi => by
      subst hs
      exact hstill i key (by simp) (Nat.not_le.1 (of_decide_eq_false hi)) }

/-- After a clearing the registry is like a new one. Of all that is done to it later take what concerns the channels that
are opened later, whatever guards and sinks of before do in between: a new registry opens and cancels the same by it,
operation by operation, and shows the same of every key and every channel. Consumers who hold nothing yet do just that
when they take the steps that concern what is made later, and are answered and shown the same; this presumes only that a
binding of before is not pointed at a key any more. -/
theorem clearing_starts_anew (before after : List (Step ρ)) :
    let w := cleared before
    let m := w.made after
    let ops := (w.history after).filterMap (Operation.narrow anyKey m.channel)
    let anew := after.filterMap (Step.narrow anyKey m)
    (Registry.empty.trail ops).map (fun d => (d.operation, d.effect)) =
      (w.registry.trail (w.history after)).filterMap (Deed.report anyKey m.channel) ∧
    (∀ key, Registry.SameFor key (w.run after).registry (Registry.empty.performAll ops)) ∧
    (Registry.empty.performAll ops).entries.length = (w.run after).registry.entries.length ∧
    (∀ c, m.channel c = true →
      Registry.Mirrors m.channel (w.run after).registry (Registry.empty.performAll ops) c) ∧
    ((∀ i key, .setKey i key ∈ after → i < w.bindings.length → Binding.usable key = none) →
      start.history anew = ops ∧
      start.exchanges anew = (w.exchanges after).filterMap (fun x => (x.1.narrow anyKey m).map (·, x.2)) ∧
      Shows m (w.run after) (start.run anew)) := by
  intro w m ops anew
  have hfits : ∀ d ∈ w.registry.trail (w.history after), d.Fits anyKey m.channel := fun d hd => {
    opens := fun key o hop hk =>
      decide_eq_true (Registry.keyOf?_of_opens hd hop hk).1
    gives := fun _ _ _ => rfl }
  have hcleared := registry_cleared before after
  have h : Registry.Excerpt anyKey m.channel (w.run after).registry (Registry.empty.performAll ops) := by
    rw [registry_run]
    exact hcleared.performAll hfits
  refine ⟨hcleared.report_trail hfits, fun key => h.sameFor rfl, ?_, fun c hc => h.mirrors hc, fun hstill => ?_⟩
  · rw [h.entries, List.length_map, List.filter_eq_self.2 fun e he => h.kept_eq e he]
  · have hrun := excerpt_cleared before after
    have hmade := made_fits w hstill
    exact ⟨hrun.history_narrow hmade, hrun.exchanges_eq hmade fun _ => rfl, (hrun.run hmade).shows⟩

/-- Two guards, a binding and two sinks outlive a clearing, and act on the same keys among the steps that follow it. -/
def leftovers : List (Step Nat) × List (Step Nat) :=
  ([.acquire "c1" ⟨[.event 1], []⟩, .acquire "c1" ⟨[], []⟩, .bind ⟨[], []⟩, .setKey 0 (some "c2")],
    [.acquire "c1" ⟨[], [.event 9]⟩, .giveBack 0, .push 0 (.event 2), .acquire "c1" ⟨[], []⟩, .push 2 (.event 3),
      .setKey 0 none, .giveBack 2, .letGo 1, .pollGuard 3, .giveBack 1, .release "c1", .pollGuard 3])

theorem leftovers_unseen :
    (∀ i key, .setKey i key ∈ leftovers.2 → i < (cleared leftovers.1).bindings.length → Binding.usable key = none) ∧
      start.exchanges (leftovers.2.filterMap (Step.narrow anyKey ((cleared leftovers.1).made leftovers.2))) =
        [(.acquire "c1" ⟨[], [.event 9]⟩, .done), (.acquire "c1" ⟨[], []⟩, .done), (.push 0 (.event 3), .done),
          (.giveBack 0, .flag true), (.pollGuard 1, .polled (.ready (.value 3))), (.release "c1", .flag true),
          (.pollGuard 1, .polled (.ready .closed))] := by
  have hstill : ∀ i key, .setKey i key ∈ leftovers.2 → i < (cleared leftovers.1).bindings.length →
      Binding.usable key = none := by
    intro i key hmem _
    obtain ⟨-, rfl⟩ : i = 0 ∧ key = none := by simpa [leftovers] using hmem
    rfl
  obtain ⟨-, -, -, -, hanew⟩ := clearing_starts_anew leftovers.1 leftovers.2
  obtain ⟨-, hexchanges, -⟩ := hanew hstill
  refine ⟨hstill, ?_⟩
  rw [hexchanges]
  decide

end Consumers

end FleetFeed.Feed
