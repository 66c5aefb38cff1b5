import FleetFeed.Proofs.Feed.Abridged
import FleetFeed.Proofs.Feed.HubMoves

/-! Keys do not interfere. What becomes of one key is what would have become of it if nothing had been done to any other,
clearings apart; and at a hub what becomes of one key of a topic. -/
namespace FleetFeed.Feed

open Event

variable {ρ : Type}

/-! ### Hubs -/

/-- What is asked for is the key of the topic. -/
def asks (c : Topic) (key : String) (t : Target) : Bool := (keyed t).any fun x => x.1.topic = c && x.2 = key

theorem keyed_of_asks {c : Topic} {key : String} {t : Target} (h : asks c key t = true) :
    ∃ t', keyed t = some (t', key) ∧ t'.topic = c := by
  obtain ⟨⟨t', k⟩, hk, hx⟩ := (Option.any_eq_true _ _).1 h
  obtain ⟨hc, rfl⟩ : t'.topic = c ∧ k = key := by simpa using hx
  exact ⟨t', hk, hc⟩

/-- The part of a step that concerns one key of a topic: its channels and its guards are kept. -/
def HubStep.narrow (c : Topic) (key : String) (channel guard : Nat → Bool) : HubStep → Option HubStep
  | .acquire t => if asks c key t then some (.acquire t) else none
  | .giveBack i => if guard i then some (.giveBack (rank guard i)) else none
  | .release d k => if d = c ∧ k = key then some (.release c key) else none
  | .poll i => if guard i then some (.poll (rank guard i)) else none
  | .event d n e => if d = c ∧ channel n then some (.event c (rank channel n) e) else none
  | .clearAll => some .clearAll

namespace Audience

/-- A guard that is kept is one of the key, and one of the topic is kept exactly if its channel is. -/
def Marks (c : Topic) (key : String) (channel guard : Nat → Bool) (a : Audience) : Prop :=
  Marked guard (fun k x => ∀ d g, x = some (d, g) →
    (k = true → d = c ∧ g.key = key) ∧ (d = c → channel g.receiver.channel = k)) a.guards

/-- The second audience has what is kept of one key of a topic. -/
structure Excerpt (c : Topic) (key : String) (channel guard : Nat → Bool) (a a' : Audience) : Prop where
  board : Board.Excerpt (· = key) channel (a.hub.boards c) (a'.hub.boards c)
  guards : Selects guard (Option.map fun x => (x.1, x.2.renumber channel)) a.guards a'.guards
  marks : Marks c key channel guard a

/-- What is kept fits what the step makes. -/
structure Fits (c : Topic) (key : String) (channel guard : Nat → Bool) (a : Audience) (s : HubStep) : Prop where
  channel : ∀ n k, (a.hub.registry c).channels.length ≤ n → ((a.step s).1.hub.registry c).keyOf? n = some k →
    channel n = decide (k = key)
  guard : ∀ t, s = .acquire t → guard a.guards.length = asks c key t

/-- A channel that is opened at the topic is kept exactly for the key. -/
theorem Fits.opens {key : String} {channel guard : Nat → Bool} {a : Audience} {t t' : Target}
    (hs : Fits t'.topic key channel guard a (.acquire t)) {k : String} (hk : keyed t = some (t', k))
    (habsent : (a.hub.boards t'.topic).registry.entry? k = none) :
    channel (a.hub.boards t'.topic).registry.channels.length = decide (k = key) := by
  refine hs.channel _ k (Nat.le_refl _) ?_
  simp only [Audience.step, Hub.acquire_of_keyed _ hk, Hub.registry, Hub.boards_withBoard_self,
    Board.acquire_of_absent habsent, Registry.acquire_of_absent habsent]
  exact Registry.keyOf?_openFor_self ..

/-- The steps, each with what it opened and cancelled of the topic. -/
def effects (c : Topic) (a : Audience) : List HubStep → List (HubStep × List Happening)
  | [] => []
  | s :: steps =>
    (s, ((a.step s).1.hub.registry c).journal.drop (a.hub.registry c).journal.length) :: (a.step s).1.effects c steps

namespace Excerpt

variable {c : Topic} {key : String} {channel guard : Nat → Bool} {a a' : Audience} {s : HubStep}

theorem guard?_eq (h : Excerpt c key channel guard a a') {i : Nat} (hi : guard i = true) :
    a'.guard? (rank guard i) = (a.guard? i).map fun x => (x.1, x.2.renumber channel) := by
  rw [guard?, h.guards.getElem?_eq i hi, guard?]
  cases a.guards[i]? <;> rfl

theorem kept_guard (h : Excerpt c key channel guard a a') {i : Nat} {d : Topic} {g : Guard} (hg : a.guard? i = some (d, g)) :
    (guard i = true → d = c ∧ g.key = key) ∧ (d = c → channel g.receiver.channel = guard i) :=
  h.marks i _ (Option.join_eq_some_iff.1 hg) d g rfl

/-- A step that both take does the same to what is kept of the topic. -/
theorem board_kept (h : Excerpt c key channel guard a a') (hs : Fits c key channel guard a s) {s' : HubStep}
    (hn : s.narrow c key channel guard = some s') :
    Board.Excerpt (· = key) channel ((a.step s).1.hub.boards c) ((a'.step s').1.hub.boards c) := by
  cases s with
  | acquire t =>
    obtain ⟨hasks, ⟨⟩⟩ := Option.ite_none_right_eq_some.1 hn
    obtain ⟨t', hk, rfl⟩ := keyed_of_asks hasks
    have hboard := h.board.acquire t' (hs.opens hk)
    rw [decide_eq_true rfl, if_pos rfl] at hboard
    simpa only [Audience.step, Hub.acquire_of_keyed _ hk, Hub.boards_withBoard_self] using hboard
  | giveBack i =>
    obtain ⟨hi, ⟨⟩⟩ := Option.ite_none_right_eq_some.1 hn
    simp only [Audience.step, h.guard?_eq hi]
    cases hg : a.guard? i with
    | none => exact h.board
    | some x =>
      obtain ⟨hkept, hchannel⟩ := h.kept_guard hg
      obtain ⟨rfl, hkey⟩ := hkept hi
      have hboard := h.board.giveBack x.1 fun _ => decide_eq_true hkey
      rw [hchannel rfl, hi, if_pos rfl] at hboard
      simpa only [Option.map_some, Hub.giveBack, Hub.boards_withBoard_self] using hboard
  | release d k =>
    obtain ⟨⟨rfl, rfl⟩, ⟨⟩⟩ := Option.ite_none_right_eq_some.1 hn
    have hboard := h.board.release d k
    rw [decide_eq_true rfl, if_pos rfl] at hboard
    simpa only [Audience.step, Hub.release, Hub.boards_withBoard_self] using hboard
  | poll i =>
    obtain ⟨hi, ⟨⟩⟩ := Option.ite_none_right_eq_some.1 hn
    simpa only [Audience.step, hub_poll] using h.board
  | event d n e =>
    obtain ⟨⟨rfl, hkept⟩, ⟨⟩⟩ := Option.ite_none_right_eq_some.1 hn
    have hboard := h.board.event n e
    rw [hkept, if_pos rfl] at hboard
    simpa only [Audience.step, Hub.event, Hub.boards_withBoard_self] using hboard
  | clearAll =>
    obtain rfl := Option.some.inj hn
    simpa only [Audience.step, Hub.boards_clearAll] using h.board.clearAll c

/-- A step that only the first takes does nothing to what is kept of the topic. -/
theorem board_omitted (h : Excerpt c key channel guard a a') (hs : Fits c key channel guard a s)
    (hn : s.narrow c key channel guard = none) :
    Board.Excerpt (· = key) channel ((a.step s).1.hub.boards c) (a'.hub.boards c) := by
  cases s with
  | acquire t =>
    have hasks := omitted_of_ite hn
    cases hk : keyed t with
    | none => simpa only [Audience.step, Hub.acquire_of_unkeyed _ hk] using h.board
    | some x =>
      obtain ⟨t', k⟩ := x
      simp only [Audience.step, Hub.acquire_of_keyed _ hk]
      by_cases hc : t'.topic = c
      · subst hc
        have hkey : decide (k = key) = false := by simpa [asks, hk] using hasks
        have hboard := h.board.acquire t' (hs.opens hk)
        rw [hkey, if_neg Bool.false_ne_true] at hboard
        rwa [Hub.boards_withBoard_self]
      · rw [Hub.boards_withBoard_of_ne _ hc]
        exact h.board
  | giveBack i =>
    have hi := omitted_of_ite hn
    simp only [Audience.step]
    cases hg : a.guard? i with
    | none => exact h.board
    | some x =>
      by_cases hd : x.1 = c
      · subst hd
        have hchannel := ((h.kept_guard hg).2 rfl).trans hi
        have hboard := h.board.giveBack x.1 (g := x.2) fun hc => absurd (hchannel.symm.trans hc) Bool.false_ne_true
        rw [hchannel, if_neg Bool.false_ne_true] at hboard
        simpa only [Hub.giveBack, Hub.boards_withBoard_self] using hboard
      · simp only [Hub.giveBack, Hub.boards_withBoard_of_ne _ hd]
        exact h.board
  | release d k =>
    by_cases hd : d = c
    · subst hd
      have hkey : decide (k = key) = false := by simpa [HubStep.narrow] using hn
      have hboard := h.board.release d k
      rw [hkey, if_neg Bool.false_ne_true] at hboard
      simpa only [Audience.step, Hub.release, Hub.boards_withBoard_self] using hboard
    · simp only [Audience.step, Hub.release, Hub.boards_withBoard_of_ne _ hd]
      exact h.board
  | poll i => simpa only [Audience.step, hub_poll] using h.board
  | event d n e =>
    by_cases hd : d = c
    · subst hd
      have hkept : channel n = false := by simpa [HubStep.narrow] using hn
      have hboard := h.board.event n e
      rw [hkept, if_neg Bool.false_ne_true] at hboard
      simpa only [Audience.step, Hub.event, Hub.boards_withBoard_self] using hboard
    · simp only [Audience.step, Hub.event, Hub.boards_withBoard_of_ne _ hd]
      exact h.board
  | clearAll => exact absurd hn (by simp [HubStep.narrow])

theorem guards_kept (h : Excerpt c key channel guard a a') (hs : Fits c key channel guard a s) {s' : HubStep}
    (hn : s.narrow c key channel guard = some s') :
    Selects guard (Option.map fun x => (x.1, x.2.renumber channel)) (a.step s).1.guards (a'.step s').1.guards := by
  cases s with
  | acquire t =>
    obtain ⟨hasks, ⟨⟩⟩ := Option.ite_none_right_eq_some.1 hn
    obtain ⟨t', hk, rfl⟩ := keyed_of_asks hasks
    have htaken := h.board.registry.taken_eq (decide_eq_true (Eq.refl key)) Board.quiet
    have hnext := h.guards.concat_kept ((hs.guard t rfl).trans hasks)
      (some (t.topic, ((a.hub.registry t'.topic).acquire key Board.quiet).2))
    simp only [Audience.step, Hub.acquire_of_keyed _ hk, Option.map_some]
    rw [Option.map_some] at hnext
    exact htaken ▸ hnext
  | giveBack i =>
    obtain ⟨hi, ⟨⟩⟩ := Option.ite_none_right_eq_some.1 hn
    simp only [Audience.step, h.guard?_eq hi]
    cases a.guard? i with
    | none => exact h.guards
    | some x => exact h.guards.set_kept hi none
  | poll i =>
    obtain ⟨hi, ⟨⟩⟩ := Option.ite_none_right_eq_some.1 hn
    simp only [Audience.step, Audience.poll, h.guard?_eq hi]
    cases hg : a.guard? i with
    | none => exact h.guards
    | some x =>
      obtain ⟨hkept, hchannel⟩ := h.kept_guard hg
      obtain ⟨rfl, -⟩ := hkept hi
      have hpoll := h.board.registry.poll_guard ((hchannel rfl).trans hi)
      have hnext := h.guards.set_kept hi (some (x.1, (x.2.poll (a.hub.registry x.1)).1))
      simp only [Option.map_some, Hub.registry, hpoll] at hnext ⊢
      exact hnext
  | release d k | event d n e =>
    obtain ⟨-, ⟨⟩⟩ := Option.ite_none_right_eq_some.1 hn
    exact h.guards
  | clearAll =>
    obtain rfl := Option.some.inj hn
    exact h.guards

theorem guards_omitted (h : Excerpt c key channel guard a a') (hs : Fits c key channel guard a s)
    (hn : s.narrow c key channel guard = none) :
    Selects guard (Option.map fun x => (x.1, x.2.renumber channel)) (a.step s).1.guards a'.guards := by
  cases s with
  | acquire t => exact h.guards.concat_omitted ((hs.guard t rfl).trans (omitted_of_ite hn)) _
  | giveBack i =>
    simp only [Audience.step]
    cases a.guard? i with
    | none => exact h.guards
    | some x => exact h.guards.set_omitted (omitted_of_ite hn) none
  | poll i =>
    simp only [Audience.step, Audience.poll]
    cases a.guard? i with
    | none => exact h.guards
    | some x => exact h.guards.set_omitted (omitted_of_ite hn) _
  | release d k | event d n e | clearAll => exact h.guards

theorem marks_step (h : Excerpt c key channel guard a a') (hs : Fits c key channel guard a s) :
    Marks c key channel guard (a.step s).1 := by
  have hmarks := h.marks
  cases s with
  | acquire t =>
    have hfresh := hs.guard t rfl
    simp only [Audience.step]
    refine hmarks.concat fun d g hg => ?_
    cases hk : keyed t with
    | none => exact absurd hg (by simp [Hub.acquire_of_unkeyed _ hk])
    | some x =>
      obtain ⟨t', k⟩ := x
      have htopic := topic_keyed hk
      have hasks : asks c key t = (decide (t'.topic = c) && decide (k = key)) := by rw [asks, hk]; rfl
      rw [Hub.acquire_of_keyed _ hk] at hg
      obtain ⟨rfl, rfl⟩ := Prod.mk.inj (Option.some.inj hg)
      rw [hfresh, hasks, Registry.key_acquire, ← htopic, Bool.and_eq_true, decide_eq_true_eq, decide_eq_true_eq]
      refine ⟨id, ?_⟩
      rintro rfl
      rw [decide_eq_true rfl, Bool.true_and]
      exact h.board.registry.kept_taken Board.quiet (hs.opens hk)
  | giveBack i =>
    simp only [Audience.step]
    cases a.guard? i with
    | none => exact hmarks
    | some x => exact hmarks.set fun d g hg => absurd hg (by simp)
  | poll i =>
    simp only [Audience.step, Audience.poll]
    cases hg : a.guard? i with
    | none => exact hmarks
    | some x =>
      refine hmarks.set fun d g hg' => ?_
      obtain ⟨rfl, rfl⟩ := Prod.mk.inj (Option.some.inj hg')
      rw [Guard.channel_poll]
      exact h.kept_guard hg
  | release d k | event d n e | clearAll => exact hmarks

/-- A step is taken by both or by the first alone, and the second go on having what is kept. -/
theorem step (h : Excerpt c key channel guard a a') (hs : Fits c key channel guard a s) :
    Excerpt c key channel guard (a.step s).1 (a'.run (s.narrow c key channel guard).toList) := by
  cases hn : s.narrow c key channel guard with
  | some s' => exact ⟨h.board_kept hs hn, h.guards_kept hs hn, h.marks_step hs⟩
  | none => exact ⟨h.board_omitted hs hn, h.guards_omitted hs hn, h.marks_step hs⟩

theorem run (h : Excerpt c key channel guard a a') {steps : List HubStep}
    (hfits : ∀ before s after, steps = before ++ s :: after → Fits c key channel guard (a.run before) s) :
    Excerpt c key channel guard (a.run steps) (a'.run (steps.filterMap (HubStep.narrow c key channel guard))) := by
  induction steps generalizing a a' with
  | nil => exact h
  | cons s steps ih =>
    have hnext := ih (h.step (hfits [] s steps rfl)) fun xs s' ys he => hfits (s :: xs) s' ys (by rw [he]; rfl)
    rw [List.filterMap_cons]
    cases hn : s.narrow c key channel guard <;> (rw [hn] at hnext; exact hnext)

/-- Step by step, the same is opened and cancelled. -/
theorem effects_eq (h : Excerpt c key channel guard a a') {steps : List HubStep}
    (hfits : ∀ before s after, steps = before ++ s :: after → Fits c key channel guard (a.run before) s) :
    a'.effects c (steps.filterMap (HubStep.narrow c key channel guard)) =
      (a.effects c steps).filterMap fun x => (x.1.narrow c key channel guard).map
        (·, (x.2.filter (channel ·.channel)).map (Happening.renumber channel)) := by
  induction steps generalizing a a' with
  | nil => rfl
  | cons s steps ih =>
    have hstep := h.step (hfits [] s steps rfl)
    have hnext := ih hstep fun xs s' ys he => hfits (s :: xs) s' ys (by rw [he]; rfl)
    have hgrowth := h.board.registry.journal_growth hstep.board.registry (a.follows_step s c).journal
    rw [List.filterMap_cons, effects, List.filterMap_cons]
    cases hn : s.narrow c key channel guard with
    | none =>
      rw [hn] at hnext
      exact hnext
    | some s' =>
      rw [hn] at hnext hgrowth
      simp only [Option.map_some, effects]
      exact congrArg₂ List.cons (congrArg (Prod.mk s') hgrowth) hnext

end Excerpt

/-! ### One key of a topic -/

section Alone

variable (a : Audience) (steps : List HubStep) (c : Topic) (key : String)

/-- The channels that were opened for the key. -/
def channelsOf (n : Nat) : Bool := ((a.run steps).hub.registry c).keyOf? n = some key

/-- What the guards were asked for, in their order. -/
def asked : List Target := steps.filterMap HubStep.target?

/-- The guards that were taken of the key. -/
def guardsOf (i : Nat) : Bool := ((asked steps)[i]?).any (asks c key)

theorem length_guards_run : (a.run steps).guards.length = a.guards.length + (asked steps).length := by
  induction steps generalizing a with
  | nil => rfl
  | cons s steps ih =>
    have hrun := ih (a.step s).1
    rw [length_guards_step] at hrun
    refine hrun.trans ?_
    rw [asked, asked, List.filterMap_cons]
    cases s.target? with
    | none => simp
    | some t => simp only [Option.toList_some, List.length_cons, List.length_nil]; omega

end Alone

theorem fits_of_key (url : Url) (steps : List HubStep) (c : Topic) (key : String) :
    ∀ before s after, steps = before ++ s :: after →
      Fits c key (channelsOf (.of (.new url)) steps c key) (guardsOf steps c key) ((of (.new url)).run before) s := by
  rintro before s after rfl
  constructor
  · intro n k _ hk
    have hlater := (follows_run (((of (.new url)).run before).step s).1 after c).keyOf? hk
    have hfinal : ((of (.new url)).run (before ++ s :: after)).hub.registry c =
        (((((of (.new url)).run before).step s).1.run after).hub.boards c).registry := by
      rw [run, List.foldl_append]
      rfl
    rw [channelsOf, hfinal, hlater]
    simp
  · intro t hs
    subst hs
    have hlength := length_guards_run (of (.new url)) before
    have hasked : asked (before ++ .acquire t :: after) = asked before ++ t :: asked after := by
      rw [asked, List.filterMap_append, List.filterMap_cons]
      rfl
    have hzero : (of (.new url)).guards.length = 0 := rfl
    rw [hlength, hzero, Nat.zero_add, guardsOf, hasked, List.getElem?_append_right (Nat.le_refl _), Nat.sub_self]
    rfl

theorem excerpt_new (url : Url) (c : Topic) (key : String) (channel guard : Nat → Bool) :
    Excerpt c key channel guard (of (.new url)) (of (.new url)) where
  board := ⟨rfl, .refl_empty, .nil, rfl⟩
  guards := .nil
  marks := .nil

end Audience

/-! ### Registries -/

namespace Consumers

/-- The keys of which guards were acquired, in the order of the guards. -/
def acquired (steps : List (Step ρ)) : List String := steps.filterMap Step.acquired?

/-- The channels, guards and streams of one key. Every binding is kept, for it may be pointed at the key. -/
def about (key : String) (steps : List (Step ρ)) : Kept :=
  start.keeping steps ((reached steps).keyOf? · = some key) (fun i => (acquired steps)[i]? = some key) fun _ => true

theorem length_guards_run (steps : List (Step ρ)) : (start.run steps).guards.length = (acquired steps).length := by
  induction steps using List.reverseRecOn with
  | nil => rfl
  | append_singleton steps s ih =>
    rw [run_concat, length_guards_step, ih, acquired, acquired, List.filterMap_append, List.length_append]
    cases hs : s.acquired? <;> simp [hs]

theorem about_fits (key : String) (steps : List (Step ρ)) :
    ∀ before s after, steps = before ++ s :: after → Fits (· = key) (about key steps) (start.run before) s := by
  rintro before s after rfl
  constructor
  · intro c k _ hk
    have hfinal : reached (before ++ s :: after) =
        ((start.run before).step s).1.registry.performAll (((start.run before).step s).1.history after) := by
      rw [reached, run_append, ← registry_run]
      rfl
    have hlater := Registry.keyOf?_performAll hk (((start.run before).step s).1.history after)
    simp [about, keeping, hfinal, hlater]
  · intro k o hs
    subst hs
    have hacquired : acquired (before ++ .acquire k o :: after) = acquired before ++ k :: acquired after := by
      rw [acquired, List.filterMap_append, List.filterMap_cons]
      rfl
    simp [about, keeping, length_guards_run, hacquired]
  · intro i g hs hg
    subst hs
    exact keeping_follow hg
  · exact fun _ _ => rfl
  · exact fun _ _ _ hfalse => absurd hfalse (by simp [about, keeping])

theorem excerpt_start (K : String → Bool) (m : Kept) : Excerpt K m (start : Consumers ρ) start where
  registry := .refl_empty
  guards := .nil
  receivers := rfl
  streams := .nil
  bindings := .nil
  guard_marks := .nil
  stream_marks := .nil
  binding_marks := .nil

end Consumers

/-! ### Nothing else matters to a key -/

/-- Leave out of a run all that does not concern a key. What is left opens and cancels the same channels of the key,
operation by operation, and in the end shows the same of the key, of each of its channels and through each of its guards,
streams and receivers. At a hub the same holds of a key of a topic, whose links go on as they did. -/
theorem keys_are_independent :
    (∀ (steps : List (Step ρ)) (key : String),
      let m := Consumers.about key steps
      let alone := steps.filterMap (Step.narrow (· = key) m)
      (Consumers.trail alone).map (fun d => (d.operation, d.effect)) =
        (Consumers.trail steps).filterMap (Deed.report (· = key) m.channel) ∧
      Registry.SameFor key (Consumers.reached steps) (Consumers.reached alone) ∧
      (∀ c, m.channel c = true → Registry.Mirrors m.channel (Consumers.reached steps) (Consumers.reached alone) c) ∧
      Consumers.Shows m (Consumers.start.run steps) (Consumers.start.run alone)) ∧
    ∀ (url : Url) (steps : List HubStep) (c : Topic) (key : String),
      let start := Audience.of (.new url)
      let channel := start.channelsOf steps c key
      let guard := Audience.guardsOf steps c key
      let alone := steps.filterMap (HubStep.narrow c key channel guard)
      let a := start.run steps
      let a' := start.run alone
      start.effects c alone = (start.effects c steps).filterMap (fun x => (x.1.narrow c key channel guard).map
        (·, (x.2.filter (channel ·.channel)).map (Happening.renumber channel))) ∧
      Registry.SameFor key (a.hub.registry c) (a'.hub.registry c) ∧
      (∀ n, channel n = true → Registry.Mirrors channel (a.hub.registry c) (a'.hub.registry c) n ∧
        (a'.hub.boards c).links[rank channel n]? = (a.hub.boards c).links[n]?) ∧
      ∀ i, guard i = true →
        a'.guard? (rank guard i) = (a.guard? i).map (fun x => (x.1, x.2.renumber channel)) ∧
        ∀ d g, a.guard? i = some (d, g) → d = c ∧ g.key = key ∧
          (g.renumber channel).current (a'.hub.registry c) = g.current (a.hub.registry c) ∧
          (g.renumber channel).latest (a'.hub.registry c) = g.latest (a.hub.registry c) ∧
          ((g.renumber channel).poll (a'.hub.registry c)).2 = (g.poll (a.hub.registry c)).2 := by
  constructor
  · intro steps key m alone
    have hfits := Consumers.about_fits key steps
    have hstart : Consumers.Excerpt (· = key) m (Consumers.start : Consumers ρ) _ := Consumers.excerpt_start _ m
    have hrun := hstart.run hfits
    exact ⟨hstart.reports_eq hfits, hrun.registry.sameFor (decide_eq_true rfl), fun c hc => hrun.registry.mirrors hc,
      hrun.shows⟩
  · intro url steps c key start channel guard alone a a'
    have hfits := Audience.fits_of_key url steps c key
    have hstart := Audience.excerpt_new url c key channel guard
    have hrun := hstart.run hfits
    have hregistry := hrun.board.registry
    refine ⟨hstart.effects_eq hfits, hregistry.sameFor (decide_eq_true rfl),
      fun n hn => ⟨hregistry.mirrors hn, hrun.board.link_eq hn⟩, fun i hi => ⟨hrun.guard?_eq hi, fun d g hg => ?_⟩⟩
    obtain ⟨hkept, hchannel⟩ := hrun.kept_guard hg
    obtain ⟨rfl, hkey⟩ := hkept hi
    have hc := (hchannel rfl).trans hi
    have hcurrent : (g.renumber channel).current (a'.hub.registry d) = g.current (a.hub.registry d) :=
      hregistry.statusOf_eq hc
    have hpoll : (g.renumber channel).poll (a'.hub.registry d) = _ := hregistry.poll_guard hc
    exact ⟨rfl, hkey, hcurrent, congrArg Status.value? hcurrent, by rw [hpoll]; rfl⟩

end FleetFeed.Feed
