import FleetFeed.Proofs.Feed.BoardMoves

/-! What a step at a hub does at one topic, and what a run makes of one channel there. Of all that happens at the hub only the
events of its own socket reach a channel, and its cell shows what its link delivers on them. -/
namespace FleetFeed.Feed

open Event

/-- What was done at one topic. -/
def atTopic (c : Topic) (done : List HubAction) : List (Nat × LinkAction) :=
  done.filterMap fun x => if x.topic = c then some (x.channel, x.action) else none

theorem atTopic_append (c : Topic) (xs ys : List HubAction) : atTopic c (xs ++ ys) = atTopic c xs ++ atTopic c ys :=
  List.filterMap_append

theorem atTopic_tagged (c d : Topic) (done : List (Nat × LinkAction)) :
    atTopic c (Hub.tagged d done) = if d = c then done else [] := by
  rw [atTopic, Hub.tagged, List.filterMap_map]
  split
  case isTrue h => simp [h]
  case isFalse h => simp [h]

/-- A clearing of the hub does at each topic what a clearing of its board does. -/
theorem atTopic_clearAll (h : Hub) (c : Topic) : atTopic c h.clearAll.2 = ((h.boards c).clearAll c).2 := by
  have hall : h.clearAll.2 = Topic.all.flatMap fun d => Hub.tagged d ((h.boards d).clearAll d).2 := by
    simp [Hub.clearAll, Topic.all, Hub.boards_withBoard]
  rw [hall, Topic.all]
  simp only [List.flatMap_cons, List.flatMap_nil, atTopic_append, atTopic_tagged]
  cases c <;> simp [atTopic]

/-- What a step asks a guard for. -/
def HubStep.target? : HubStep → Option Target
  | .acquire t => some t
  | _ => none

namespace Audience

theorem run_append (a : Audience) (xs ys : List HubStep) : a.run (xs ++ ys) = (a.run xs).run ys := List.foldl_append

theorem run_concat (a : Audience) (steps : List HubStep) (s : HubStep) :
    a.run (steps ++ [s]) = ((a.run steps).step s).1 := List.foldl_append

theorem hub_poll (a : Audience) (i : Nat) : (a.poll i).1.hub = a.hub := by
  unfold poll
  cases a.guard? i <;> rfl

/-! ### One step -/

/-- What a step can make of the board of a topic, and what the links do there. -/
inductive Moves (c : Topic) (b : Board) : HubStep → Board → List (Nat × LinkAction) → Prop
  | idle {s : HubStep} (h : ∀ n e, s ≠ .event c n e) : Moves c b s b []
  | acquired {t t' : Target} {key : String} (hk : keyed t = some (t', key)) (hc : t'.topic = c) :
      Moves c b (.acquire t) (b.acquire key t').1 []
  | returned {s : HubStep} (op : Operation Record) (hop : op.givesBack = true) (h : ∀ n e, s ≠ .event c n e) :
      Moves c b s (b.adopt (.one c) (b.registry.perform op)).1 (b.adopt (.one c) (b.registry.perform op)).2
  | event (n : Nat) (e : LinkEvent) : Moves c b (.event c n e) (b.event n e).1 ((b.event n e).2.map (n, ·))

theorem moves_step (a : Audience) (s : HubStep) (c : Topic) :
    Moves c (a.hub.boards c) s ((a.step s).1.hub.boards c) (atTopic c (a.step s).2) := by
  -- a step that concerns one board moves that of its topic and leaves the others idle
  have hat : ∀ {d : Topic} {b' : Board} {done : List (Nat × LinkAction)},
      (d = c → Moves c (a.hub.boards c) s b' done) → (d ≠ c → ∀ n e, s ≠ .event c n e) →
      Moves c (a.hub.boards c) s ((a.hub.withBoard d b').boards c) (atTopic c (Hub.tagged d done)) := by
    intro d b' done hsame hother
    rw [atTopic_tagged]
    by_cases hd : d = c
    · subst hd
      rw [Hub.boards_withBoard_self, if_pos rfl]
      exact hsame rfl
    · rw [Hub.boards_withBoard_of_ne _ hd, if_neg hd]
      exact .idle (hother hd)
  cases s with
  | acquire t =>
    cases hk : keyed t with
    | none =>
      simp only [step, Hub.acquire_of_unkeyed _ hk]
      exact .idle nofun
    | some x =>
      obtain ⟨t', key⟩ := x
      simp only [step, Hub.acquire_of_keyed _ hk]
      refine @hat t'.topic _ [] (fun hc => ?_) fun _ => nofun
      rw [hc]
      exact .acquired hk hc
  | giveBack i =>
    simp only [step]
    cases a.guard? i with
    | none => exact .idle nofun
    | some x =>
      obtain ⟨d, g⟩ := x
      exact hat (fun hd => hd ▸ .returned (.giveBack g) rfl nofun) fun _ => nofun
  | release d key => exact hat (fun hd => hd ▸ .returned (.release key) rfl nofun) fun _ => nofun
  | poll i =>
    simp only [step, hub_poll]
    exact .idle nofun
  | event d n e =>
    refine hat (fun hd => hd ▸ .event n e) fun hd m e' heq => hd ?_
    exact (HubStep.event.inj heq).1
  | clearAll =>
    simp only [step, Hub.boards_clearAll, atTopic_clearAll]
    exact .returned .clearAll rfl nofun

theorem follows_step (a : Audience) (s : HubStep) (c : Topic) : (a.hub.boards c).Follows ((a.step s).1.hub.boards c) := by
  have hmoves := a.moves_step s c
  generalize atTopic c (a.step s).2 = done at hmoves
  generalize (a.step s).1.hub.boards c = b' at hmoves ⊢
  cases hmoves with
  | idle => exact .refl _
  | @acquired _ t' key => exact .adopt _ (fun _ => t') (.acquire key Board.quiet)
  | returned op => exact .adopt _ _ op
  | event n e => exact .event _ n e

/-- Who asks for something gets a slot of its own, and no slot is forgotten. -/
theorem length_guards_step (a : Audience) (s : HubStep) :
    (a.step s).1.guards.length = a.guards.length + s.target?.toList.length := by
  cases s with
  | acquire t => simp [step, HubStep.target?]
  | giveBack i => simp only [step]; cases a.guard? i <;> simp [HubStep.target?]
  | poll i => simp only [step, poll]; cases a.guard? i <;> simp [HubStep.target?]
  | release d k | event d n e | clearAll => rfl

/-! ### Every run -/

theorem follows_run (a : Audience) (steps : List HubStep) (c : Topic) :
    (a.hub.boards c).Follows ((a.run steps).hub.boards c) := by
  induction steps generalizing a with
  | nil => exact .refl _
  | cons s steps ih => exact (a.follows_step s c).trans (ih (a.step s).1)

theorem sound_step {url : Url} {a : Audience} {c : Topic} (h : Board.Sound url (a.hub.boards c)) (s : HubStep) :
    Board.Sound url ((a.step s).1.hub.boards c) := by
  have hmoves := a.moves_step s c
  generalize atTopic c (a.step s).2 = done at hmoves
  generalize (a.step s).1.hub.boards c = b' at hmoves ⊢
  cases hmoves with
  | idle => exact h
  | acquired => exact h.acquire _ _
  | returned op hop => exact h.adopt hop _
  | event n e => exact h.event n e

theorem sound_run (url : Url) (steps : List HubStep) (c : Topic) :
    Board.Sound url (((of (.new url)).run steps).hub.boards c) := by
  induction steps using List.reverseRecOn with
  | nil => exact Board.sound_new url
  | append_singleton steps s ih =>
    rw [run_concat]
    exact sound_step ih s

/-- The event that a step brings to a channel. One that was not opened yet has no socket. -/
def reaching (a : Audience) (c : Topic) (n : Nat) : HubStep → Option LinkEvent
  | .event d m e => if d = c ∧ m = n ∧ n < (a.hub.boards c).links.length then some e else none
  | _ => none

/-- All that happens at the socket of a channel, in order. -/
def heard (a : Audience) (c : Topic) (n : Nat) : List HubStep → List LinkEvent
  | [] => []
  | s :: steps => (a.reaching c n s).toList ++ (a.step s).1.heard c n steps

theorem heard_concat (a : Audience) (c : Topic) (n : Nat) (steps : List HubStep) (s : HubStep) :
    a.heard c n (steps ++ [s]) = a.heard c n steps ++ ((a.run steps).reaching c n s).toList := by
  induction steps generalizing a with
  | nil => exact List.append_nil _
  | cons x steps ih =>
    rw [List.cons_append, heard, ih, heard, List.append_assoc]
    rfl

theorem reaching_of_ne {a : Audience} {c : Topic} {n : Nat} {s : HubStep} (h : ∀ e, s ≠ .event c n e) :
    a.reaching c n s = none := by
  cases s with
  | event d m e =>
    refine if_neg fun hand => h e ?_
    rw [hand.1, hand.2.1]
  | _ => rfl

theorem reaching_of_unopened {a : Audience} {c : Topic} {n : Nat} (h : (a.hub.boards c).links.length ≤ n) (s : HubStep) :
    a.reaching c n s = none := by
  cases s with
  | event d m e => exact if_neg fun hand => Nat.not_lt.2 h hand.2.2
  | _ => rfl

/-- Nothing happens at a channel before it is opened. -/
theorem heard_of_unopened (url : Url) (steps : List HubStep) (c : Topic) (n : Nat)
    (h : (((of (.new url)).run steps).hub.boards c).links.length ≤ n) : (of (.new url)).heard c n steps = [] := by
  induction steps using List.reverseRecOn with
  | nil => rfl
  | append_singleton steps s ih =>
    have hgrows : (((of (.new url)).run steps).hub.boards c).links.length ≤ n := by
      refine Nat.le_trans ?_ h
      obtain ⟨ops, hops⟩ := follows_step ((of (.new url)).run steps) s c
      rw [(sound_run url steps c).numbered, (sound_run url (steps ++ [s]) c).numbered, run_concat, hops]
      exact Registry.length_le_performAll _ ops
    rw [heard_concat, ih hgrows, reaching_of_unopened hgrows]
    rfl

/-- A channel whose entry is in the map was opened for a key that was asked for, and shows what its link delivered last. -/
theorem relays_run (url : Url) (steps : List HubStep) (c : Topic) (n : Nat)
    (hn : (((of (.new url)).run steps).hub.registry c).Listed n) :
    ∃ t₀ t key, .acquire t₀ ∈ steps ∧ keyed t₀ = some (t, key) ∧ t.topic = c ∧
      (((of (.new url)).run steps).hub.registry c).keyOf? n = some key ∧
      Board.Relays (((of (.new url)).run steps).hub.boards c) n t ((of (.new url)).heard c n steps) := by
  induction steps using List.reverseRecOn with
  | nil => exact absurd hn List.not_mem_nil
  | append_singleton steps s ih =>
    have hsound := sound_run url steps c
    have hunopened := heard_of_unopened url steps c
    rw [heard_concat]
    rw [run_concat] at hn ⊢
    set a : Audience := (of (.new url)).run steps with ha
    have hmoves := a.moves_step s c
    have hfollows := a.follows_step s c
    simp only [Hub.registry] at hn ih ⊢
    generalize atTopic c (a.step s).2 = done at hmoves
    generalize (a.step s).1.hub.boards c = b' at hmoves hfollows hn ⊢
    -- what was known of the channel before the step stays true
    have hkeep : (a.hub.boards c).registry.Listed n →
        (∀ t es, Board.Relays (a.hub.boards c) n t es → Board.Relays b' n t (es ++ (a.reaching c n s).toList)) →
        ∃ t₀ t key, .acquire t₀ ∈ steps ++ [s] ∧ keyed t₀ = some (t, key) ∧ t.topic = c ∧
          b'.registry.keyOf? n = some key ∧
          Board.Relays b' n t ((of (.new url)).heard c n steps ++ (a.reaching c n s).toList) := by
      intro hl hrelays
      obtain ⟨t₀, t, key, hmem, hk, hc, hkey, hbefore⟩ := ih hl
      exact ⟨t₀, t, key, List.mem_append_left _ hmem, hk, hc, hfollows.keyOf? hkey, hrelays t _ hbefore⟩
    cases hmoves with
    | idle h =>
      rw [reaching_of_ne (h n)] at hkeep ⊢
      exact hkeep hn fun t es hr => by rwa [Option.toList_none, List.append_nil]
    | @acquired t₀ t key hk hc =>
      have hnone : a.reaching c n (.acquire t₀) = none := rfl
      rw [hnone, Option.toList_none, List.append_nil] at hkeep ⊢
      rcases (Board.listed_acquire _ key t n).1 hn with hl | ⟨habsent, rfl⟩
      · exact hkeep hl fun t' es hr => by
          rw [List.append_nil]
          exact hr.acquire hsound key t
      · refine ⟨t₀, t, key, List.mem_append_right _ List.mem_cons_self, hk, hc, ?_, ?_⟩
        · rw [Board.acquire_of_absent habsent, Registry.acquire_of_absent habsent]
          exact Registry.keyOf?_openFor_self ..
        · rw [hunopened _ (Nat.le_of_eq hsound.numbered)]
          exact Board.Relays.opened hsound habsent t
    | returned op hop h =>
      rw [reaching_of_ne (h n)] at hkeep ⊢
      obtain ⟨cs, hreturns⟩ := hsound.returns hop (.one c)
      have hl := (hsound.registry.channels_of_givesBack hop ((Board.listed_of_frees hreturns.frees n).1 hn)).1
      exact hkeep hl fun t es hr => by
        rw [Option.toList_none, List.append_nil]
        exact hr.adopt hsound hop _ hn
    | event m e =>
      have hl := (Board.listed_event _ m n e).1 hn
      by_cases hmn : m = n
      · subst hmn
        have hsome : a.reaching c m (.event c m e) = some e :=
          if_pos ⟨rfl, rfl, hsound.numbered ▸ hsound.registry.lt_of_listed hl⟩
        rw [hsome] at hkeep ⊢
        exact hkeep hl fun t es hr => hr.event hsound hl e
      · have hnone : a.reaching c n (.event c m e) = none := if_neg fun hand => hmn hand.2.1
        rw [hnone] at hkeep ⊢
        exact hkeep hl fun t es hr => by
          rw [Option.toList_none, List.append_nil]
          exact hr.event_ne hmn e

/-- An entry of a hub: its channel was opened for its key, and shows what the link delivered last. -/
theorem relays_of_entry (url : Url) (steps : List HubStep) (c : Topic) {e : Entry}
    (he : e ∈ (((of (.new url)).run steps).hub.registry c).entries) :
    ∃ t₀ t, .acquire t₀ ∈ steps ∧ keyed t₀ = some (t, e.key) ∧ t.topic = c ∧
      let ran := (Link.start url t).run ((of (.new url)).heard c e.channel steps)
      (((of (.new url)).run steps).hub.boards c).links[e.channel]? = some ran.1 ∧
        (((of (.new url)).run steps).hub.registry c).statusOf e.channel = showing (delivered ran.2) := by
  have hs := sound_run url steps c
  obtain ⟨t₀, t, key, hacquire, hk, htopic, hkeyOf, hlink, hshows⟩ :=
    relays_run url steps c e.channel (List.mem_map_of_mem he)
  obtain rfl : key = e.key := Option.some.inj (hkeyOf.symm.trans (hs.registry.key_eq e he))
  rw [hs.url_eq] at hlink hshows
  exact ⟨t₀, t, hacquire, hk, htopic, hlink, hshows⟩

end Audience

end FleetFeed.Feed
