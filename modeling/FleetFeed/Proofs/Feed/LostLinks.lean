import FleetFeed.Proofs.Feed.Relay

/-! Entries whose channel is lost. While an entry is in the map the hub does not give its channel up, but the channel can come
to an end by itself. The registry is not told of that: the entry stays and shows what was delivered last, and whoever asks for
its key shares the channel that has ended. -/
namespace FleetFeed.Feed

open Event Session

namespace Link

/-- A link that has ended did so at one of its events, and did nothing after that. -/
theorem exists_ending {l : Link} {es : List LinkEvent} (hl : l.stage ≠ .ended) (h : (l.run es).1.stage = .ended) :
    ∃ before x after, es = before ++ x :: after ∧ (l.run before).1.stage ≠ .ended ∧
      ((l.run before).1.step x).1.stage = .ended ∧ (l.run es).2 = (l.run (before ++ [x])).2 := by
  induction es using List.reverseRecOn with
  | nil => exact absurd h hl
  | append_singleton es y ih =>
    by_cases hes : (l.run es).1.stage = .ended
    · obtain ⟨before, x, after, hsplit, hlive, hend, hdone⟩ := ih hes
      refine ⟨before, x, after ++ [y], ?_, hlive, hend, ?_⟩
      · rw [hsplit, List.append_assoc, List.cons_append]
      · rw [run_concat, step_of_ended hes, List.append_nil, hdone]
    · rw [run_concat] at h
      exact ⟨es, y, [], rfl, hes, h, rfl⟩

/-- A link that has ended, and that nobody gave up, was lost, and told that last; or its socket came to its end after the
server had completed the subscription, and nothing was told of it. -/
theorem ended_alone {l : Link} {es : List LinkEvent} (hl : l.stage ≠ .ended) (hes : ∀ x ∈ es, x.givesUp = false)
    (h : (l.run es).1.stage = .ended) :
    ∃ before x after, es = before ++ x :: after ∧
      let found := l.run before
      ((∃ err, found.1.Loses x err ∧ delivered (l.run es).2 = delivered found.2 ++ [.error err]) ∨
        (found.1.stage = .streaming ∧ found.1.session.phase = .completed ∧ x.endsSocket = true ∧
          delivered (l.run es).2 = delivered found.2)) := by
  obtain ⟨before, x, after, hsplit, hlive, hend, hdone⟩ := exists_ending hl h
  have hx : x.givesUp = false := hes x (hsplit ▸ List.mem_append_right _ List.mem_cons_self)
  refine ⟨before, x, after, hsplit, ?_⟩
  rw [hdone, delivered_run_concat]
  rcases lost_or_finished hx hlive hend with ⟨err, hloses⟩ | ⟨hstreaming, hcompleted, hends, hnothing⟩
  · exact .inl ⟨err, hloses, congrArg _ hloses.delivered_eq⟩
  · refine .inr ⟨hstreaming, hcompleted, hends, ?_⟩
    rw [hnothing]
    exact List.append_nil _

end Link

namespace Audience

/-- What happens at the sockets is the work of their peers: no one but the hub gives a channel up. -/
def PeersOnly (steps : List HubStep) : Prop := ∀ c n e, .event c n e ∈ steps → e.givesUp = false

theorem mem_of_heard {a : Audience} {c : Topic} {n : Nat} {e : LinkEvent} {steps : List HubStep} (h : e ∈ a.heard c n steps) :
    .event c n e ∈ steps := by
  induction steps generalizing a with
  | nil => exact absurd h List.not_mem_nil
  | cons s steps ih =>
    rw [heard] at h
    rcases List.mem_append.1 h with h | h
    · by_cases hs : ∃ x, s = .event c n x
      · obtain ⟨x, rfl⟩ := hs
        rw [reaching] at h
        split at h
        case isTrue => exact List.mem_singleton.1 h ▸ List.mem_cons_self
        case isFalse => exact absurd h List.not_mem_nil
      · rw [reaching_of_ne fun x hx => hs ⟨x, hx⟩] at h
        exact absurd h List.not_mem_nil
    · exact List.mem_cons_of_mem _ (ih h)

/-- Who asks for a key that is there shares the channel of its entry, whatever became of it, and sees what it shows. -/
theorem acquire_joins {url : Url} {a : Audience} {c : Topic} (h : Board.Sound url (a.hub.boards c)) {e : Entry}
    (he : e ∈ (a.hub.registry c).entries) {t t' : Target} (hk : keyed t = some (t', e.key)) (hc : t.topic = c) :
    let next := (a.step (.acquire t)).1
    ∃ g, next.guard? a.guards.length = some (c, g) ∧ g.key = e.key ∧ g.receiver.channel = e.channel ∧
      next.current c g = (a.hub.registry c).statusOf e.channel ∧
      (next.hub.boards c).links = (a.hub.boards c).links ∧
      (next.hub.registry c).journal = (a.hub.registry c).journal := by
  intro next
  have hpresent : (a.hub.boards c).registry.entry? e.key = some e := h.registry.entry?_of_mem he
  have htopic : t'.topic = c := (topic_keyed hk).trans hc
  have hboard : next.hub.boards c =
      { a.hub.boards c with registry := (a.hub.boards c).registry.recount e.key (· + 1) } := by
    simp only [next, step, Hub.acquire_of_keyed _ hk, htopic, Hub.boards_withBoard_self, Board.acquire_of_present hpresent,
      Registry.acquire_of_present hpresent]
  have hguards : next.guards = a.guards ++
      [some (c, ⟨e.key, e.channel, (a.hub.boards c).registry.versionOf e.channel⟩)] := by
    simp only [next, step, Hub.acquire_of_keyed _ hk, htopic, hc, Hub.registry, Registry.acquire_of_present hpresent,
      Option.map_some]
  refine ⟨⟨e.key, e.channel, (a.hub.boards c).registry.versionOf e.channel⟩, ?_, rfl, rfl, ?_, ?_, ?_⟩
  · rw [guard?, hguards, List.getElem?_concat_length]
    rfl
  · rw [current, Hub.registry, hboard]
    rfl
  · rw [hboard]
  · rw [Hub.registry, hboard]
    rfl

/-- Every entry in the map is referenced, and its channel was opened for its key and was not given up. The channel is open or
being opened unless it came to an end by itself: the socket could not be had or was lost, which is what the entry shows, or it
came to its end after the server had completed the subscription, and the entry shows what it did before. Whatever became of
the channel, whoever asks for the key shares it and sees the same; nothing is opened. -/
theorem entry_channels_live_unless_lost (url : Url) (steps : List HubStep) (hpeers : PeersOnly steps) (c : Topic) (e : Entry)
    (he : e ∈ (((of (.new url)).run steps).hub.registry c).entries) :
    let a := (of (.new url)).run steps
    let r := a.hub.registry c
    0 < e.refs ∧
    (∃ t₀ t, .acquire t₀ ∈ steps ∧ keyed t₀ = some (t, e.key) ∧ t.topic = c ∧
      let heard := (of (.new url)).heard c e.channel steps
      let l := ((Link.start url t).run heard).1
      (a.hub.boards c).links[e.channel]? = some l ∧ l.cancelled = false ∧
      (l.stage = .ended → ∃ before x after, heard = before ++ x :: after ∧
        let found := (Link.start url t).run before
        ((∃ err, found.1.Loses x err ∧ err.code = some .websocketError ∧ r.statusOf e.channel = .failed err) ∨
          (found.1.stage = .streaming ∧ found.1.session.phase = .completed ∧ x.endsSocket = true ∧
            r.statusOf e.channel = showing (delivered found.2))))) ∧
    ∀ t t', keyed t = some (t', e.key) → t.topic = c →
      let next := (a.step (.acquire t)).1
      ∃ g, next.guard? a.guards.length = some (c, g) ∧ g.key = e.key ∧ g.receiver.channel = e.channel ∧
        next.current c g = r.statusOf e.channel ∧ (next.hub.boards c).links = (a.hub.boards c).links ∧
        (next.hub.registry c).journal = r.journal := by
  intro a r
  have hs := sound_run url steps c
  refine ⟨hs.registry.refs_pos e he, ?_, fun t t' hk hc => acquire_joins hs he hk hc⟩
  obtain ⟨t₀, t, hacquire, hk, htopic, hlink, hshows⟩ := relays_of_entry url steps c he
  have hheard : ∀ x ∈ (of (.new url)).heard c e.channel steps, x.givesUp = false :=
    fun x hx => hpeers c e.channel x (mem_of_heard hx)
  have hkept : ((Link.start url t).run ((of (.new url)).heard c e.channel steps)).1.cancelled = false := by
    rw [Link.cancelled_run, List.any_eq_false.2 fun x hx => by rw [hheard x hx]; exact Bool.false_ne_true]
    rfl
  refine ⟨t₀, t, hacquire, hk, htopic, hlink, hkept, fun hend => ?_⟩
  obtain ⟨before, x, after, hsplit, hways⟩ := Link.ended_alone (by simp [Link.start, Link.new]) hheard hend
  refine ⟨before, x, after, hsplit, ?_⟩
  rcases hways with ⟨err, hloses, htold⟩ | ⟨hstreaming, hcompleted, hx, hquiet⟩
  · refine .inl ⟨err, hloses, hloses.code_eq, hshows.trans ?_⟩
    rw [htold, showing_append]
    rfl
  · exact .inr ⟨hstreaming, hcompleted, hx, hshows.trans (congrArg showing hquiet)⟩

/-- A key is asked for and its channel begins its work. -/
theorem connecting_channel_is_shared :
    let steps : List HubStep := [.acquire (.one .log "c1"), .event .log 0 .launched]
    let a := (of (.new Link.somewhere)).run steps
    let e : Entry := ⟨"c1", 0, 1⟩
    PeersOnly steps ∧ e ∈ (a.hub.registry .log).entries ∧ keyed (.one .log "c1") = some (.one .log "c1", e.key) ∧
      ∃ g, (a.step (.acquire (.one .log "c1"))).1.guard? 1 = some (.log, g) ∧ g.receiver.channel = 0 := by
  intro steps a e
  have hpeers : PeersOnly steps := by
    intro c n x hx
    simp only [steps, List.mem_cons, List.not_mem_nil, reduceCtorEq, false_or, or_false, HubStep.event.injEq] at hx
    rw [hx.2.2]
    rfl
  have he : e ∈ (a.hub.registry .log).entries := by decide
  have hk : keyed (.one .log "c1") = some (.one .log "c1", e.key) := by decide
  obtain ⟨-, -, hjoins⟩ := entry_channels_live_unless_lost Link.somewhere steps hpeers .log e he
  obtain ⟨g, hg, -, hchannel, -⟩ := hjoins _ _ hk rfl
  exact ⟨hpeers, he, hk, g, hg, hchannel⟩

/-- The peer refuses the socket of a channel, whose entry stays. Who asks for the key then shares the channel that has ended,
and nothing is opened. -/
theorem refused_channel_is_shared :
    let a := (of (.new Link.somewhere)).run
      [.acquire (.one .log "c1"), .event .log 0 .launched, .event .log 0 .refused]
    let next := (a.step (.acquire (.one .log "c1"))).1
    (a.hub.registry .log).entries = [⟨"c1", 0, 1⟩] ∧ (a.hub.boards .log).links.map Link.stage = [.ended] ∧
      (next.hub.registry .log).entries = [⟨"c1", 0, 2⟩] ∧ (next.hub.boards .log).links.map Link.stage = [.ended] ∧
      (next.hub.registry .log).journal = [.opened 0] := by
  decide

end Audience

end FleetFeed.Feed
