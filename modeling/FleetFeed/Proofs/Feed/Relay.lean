import FleetFeed.Proofs.Feed.HubMoves
import FleetFeed.Proofs.Feed.LinkEnds
import FleetFeed.Proofs.Feed.Views

/-! What is seen at a hub is what the channels deliver. A guard of the entry of its key shows what the link of that entry
delivered last, and each record that it shows was read from a frame by the decoder of its topic; a channel that lost its
last reference is heard of no more. -/
namespace FleetFeed.Feed

open Event Session

/-! ### Records -/

/-- A record comes from the data of a frame, as the topic reads them. -/
def Carries (c : Topic) (text : String) (record : Record) : Prop :=
  ∃ id reply v, ServerFrame.ofText text = .ok (.next id reply) ∧ reply.result = .ok v ∧ c.decode v = .ok record

namespace Link

theorem carries_of_reaction {c : Topic} {s : Session.State} {text : String} {record : Record}
    (h : .event record ∈ delivered (reaction c (s.onText text).2)) : Carries c text record := by
  cases hs : s.cancelled with
  | true => rw [State.onText_of_cancelled hs] at h; exact absurd h List.not_mem_nil
  | false =>
    cases ht : ServerFrame.ofText text with
    | error e => rw [State.onText_of_error hs ht] at h; exact absurd h (by simp [reaction, delivered])
    | ok f =>
      rw [State.onText_of_ok hs ht, State.onFrame_snd hs] at h
      cases f with
      | next id reply =>
        dsimp only at h
        cases hr : reply.result with
        | error e => rw [hr] at h; exact absurd h (by simp [reaction, delivered])
        | ok v =>
          rw [hr] at h
          obtain hpush : .event record = push c v := List.mem_singleton.1 h
          rw [push] at hpush
          cases hd : c.decode v with
          | error e => rw [hd] at hpush; exact absurd hpush (by simp)
          | ok record' =>
            rw [hd] at hpush
            obtain rfl := Push.event.inj hpush
            exact ⟨id, reply, v, ht, hr, hd⟩
      | connectionAck p => dsimp only at h; split at h <;> exact absurd h (by simp [reaction, delivered])
      | error | complete | ping | pong | unknown => exact absurd h (by simp [reaction, delivered])

theorem carries_of_step {l : Link} {e : LinkEvent} {record : Record} (h : .event record ∈ delivered (l.step e).2) :
    ∃ text, e = .text text ∧ Carries l.topic text record := by
  have hmove := l.move_step e
  generalize l.step e = next at hmove h
  obtain ⟨l', done⟩ := next
  cases hmove with
  | idle | launched | muted | finished | opened => exact absurd h List.not_mem_nil
  | @heard text => exact ⟨text, rfl, carries_of_reaction h⟩
  | @lost _ err hloses said =>
    have htold : Push.event record ∈ delivered (said.map .send ++ [.deliver (.error err)]) := h
    rw [delivered_append, delivered_send] at htold
    exact absurd (List.mem_singleton.1 htold) (by simp)
  | givenUp => rw [delivered_cancel] at h; exact absurd h List.not_mem_nil

/-- Every record that a link delivers was read from one of its texts, by the decoder of its topic. -/
theorem carries_of_run {l : Link} {es : List LinkEvent} {record : Record} (h : .event record ∈ delivered (l.run es).2) :
    ∃ text, .text text ∈ es ∧ Carries l.topic text record := by
  induction es using List.reverseRecOn with
  | nil => exact absurd h List.not_mem_nil
  | append_singleton es e ih =>
    rw [delivered_run_concat] at h
    rcases List.mem_append.1 h with h | h
    · obtain ⟨text, hmem, hcarries⟩ := ih h
      exact ⟨text, List.mem_append_left _ hmem, hcarries⟩
    · obtain ⟨text, rfl, hcarries⟩ := carries_of_step h
      rw [topic_run] at hcarries
      exact ⟨text, List.mem_append_right _ List.mem_cons_self, hcarries⟩

end Link

/-! ### Channels that are gone -/

theorem Hub.withBoard_self (h : Hub) (c : Topic) : h.withBoard c (h.boards c) = h := by
  have hboards : (h.withBoard c (h.boards c)).boards = h.boards := by
    funext d
    rw [boards_withBoard]
    split
    case isTrue hd => rw [hd]
    case isFalse => rfl
  exact congrArg (Hub.mk h.url) hboards

namespace Audience

variable {url : Url} {a : Audience} {c : Topic} {n : Nat}

/-- A channel that leaves the map is given up in the same step: over an open socket the server is told, and then the socket
is closed. -/
theorem doneBy_of_leaving (h : Board.Sound url (a.hub.boards c)) {s : HubStep} (hl : (a.hub.registry c).Listed n)
    (hgone : ¬ ((a.step s).1.hub.registry c).Listed n) :
    ∃ l, (a.hub.boards c).links[n]? = some l ∧
      Board.doneBy n (atTopic c (a.step s).2) = if l.stage = .streaming then [.send (.complete "1"), .close] else [] := by
  have hmoves := a.moves_step s c
  simp only [Hub.registry] at hl hgone
  generalize atTopic c (a.step s).2 = done at hmoves ⊢
  generalize (a.step s).1.hub.boards c = b' at hmoves hgone
  cases hmoves with
  | idle => exact absurd hl hgone
  | @acquired _ t key => exact absurd ((Board.listed_acquire _ key t n).2 (.inl hl)) hgone
  | returned op hop =>
    obtain ⟨cs, hreturns⟩ := h.returns hop (.one c)
    rw [Board.listed_of_frees hreturns.frees] at hgone
    obtain ⟨l, hlink⟩ := h.exists_link (h.registry.lt_of_listed hl)
    refine ⟨l, hlink, ?_⟩
    rw [hreturns.doneBy, if_pos ((hreturns.mem_iff n).2 ⟨hl, hgone⟩), hlink, Option.map_some, Option.getD_some,
      Link.step_of_givesUp rfl]
    exact (h.links n l hlink).cancel_snd
  | event m e => exact absurd ((Board.listed_event _ m n e).2 hl) hgone

theorem listed_of_step (h : Board.Sound url (a.hub.boards c)) (s : HubStep) (hlt : n < (a.hub.registry c).channels.length)
    (hl : ((a.step s).1.hub.registry c).Listed n) : (a.hub.registry c).Listed n := by
  by_contra hgone
  obtain ⟨ops, hops⟩ := a.follows_step s c
  have hclosed := h.registry.statusOf_performAll_closed hlt hgone ops
  rw [← hops] at hclosed
  have hlt' : n < ((a.step s).1.hub.boards c).registry.channels.length := by
    rw [hops]
    exact Nat.lt_of_lt_of_le hlt (Registry.length_le_performAll _ ops)
  exact ((sound_step h s).registry.statusOf_ne_closed_iff hlt').2 hl hclosed

theorem step_event_of_gone (h : Board.Sound url (a.hub.boards c)) (hgone : ¬ (a.hub.registry c).Listed n) (e : LinkEvent) :
    a.step (.event c n e) = (a, []) := by
  simp only [step, Hub.event, h.event_of_gone hgone, Hub.withBoard_self]
  rfl

/-- The step takes a reference to an entry of a topic back. -/
def TakesBack (a : Audience) (c : Topic) (e : Entry) : HubStep → Prop
  | .giveBack i => ∃ g, a.guard? i = some (c, g) ∧ g.key = e.key ∧ g.receiver.channel = e.channel
  | .release d key => d = c ∧ key = e.key
  | .clearAll => True
  | .acquire _ | .poll _ | .event .. => False

/-- With the last reference to an entry its channel leaves the map. -/
theorem gone_of_last (h : Board.Sound url (a.hub.boards c)) {e : Entry} (he : e ∈ (a.hub.registry c).entries)
    (hone : e.refs = 1) {s : HubStep} (hs : a.TakesBack c e s) : ¬ ((a.step s).1.hub.registry c).Listed e.channel := by
  have hpresent : (a.hub.boards c).registry.entry? e.key = some e := h.registry.entry?_of_mem he
  have hlast : ∀ op : Operation Record, (a.hub.boards c).registry.hit? op = some e →
      ¬ ((a.hub.boards c).registry.perform op).Listed e.channel := by
    intro op hhit
    rw [Registry.perform_of_hit hhit, Registry.dropRef_eq, if_pos (Nat.le_of_eq hone), h.registry.listed_remove he]
    exact fun hand => hand.2 rfl
  -- the board of the topic adopts what one operation made of the registry, and its links take nothing out of the map
  suffices hstep : ∃ op : Operation Record, op.givesBack = true ∧
      (a.step s).1.hub.boards c = ((a.hub.boards c).adopt (.one c) ((a.hub.boards c).registry.perform op)).1 ∧
      ¬ ((a.hub.boards c).registry.perform op).Listed e.channel by
    obtain ⟨op, hop, hafter, hgone⟩ := hstep
    obtain ⟨cs, hreturns⟩ := h.returns hop (.one c)
    rwa [Hub.registry, hafter, Board.listed_of_frees hreturns.frees]
  cases s with
  | giveBack i =>
    obtain ⟨g, hg, hk, hc⟩ := hs
    refine ⟨.giveBack g, rfl, ?_, hlast _ ?_⟩
    · simp only [step, hg, Hub.giveBack, Hub.boards_withBoard_self]
      rfl
    · rw [Registry.hit?, hk, hpresent, Option.filter_some, if_pos (decide_eq_true hc.symm)]
  | release d key =>
    obtain ⟨rfl, rfl⟩ := hs
    refine ⟨.release e.key, rfl, ?_, hlast _ hpresent⟩
    simp only [step, Hub.release, Hub.boards_withBoard_self]
    rfl
  | clearAll =>
    refine ⟨.clearAll, rfl, ?_, ?_⟩
    · simp only [step, Hub.boards_clearAll]
      rfl
    · rw [Registry.Listed, Registry.perform, h.registry.entries_clearAll]
      exact List.not_mem_nil
  | acquire | poll | event => exact hs.elim

/-- Whatever happens at a hub, a guard of the entry of its key shows what the link of that entry delivered last, which was
asked for that key and heard of the events at its own socket only; each record that it delivers was read by the decoder of
the topic. The channel of an entry whose last reference goes is given up in that step, and the server is told over a socket
that is open. It was cancelled once then, nothing that happens at its socket is noticed any more, a call that is still under
way is only counted, and the channel does not come back. -/
theorem guards_show_what_channels_deliver (url : Url) (steps : List HubStep) (c : Topic) :
    let a := (of (.new url)).run steps
    let r := a.hub.registry c
    let links := (a.hub.boards c).links
    (∀ i g, a.guard? i = some (c, g) → r.Backs g →
      ∃ t₀ t, .acquire t₀ ∈ steps ∧ keyed t₀ = some (t, g.key) ∧ t.topic = c ∧
        let heard := (of (.new url)).heard c g.receiver.channel steps
        let ran := (Link.start url t).run heard
        links[g.receiver.channel]? = some ran.1 ∧ a.current c g = showing (delivered ran.2) ∧
          ∀ record, .event record ∈ delivered ran.2 → ∃ text, .text text ∈ heard ∧ Carries c text record) ∧
    (∀ e ∈ r.entries, e.refs = 1 → ∀ s, a.TakesBack c e s → ¬ ((a.step s).1.hub.registry c).Listed e.channel) ∧
    (∀ n s, r.Listed n → ¬ ((a.step s).1.hub.registry c).Listed n → ∃ l, links[n]? = some l ∧
      Board.doneBy n (atTopic c (a.step s).2) = if l.stage = .streaming then [.send (.complete "1"), .close] else []) ∧
    ∀ n, .opened n ∈ r.journal → ¬ r.Listed n →
      r.journal.count (.cancelled n) = 1 ∧
      (∃ l, links[n]? = some l ∧ l.cancelled = true ∧ l.stage = .ended) ∧
      (∀ e, a.step (.event c n e) = (a, [])) ∧
      (∀ p, r.push n p = { r with dropped := r.dropped + 1 }) ∧
      ∀ s, ¬ ((a.step s).1.hub.registry c).Listed n := by
  intro a r links
  have hs := sound_run url steps c
  have hr : r.Sound := hs.registry
  refine ⟨fun i g _ hb => ?_, fun e he hone s hback => gone_of_last hs he hone hback,
    fun n s hl hgone => doneBy_of_leaving hs hl hgone, fun n hopened hgone => ?_⟩
  · obtain ⟨e, he, hc⟩ := Option.map_eq_some_iff.1 hb
    obtain ⟨hmem, hkey⟩ := Registry.entry?_spec he
    obtain ⟨t₀, t, hacquire, hk, htopic, hlink, hshows⟩ := relays_of_entry url steps c hmem
    rw [hkey] at hk
    rw [hc] at hlink hshows
    refine ⟨t₀, t, hacquire, hk, htopic, hlink, hshows, fun record hrecord => ?_⟩
    obtain ⟨text, htext, hcarries⟩ := Link.carries_of_run hrecord
    exact ⟨text, htext, htopic ▸ hcarries⟩
  · have hlt := (hr.opened_mem_iff n).1 hopened
    obtain ⟨l, hlink⟩ := hs.exists_link hlt
    have hrefuses : r.accepts n = false := Bool.eq_false_iff.2 fun haccepts => hgone ((hr.accepts_iff n).1 haccepts)
    refine ⟨?_, ⟨l, hlink, (hs.givenUp n l hlink hgone).1, hs.ended hlink hgone⟩, step_event_of_gone hs hgone,
      Registry.push_of_refuses hrefuses, fun s hl => hgone (listed_of_step hs s hlt hl)⟩
    rw [hr.cancelled n, if_pos ⟨hlt, hgone⟩]

end Audience

end FleetFeed.Feed
