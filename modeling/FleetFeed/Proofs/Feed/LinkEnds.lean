import FleetFeed.Proofs.Feed.Delivery

/-! How a link ends. One that is lost says so once and is silent from then on. One that is given up tells nobody but the
server, and the server only if the socket is open. One whose subscription is complete ends without a word, unless its socket
breaks off. -/
namespace FleetFeed.Feed

open Event Session

namespace LinkEvent

/-- A frame that is neither a record nor an error brings nothing. -/
theorem brings_of_kind? {e : LinkEvent} {k : ServerFrame.Kind} (h : e.kind? = some k) (hnext : k ≠ .next)
    (herror : k ≠ .error) (c : Topic) : e.brings c = [] := by
  cases e with
  | text t =>
    cases hf : ServerFrame.ofText t with
    | error => exact absurd ((ServerFrame.kindOfText?_of_error hf).symm.trans h) (by simp)
    | ok f =>
      obtain rfl : f.kindOf = k := Option.some.inj ((ServerFrame.kindOfText?_of_ok hf).symm.trans h)
      rw [brings_of_ok hf]
      cases f with
      | next => exact absurd rfl hnext
      | error => exact absurd rfl herror
      | connectionAck | complete | ping | pong | unknown => rfl
  | _ => rfl

end LinkEvent

namespace Link

/-! ### Lost -/

/-- The socket that a link is after cannot be had, or the one that it has is at its end. -/
def losesSocket (l : Link) (e : LinkEvent) : Bool := match l.stage with
  | .waiting => e = .launched && !l.url.isRequestable
  | .connecting => e = .refused
  | .streaming => e.endsSocket
  | .ended => false

/-- A link that nobody gives up ends by being lost, or with its socket after its subscription. -/
theorem lost_or_finished {l : Link} {e : LinkEvent} (he : e.givesUp = false) (hl : l.stage ≠ .ended)
    (h : (l.step e).1.stage = .ended) :
    (∃ err, l.Loses e err) ∨
      (l.stage = .streaming ∧ l.session.phase = .completed ∧ e.endsSocket = true ∧ (l.step e).2 = []) := by
  have hmove := l.move_step e
  generalize l.step e = next at hmove h
  obtain ⟨l', done⟩ := next
  cases hmove with
  | idle | muted | heard => exact absurd h hl
  | launched | opened => exact absurd h (by simp)
  | lost hloses => exact .inl ⟨_, hloses⟩
  | finished hstreaming hcompleted hends => exact .inr ⟨hstreaming, hcompleted, hends, rfl⟩
  | givenUp hgives => exact absurd (he.symm.trans hgives) (by simp)

section Lost

variable {l : Link} {e : LinkEvent} (hp : l.session.phase ≠ .completed)
include hp

theorem loses_of_losesSocket (h : l.losesSocket e = true) : ∃ err, l.Loses e err := by
  rw [losesSocket] at h
  cases hl : l.stage with
  | waiting =>
    simp only [hl, Bool.and_eq_true, decide_eq_true_eq, Bool.not_eq_true'] at h
    obtain ⟨rfl, hurl⟩ := h
    exact ⟨_, .unusable hl hurl⟩
  | connecting =>
    simp only [hl, decide_eq_true_eq] at h
    obtain rfl := h
    exact ⟨_, .refused hl⟩
  | streaming =>
    simp only [hl] at h
    cases e with
    | closed => exact ⟨_, .closed hl hp⟩
    | broken => exact ⟨_, .broken hl⟩
    | exhausted => exact ⟨_, .exhausted hl hp⟩
    | _ => exact absurd h (by simp [LinkEvent.endsSocket])
  | ended => simp [hl] at h

/-- A link that nobody gives up, and whose subscription is not complete, ends by being lost. -/
theorem loses_of_step_ended (he : e.givesUp = false) (hl : l.stage ≠ .ended) (h : (l.step e).1.stage = .ended) :
    ∃ err, l.Loses e err := (lost_or_finished he hl h).resolve_right fun hfinished => hp hfinished.2.1

end Lost

/-- A link whose subscription the server did not complete ends when its socket does, unless it is given up. The event that
ends it is told with one error, and nothing is told or said after it, whatever follows. -/
theorem loss_is_told_once (url : Url) (c : Topic) (request : Graphql.Request) (es : List LinkEvent) (e : LinkEvent)
    (hes : ∀ x ∈ es, x.kind? ≠ some .complete) (he : e.givesUp = false) :
    let l := ((new url c request).run es).1
    (l.losesSocket e = true → l.stage ≠ .ended ∧ (l.step e).1.stage = .ended) ∧
      (l.stage ≠ .ended → (l.step e).1.stage = .ended → ∃ err, l.Loses e err ∧
        delivered (l.step e).2 = [.error err] ∧ err.code = some .websocketError ∧ err.isRetryable = true ∧
        ∀ later, ((new url c request).run (es ++ e :: later)).1.stage = .ended ∧
          ((new url c request).run (es ++ e :: later)).2 = ((new url c request).run (es ++ [e])).2) := by
  intro l
  have hp : l.session.phase ≠ .completed := fun h =>
    (completed_run (by simp [new, Session.start]) h).elim fun x hx => hes x hx.1 hx.2
  refine ⟨fun hsocket => ?_, fun hl hend => ?_⟩
  · obtain ⟨err, hloses⟩ := loses_of_losesSocket hp hsocket
    obtain ⟨said, hstep⟩ := hloses.step_eq
    exact ⟨hloses.stage_ne, by rw [hstep]; rfl⟩
  · obtain ⟨err, hloses⟩ := loses_of_step_ended hp he hl hend
    refine ⟨err, hloses, hloses.delivered_eq, hloses.code_eq, hloses.isRetryable, fun later => ?_⟩
    rw [run_concat, run_append, run_cons, run_of_ended hend, List.append_nil]
    exact ⟨hend, rfl⟩

/-- The server closes a socket that it had accepted. -/
theorem closed_is_told_once :
    let l := new somewhere .service ⟨"q", none⟩
    let es : List LinkEvent := [.launched, .opened]
    let e : LinkEvent := .closed (some "bye")
    (∀ x ∈ es, x.kind? ≠ some .complete) ∧ e.givesUp = false ∧ (l.run es).1.losesSocket e = true ∧
      ∃ err, delivered ((l.run es).1.step e).2 = [.error err] ∧ err.code = some .websocketError ∧
        ∀ later, (l.run (es ++ e :: later)).2 = (l.run (es ++ [e])).2 := by
  intro l es e
  have hes : ∀ x ∈ es, x.kind? ≠ some .complete := by simp [es, LinkEvent.kind?]
  have hlost : (l.run es).1.losesSocket e = true := by
    rw [show l.run es = _ from run_greeted (by decide) .service ⟨"q", none⟩ []]
    rfl
  obtain ⟨hsocket, htold⟩ := loss_is_told_once somewhere .service ⟨"q", none⟩ es e hes rfl
  obtain ⟨hl, hend⟩ := hsocket hlost
  obtain ⟨err, -, hdelivered, hcode, -, hlater⟩ := htold hl hend
  exact ⟨hes, rfl, hlost, err, hdelivered, hcode, fun later => (hlater later).2⟩

/-! ### Given up -/

/-- Over an open socket the server is told that the subscription is over, whatever it said itself. -/
theorem Sound.cancel_of_open {l : Link} (h : l.Sound) (hl : l.stage = .streaming) :
    l.cancel.2 = [.send (.complete "1"), .close] := by
  have hc : l.cancelled = false := Bool.eq_false_iff.2 fun hc => absurd (hl.symm.trans (h.ended hc)) (by simp)
  have hs : l.session.cancelled = false := Bool.eq_false_iff.2 fun hs => absurd (hc.symm.trans (h.cancelled hs)) (by simp)
  rw [Link.cancel_of_open hc hl, State.cancel, if_neg (by simp [hs]), if_pos (h.opened hl)]
  rfl

/-- What is done when a link is given up. -/
theorem Sound.cancel_snd {l : Link} (h : l.Sound) :
    l.cancel.2 = if l.stage = .streaming then [.send (.complete "1"), .close] else [] := by
  split
  case isTrue hl => exact h.cancel_of_open hl
  case isFalse hl =>
    cases hc : l.cancelled with
    | true => rw [cancel, if_pos hc]
    | false => rw [cancel_of_shut hc hl]

/-- Whenever a link is given up, nothing is delivered any more, and it has ended. If its socket is open the server is told
that the subscription is over, and then the socket is closed; otherwise nothing is said. Nothing that follows changes
anything. The link knows that it was given up from then on, and not before. -/
theorem giving_up_is_final (url : Url) (c : Topic) (request : Graphql.Request) (es later : List LinkEvent) (e : LinkEvent)
    (he : e.givesUp = true) :
    let l := ((new url c request).run es).1
    (l.run (e :: later)).2 = (if l.stage = .streaming then [.send (.complete "1"), .close] else []) ∧
      (l.run (e :: later)).1 = (l.step e).1 ∧ (l.step e).1.stage = .ended ∧ (l.step e).1.cancelled = true ∧
      (l.cancelled = true ↔ ∃ x ∈ es, x.givesUp = true) := by
  intro l
  have hsound : l.Sound := sound_run url c request es
  have hcancelled : (l.step e).1.cancelled = true := by rw [cancelled_step, he, Bool.or_true]
  have hend : (l.step e).1.stage = .ended := (hsound.step e).ended hcancelled
  have hsaid : (l.step e).2 = if l.stage = .streaming then [.send (.complete "1"), .close] else [] := by
    rw [step_of_givesUp he]
    split
    case isTrue hl => exact hsound.cancel_of_open hl
    case isFalse hl =>
      cases hc : l.cancelled with
      | true => rw [cancel, if_pos hc]
      | false => rw [cancel_of_shut hc hl]
  have hrest : (l.step e).1.run later = ((l.step e).1, []) := by
    rw [run_of_ended hend, hcancelled, Bool.true_or, ← hcancelled]
  refine ⟨?_, ?_, hend, hcancelled, ?_⟩
  · rw [run_cons, hrest, hsaid, List.append_nil]
  · rw [run_cons, hrest]
  · rw [cancelled_run, List.any_eq_true.symm]
    simp [new]

/-- A link is given up while it awaits its acknowledgement, twice, and the server goes on talking. -/
theorem given_up_before_acknowledged :
    let later : List LinkEvent := [.dropped, .text ServerFrame.ackText]
    let given := ((new somewhere .service ⟨"q", none⟩).run [.launched, .opened]).1.run (.cancelled :: later)
    LinkEvent.cancelled.givesUp = true ∧ given.2 = [.send (.complete "1"), .close] ∧ given.1.stage = .ended := by
  intro later given
  have hopen : ((new somewhere .service ⟨"q", none⟩).run [.launched, .opened]).1.stage = .streaming := by
    rw [run_greeted (by decide) .service ⟨"q", none⟩ []]
    rfl
  obtain ⟨hsaid, hkept, hend, -⟩ := giving_up_is_final somewhere .service ⟨"q", none⟩ [.launched, .opened] later .cancelled rfl
  rw [if_pos hopen] at hsaid
  exact ⟨rfl, hsaid, (congrArg Link.stage hkept).trans hend⟩

/-! ### Complete -/

theorem step_of_completed {l : Link} (h : l.stage = .streaming) (hp : l.session.phase = .completed) {e : LinkEvent}
    (he : e.endsSocket = true) : l.step e = (l.ended, if e = .broken then [.deliver (.error brokenOff)] else []) := by
  cases e with
  | closed | exhausted => simp [step, h, finish, hp]
  | broken => simp [step, h, fail]
  | _ => exact absurd he (by simp [LinkEvent.endsSocket])

/-- A subscription that the server completed stays complete while frames arrive. -/
theorem Flows.completed_run {l : Link} (h : l.Flows) (hp : l.session.phase = .completed) {es : List LinkEvent}
    (hes : ∀ e ∈ es, e.isFrame = true) : (l.run es).1.session.phase = .completed := by
  induction es generalizing l with
  | nil => exact hp
  | cons e es ih =>
    have hkept : (l.advance e).session.phase = .completed := by
      rw [advance, hp]
      exact Phase.completed_after _
    rw [run_cons, (step_frame h (hes e List.mem_cons_self)).1]
    exact ih (h.goesOn e) hkept fun x hx => hes x (List.mem_cons_of_mem _ hx)

/-- What a link delivers whose server completed the subscription, and whose socket then ends: what the frames bring until
then, and no more than that unless the socket broke off. -/
theorem Flows.delivered_after_complete {l : Link} (h : l.Flows) {complete e : LinkEvent}
    (hcomplete : complete.kind? = some .complete) {after : List LinkEvent} (hafter : ∀ x ∈ after, x.isFrame = true)
    (he : e.endsSocket = true) (later : List LinkEvent) :
    ((l.step complete).1.run (after ++ e :: later)).1.stage = .ended ∧
      delivered ((l.step complete).1.run (after ++ e :: later)).2 =
        after.flatMap (LinkEvent.brings l.topic) ++ if e = .broken then [.error brokenOff] else [] := by
  have hp : (l.advance complete).session.phase = .completed := by
    rw [advance, hcomplete]
    exact Phase.after_complete _
  have hflows := h.goesOn complete
  obtain ⟨hthen, hdelivered⟩ := hflows.run hafter
  have hstep := step_of_completed hthen.streaming (hflows.completed_run hp hafter) he
  rw [(step_frame h (LinkEvent.isFrame_of_kind? hcomplete)).1, run_append, run_cons, hstep, run_of_ended rfl,
    List.append_nil, delivered_append, hdelivered]
  refine ⟨rfl, congrArg _ ?_⟩
  split <;> rfl

/-- Once the server completed the subscription, what later frames bring is delivered, and nothing more when the socket comes
to its end; unless it breaks off, which is told although the subscription is over. -/
theorem complete_is_quiet_unless_broken (url : Url) (c : Topic) (request : Graphql.Request)
    (before after later : List LinkEvent) (complete e : LinkEvent) (hurl : url.isRequestable = true)
    (hbefore : ∀ x ∈ before, x.isFrame = true) (hcomplete : complete.kind? = some .complete)
    (hafter : ∀ x ∈ after, x.isFrame = true) (he : e.endsSocket = true) :
    let l := ((new url c request).run (.launched :: .opened :: (before ++ [complete]))).1
    (l.run (after ++ e :: later)).1.stage = .ended ∧
      delivered (l.run (after ++ e :: later)).2 =
        after.flatMap (LinkEvent.brings c) ++ if e = .broken then [.error brokenOff] else [] := by
  intro l
  have hl : l = (((greeted url c request).run before).1.step complete).1 := by
    simp only [l, run_greeted hurl, run_concat]
  have htopic : ((greeted url c request).run before).1.topic = c := topic_run ..
  have hflows := ((flows_greeted url c request).run hbefore).1
  have hquiet := hflows.delivered_after_complete hcomplete hafter he later
  rwa [← hl, htopic] at hquiet

/-- A ping comes after the server completed the subscription; then the server closes the socket, or the socket breaks off. -/
theorem closed_quietly_broken_aloud :
    let before : List LinkEvent := [.text ServerFrame.ackText]
    let after : List LinkEvent := [.text ServerFrame.pingText]
    let complete : LinkEvent := .text ServerFrame.completeText
    let closed : LinkEvent := .closed (some "bye")
    let told (e : LinkEvent) := delivered
      (((new somewhere .service ⟨"q", none⟩).run (.launched :: .opened :: (before ++ [complete]))).1.run (after ++ [e])).2
    somewhere.isRequestable = true ∧ (∀ x ∈ before, x.isFrame = true) ∧ complete.kind? = some .complete ∧
      (∀ x ∈ after, x.isFrame = true) ∧ closed.endsSocket = true ∧ LinkEvent.broken.endsSocket = true ∧
      told closed = [] ∧ told .broken = [.error brokenOff] := by
  intro before after complete closed told
  have hbefore : ∀ x ∈ before, x.isFrame = true := by simp [before, LinkEvent.isFrame]
  have hafter : ∀ x ∈ after, x.isFrame = true := by simp [after, LinkEvent.isFrame]
  have hcomplete : complete.kind? = some .complete := ServerFrame.kindOfText?_complete
  have hping : LinkEvent.kind? (.text ServerFrame.pingText) = some .ping := ServerFrame.kindOfText?_ping
  have hbrings : after.flatMap (LinkEvent.brings .service) = [] := by
    simp only [after, List.flatMap_cons, LinkEvent.brings_of_kind? hping (by decide) (by decide)]
    rfl
  have hends (e : LinkEvent) (he : e.endsSocket = true) : told e = if e = .broken then [.error brokenOff] else [] := by
    have htold := (complete_is_quiet_unless_broken somewhere .service ⟨"q", none⟩ before after [] complete e (by decide)
      hbefore hcomplete hafter he).2
    rw [hbrings] at htold
    exact htold
  exact ⟨by decide, hbefore, hcomplete, hafter, rfl, rfl, hends closed rfl, hends .broken rfl⟩

/-- The server acknowledged and completed a subscription, and nothing was delivered; then the socket breaks off, which is
delivered as an error. -/
theorem broken_after_complete_is_told :
    let es : List LinkEvent := [.launched, .opened, .text ServerFrame.ackText, .text ServerFrame.completeText]
    let l := start somewhere (.one .log "c1")
    delivered (l.run es).2 = [] ∧ delivered (l.run (es ++ [.broken])).2 = [.error brokenOff] := by
  intro es l
  have hack : LinkEvent.kind? (.text ServerFrame.ackText) = some .connectionAck := ServerFrame.kindOfText?_ack
  have hcomplete : LinkEvent.kind? (.text ServerFrame.completeText) = some .complete := ServerFrame.kindOfText?_complete
  have hgreeted := flows_greeted somewhere .log (Target.one .log "c1").request
  have hrun : l.run es = _ := run_greeted (by decide) .log (Target.one .log "c1").request _
  have hframe : ∀ e ∈ [LinkEvent.text ServerFrame.ackText, .text ServerFrame.completeText], e.isFrame = true := by
    simp [LinkEvent.isFrame]
  have hframes := hgreeted.run hframe
  have hnothing : [LinkEvent.text ServerFrame.ackText, .text ServerFrame.completeText].flatMap (LinkEvent.brings .log) = [] := by
    simp only [List.flatMap_cons, LinkEvent.brings_of_kind? hack (by decide) (by decide),
      LinkEvent.brings_of_kind? hcomplete (by decide) (by decide)]
    rfl
  have hbefore : delivered (l.run es).2 = [] := by
    rw [hrun, delivered_cons_send]
    exact hframes.2.trans hnothing
  have hopen : (l.run es).1.stage = .streaming := by
    rw [hrun]
    dsimp only
    exact hframes.1.streaming
  refine ⟨hbefore, ?_⟩
  rw [delivered_run_concat, hbefore, (Loses.broken hopen).delivered_eq, List.nil_append]

end Link

end FleetFeed.Feed
