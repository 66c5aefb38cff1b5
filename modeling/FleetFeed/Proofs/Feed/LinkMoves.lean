import FleetFeed.Feed.Link
import FleetFeed.Proofs.Session.Answers
import Mathlib.Data.List.Induction

/-! What an event makes of a link, and what a run of events does. A link is lost in one of seven ways, each with an error of
its own; one that has ended does nothing more and stays where it is, but for the mark that it was given up. -/
namespace FleetFeed.Feed

open Event Session

namespace LinkEvent

/-- A frame of the socket, with a text or without one. -/
def isFrame : LinkEvent → Bool
  | .text _ | .binary => true
  | _ => false

/-- The owner of the link wants nothing more of it. -/
def givesUp : LinkEvent → Bool
  | .cancelled | .dropped => true
  | _ => false

/-- The socket is at its end. -/
def endsSocket : LinkEvent → Bool
  | .closed _ | .broken | .exhausted => true
  | _ => false

theorem givesUp_of_endsSocket {e : LinkEvent} (h : e.endsSocket = true) : e.givesUp = false := by
  cases e with
  | closed | broken | exhausted => rfl
  | _ => exact absurd h (by simp [endsSocket])

/-- The kind of the frame that an event brings, if it is a text that can be read as one. -/
def kind? : LinkEvent → Option ServerFrame.Kind
  | .text t => ServerFrame.kindOfText? t
  | _ => none

end LinkEvent

/-! ### What was done -/

/-- What was delivered, in order. -/
def delivered (done : List LinkAction) : List (Push Record) := done.filterMap fun
  | .deliver p => some p
  | .send _ | .close => none

/-- The frames that were given to the socket, in order. -/
def sent (done : List LinkAction) : List ClientFrame := done.filterMap fun
  | .send f => some f
  | .close | .deliver _ => none

theorem delivered_append (xs ys : List LinkAction) : delivered (xs ++ ys) = delivered xs ++ delivered ys :=
  List.filterMap_append

theorem sent_append (xs ys : List LinkAction) : sent (xs ++ ys) = sent xs ++ sent ys := List.filterMap_append

theorem delivered_cons_send (f : ClientFrame) (done : List LinkAction) : delivered (.send f :: done) = delivered done := rfl

theorem delivered_send (fs : List ClientFrame) : delivered (fs.map .send) = [] := by simp [delivered]

namespace Link

/-! ### Runs -/

@[simp] theorem run_nil (l : Link) : l.run [] = (l, []) := rfl

theorem run_cons (l : Link) (e : LinkEvent) (es : List LinkEvent) :
    l.run (e :: es) = (((l.step e).1.run es).1, (l.step e).2 ++ ((l.step e).1.run es).2) := by
  have hall : ∀ (es : List LinkEvent) (l : Link) (done : List LinkAction),
      es.foldl (fun p e => ((p.1.step e).1, p.2 ++ (p.1.step e).2)) (l, done) = ((l.run es).1, done ++ (l.run es).2) := by
    intro es
    induction es with
    | nil => intro l done; simp
    | cons e es ih =>
      intro l done
      have hrun : l.run (e :: es) = es.foldl (fun p e => ((p.1.step e).1, p.2 ++ (p.1.step e).2)) (l.step e) := rfl
      rw [hrun, List.foldl_cons, ih, ih (l.step e).1 (l.step e).2, List.append_assoc]
  exact hall es _ _

theorem run_append (l : Link) (xs ys : List LinkEvent) :
    l.run (xs ++ ys) = (((l.run xs).1.run ys).1, (l.run xs).2 ++ ((l.run xs).1.run ys).2) := by
  induction xs generalizing l with
  | nil => rfl
  | cons x xs ih => rw [List.cons_append, run_cons, ih, run_cons, List.append_assoc]

theorem run_concat (l : Link) (es : List LinkEvent) (e : LinkEvent) :
    l.run (es ++ [e]) = (((l.run es).1.step e).1, (l.run es).2 ++ ((l.run es).1.step e).2) := by
  rw [run_append, run_cons, run_nil, List.append_nil]

theorem delivered_run_concat (l : Link) (es : List LinkEvent) (e : LinkEvent) :
    delivered (l.run (es ++ [e])).2 = delivered (l.run es).2 ++ delivered ((l.run es).1.step e).2 := by
  rw [run_concat, delivered_append]

/-- What every event keeps holds after all of them. -/
theorem run_induction {P : Link → Prop} {l : Link} (h : P l) (hstep : ∀ l e, P l → P (l.step e).1) (es : List LinkEvent) :
    P (l.run es).1 := by
  induction es generalizing l with
  | nil => exact h
  | cons e es ih => rw [run_cons]; exact ih (hstep l e h)

/-! ### One event -/

/-- What the answer of a session has a link do whose frames go out. -/
def reaction (c : Topic) : Action → List LinkAction
  | .send f => [.send f]
  | .data v => [.deliver (push c v)]
  | .error e => [.deliver (.error e)]
  | .completed | .ignore => []

/-- The ways in which a link is lost, and the error that tells of each. -/
inductive Loses (l : Link) : LinkEvent → ClassifiedError → Prop
  | unusable (h : l.stage = .waiting) (hurl : l.url.isRequestable = false) : Loses l .launched (unusable l.url)
  | refused (h : l.stage = .connecting) : Loses l .refused (notConnected l.url)
  /-- The first frame does not go out. -/
  | ungreeted (h : l.stage = .connecting) (hmute : l.mute = true) : Loses l .opened unsent
  /-- The answer to a text does not go out. -/
  | unanswered {t : String} {f : ClientFrame} (h : l.stage = .streaming) (hmute : l.mute = true)
      (hf : (l.session.onText t).2 = .send f) : Loses l (.text t) unsent
  | closed {reason : Option String} (h : l.stage = .streaming) (hp : l.session.phase ≠ .completed) :
      Loses l (.closed reason) (closedFor reason)
  | broken (h : l.stage = .streaming) : Loses l .broken brokenOff
  | exhausted (h : l.stage = .streaming) (hp : l.session.phase ≠ .completed) : Loses l .exhausted dropped

/-- What an event can make of a link, and what the link does then. -/
inductive Move (l : Link) : LinkEvent → Link → List LinkAction → Prop
  /-- The event is none for a link at this stage. -/
  | idle {e : LinkEvent} (h : e.givesUp = true → l.cancelled = true) : Move l e l []
  | launched (h : l.stage = .waiting) : Move l .launched { l with stage := .connecting } []
  | opened (h : l.stage = .connecting) :
      Move l .opened { l with stage := .streaming, session := l.session.opened.1 } [.send .init]
  | muted (h : l.stage ≠ .ended) : Move l .muted { l with mute := true } []
  | heard {t : String} (h : l.stage = .streaming) :
      Move l (.text t) { l with session := (l.session.onText t).1 } (reaction l.topic (l.session.onText t).2)
  | lost {e : LinkEvent} {err : ClassifiedError} (h : l.Loses e err) (said : List ClientFrame) :
      Move l e l.ended (said.map .send ++ [.deliver (.error err)])
  | finished {e : LinkEvent} (h : l.stage = .streaming) (hp : l.session.phase = .completed)
      (he : e.endsSocket = true) : Move l e l.ended []
  | givenUp {e : LinkEvent} (he : e.givesUp = true) (h : l.cancelled = false) : Move l e l.cancel.1 l.cancel.2

theorem react_of_audible {l : Link} (h : l.mute = false) (a : Action) : l.react a = (l, reaction l.topic a) := by
  cases a with
  | send f => rw [react, say, if_neg (by simp [h])]; rfl
  | data | error | completed | ignore => rfl

theorem step_text {l : Link} (h : l.stage = .streaming) (t : String) :
    l.step (.text t) = { l with session := (l.session.onText t).1 }.react (l.session.onText t).2 := by
  simp only [step, h]

/-- A text is answered as the session asks, or the answer does not go out. -/
theorem move_text {l : Link} (h : l.stage = .streaming) (t : String) :
    l.Move (.text t) (l.step (.text t)).1 (l.step (.text t)).2 := by
  have hheard := Move.heard h (t := t)
  rw [step_text h]
  cases ha : (l.session.onText t).2 with
  | send f =>
    rw [ha] at hheard
    by_cases hmute : l.mute = true
    · -- whatever the text made of the session, it is closed now
      have hended : ({ l with session := (l.session.onText t).1 } : Link).ended = l.ended := by
        rw [ended, ended, State.closed_onText]
      rw [react, say, if_pos hmute, hended]
      exact .lost (.unanswered h hmute ha) [f]
    · rw [react, say, if_neg hmute]
      exact hheard
  | data | error | completed | ignore => rw [ha] at hheard; exact hheard

/-- The socket came to its end, which is the loss of the link unless the subscription is complete. -/
theorem move_finish {l : Link} {e : LinkEvent} {err : ClassifiedError} (h : l.stage = .streaming) (he : e.endsSocket = true)
    (hlost : l.session.phase ≠ .completed → l.Loses e err) : l.Move e (l.finish err).1 (l.finish err).2 := by
  rw [finish]
  split
  case isTrue hp => exact .finished h hp he
  case isFalse hp => exact .lost (hlost hp) []

theorem move_step (l : Link) (e : LinkEvent) : l.Move e (l.step e).1 (l.step e).2 := by
  have hgiveUp (he : e.givesUp = true) : l.Move e l.cancel.1 l.cancel.2 := by
    cases hc : l.cancelled with
    | false => exact .givenUp he hc
    | true => rw [cancel, if_pos hc]; exact .idle fun _ => hc
  cases e with
  | cancelled | dropped => cases l.stage <;> exact hgiveUp rfl
  | text t =>
    cases h : l.stage with
    | streaming => exact move_text h t
    | waiting | connecting | ended => simp only [step, h]; exact .idle nofun
  | launched =>
    cases h : l.stage with
    | waiting =>
      simp only [step, h]
      cases hurl : l.url.isRequestable with
      | true => exact .launched h
      | false => exact .lost (.unusable h hurl) []
    | connecting | streaming | ended => simp only [step, h]; exact .idle nofun
  | opened =>
    cases h : l.stage with
    | connecting =>
      simp only [step, h]
      rw [say]
      split
      case isTrue hmute => exact .lost (.ungreeted h hmute) [.init]
      case isFalse => exact .opened h
    | waiting | streaming | ended => simp only [step, h]; exact .idle nofun
  | refused =>
    cases h : l.stage with
    | connecting => simp only [step, h]; exact .lost (.refused h) []
    | waiting | streaming | ended => simp only [step, h]; exact .idle nofun
  | binary => simp only [step]; exact .idle nofun
  | closed reason =>
    cases h : l.stage with
    | streaming => simp only [step, h]; exact move_finish h rfl (.closed h)
    | waiting | connecting | ended => simp only [step, h]; exact .idle nofun
  | broken =>
    cases h : l.stage with
    | streaming => simp only [step, h]; exact .lost (.broken h) []
    | waiting | connecting | ended => simp only [step, h]; exact .idle nofun
  | exhausted =>
    cases h : l.stage with
    | streaming => simp only [step, h]; exact move_finish h rfl (.exhausted h)
    | waiting | connecting | ended => simp only [step, h]; exact .idle nofun
  | muted =>
    cases h : l.stage with
    | connecting | streaming =>
      have hmuted : l.step .muted = ({ l with mute := true }, []) := by simp only [step, h]
      rw [hmuted]
      exact .muted (by simp [h])
    | waiting | ended => simp only [step, h]; exact .idle nofun

/-! ### Losing a link -/

namespace Loses

variable {l : Link} {e : LinkEvent} {err : ClassifiedError}

theorem step_eq (h : l.Loses e err) :
    ∃ said : List ClientFrame, l.step e = (l.ended, said.map .send ++ [.deliver (.error err)]) := by
  cases h with
  | unusable h hurl => exact ⟨[], by simp [step, h, hurl, fail]⟩
  | refused h => exact ⟨[], by simp [step, h, fail]⟩
  | ungreeted h hmute => exact ⟨[.init], by simp [step, h, say, hmute, ended, State.opened, State.closed]⟩
  | @unanswered t f h hmute hf =>
    refine ⟨[f], ?_⟩
    simp only [step, h, hf, react, say, hmute, if_pos, ended, State.closed_onText]
    rfl
  | closed h hp => exact ⟨[], by simp [step, h, finish, hp, fail]⟩
  | broken h => exact ⟨[], by simp [step, h, fail]⟩
  | exhausted h hp => exact ⟨[], by simp [step, h, finish, hp, fail]⟩

theorem delivered_eq (h : l.Loses e err) : delivered (l.step e).2 = [.error err] := by
  obtain ⟨said, hstep⟩ := h.step_eq
  rw [hstep, delivered_append, delivered_send]
  rfl

theorem code_eq (h : l.Loses e err) : err.code = some .websocketError := by cases h <;> rfl

theorem isRetryable (h : l.Loses e err) : err.isRetryable = true := by
  rw [ClassifiedError.isRetryable, ClassifiedError.classification, h.code_eq]
  rfl

theorem givesUp_eq (h : l.Loses e err) : e.givesUp = false := by cases h <;> rfl

theorem stage_ne (h : l.Loses e err) : l.stage ≠ .ended := by cases h <;> simp [*]

end Loses

/-! ### Giving a link up -/

theorem cancel_of_open {l : Link} (hc : l.cancelled = false) (h : l.stage = .streaming) :
    l.cancel = ({ l with stage := .ended, cancelled := true, session := l.session.cancel.1 },
      (l.session.cancel.2.map .send).toList ++ [.close]) := by
  rw [cancel, if_neg (by simp [hc]), if_pos h]

theorem cancel_of_shut {l : Link} (hc : l.cancelled = false) (h : l.stage ≠ .streaming) :
    l.cancel = ({ l with stage := .ended, cancelled := true }, []) := by
  rw [cancel, if_neg (by simp [hc]), if_neg h]

/-- Nothing is delivered when a link is given up. -/
theorem delivered_cancel (l : Link) : delivered l.cancel.2 = [] := by
  cases hc : l.cancelled with
  | true => rw [cancel, if_pos hc]; rfl
  | false =>
    by_cases hl : l.stage = .streaming
    · rw [cancel_of_open hc hl, delivered_append]
      cases l.session.cancel.2 <;> rfl
    · rw [cancel_of_shut hc hl]
      rfl

theorem step_of_givesUp {l : Link} {e : LinkEvent} (he : e.givesUp = true) : l.step e = l.cancel := by
  cases e with
  | cancelled | dropped => cases h : l.stage <;> simp only [step]
  | _ => exact absurd he (by simp [LinkEvent.givesUp])

/-! ### What a run keeps -/

/-- A link that has ended does nothing more; it only remembers that it was given up. -/
theorem step_of_ended {l : Link} (h : l.stage = .ended) (e : LinkEvent) :
    l.step e = ({ l with cancelled := l.cancelled || e.givesUp }, []) := by
  obtain ⟨url, c, stage, cancelled, mute, s⟩ := l
  obtain rfl : stage = .ended := h
  cases e with
  | cancelled | dropped => cases cancelled <;> rfl
  | _ => simp [step, LinkEvent.givesUp]

theorem run_of_ended {l : Link} (h : l.stage = .ended) (es : List LinkEvent) :
    l.run es = ({ l with cancelled := l.cancelled || es.any LinkEvent.givesUp }, []) := by
  induction es generalizing l with
  | nil => rw [run_nil, List.any_nil, Bool.or_false]
  | cons e es ih =>
    have hrest := ih (l := { l with cancelled := l.cancelled || e.givesUp }) h
    rw [run_cons, step_of_ended h, hrest, List.any_cons, ← Bool.or_assoc]
    rfl

theorem cancelled_step (l : Link) (e : LinkEvent) : (l.step e).1.cancelled = (l.cancelled || e.givesUp) := by
  have hmove := l.move_step e
  generalize l.step e = next at hmove ⊢
  obtain ⟨l', done⟩ := next
  cases hmove with
  | idle h => cases he : e.givesUp <;> simp_all
  | launched | opened | muted | heard => exact (Bool.or_false _).symm
  | lost h said => rw [h.givesUp_eq]; exact (Bool.or_false _).symm
  | finished h hp he => rw [LinkEvent.givesUp_of_endsSocket he]; exact (Bool.or_false _).symm
  | givenUp he hc =>
    rw [he, Bool.or_true]
    by_cases hl : l.stage = .streaming
    · rw [cancel_of_open hc hl]
    · rw [cancel_of_shut hc hl]

/-- A link remembers whether it was given up. -/
theorem cancelled_run (l : Link) (es : List LinkEvent) :
    (l.run es).1.cancelled = (l.cancelled || es.any LinkEvent.givesUp) := by
  induction es generalizing l with
  | nil => rw [run_nil, List.any_nil, Bool.or_false]
  | cons e es ih => rw [run_cons, ih, cancelled_step, List.any_cons, Bool.or_assoc]

theorem topic_step (l : Link) (e : LinkEvent) : (l.step e).1.topic = l.topic := by
  have hmove := l.move_step e
  generalize l.step e = next at hmove ⊢
  obtain ⟨l', done⟩ := next
  cases hmove with
  | givenUp he hc =>
    by_cases hl : l.stage = .streaming
    · rw [cancel_of_open hc hl]
    · rw [cancel_of_shut hc hl]
  | _ => rfl

/-- A link stays with its topic. -/
theorem topic_run (l : Link) (es : List LinkEvent) : (l.run es).1.topic = l.topic :=
  run_induction (P := fun m => m.topic = l.topic) rfl (fun m e h => (m.topic_step e).trans h) es

/-- How the stage of a link goes with its session, and with whether it was given up. -/
structure Sound (l : Link) : Prop where
  unopened : l.stage = .waiting ∨ l.stage = .connecting → l.session.phase = .connecting
  opened : l.stage = .streaming → l.session.socketOpen = true
  /-- Who gives a link up ends it. -/
  ended : l.cancelled = true → l.stage = .ended
  cancelled : l.session.cancelled = true → l.cancelled = true

theorem sound_new (url : Url) (c : Topic) (request : Graphql.Request) : (new url c request).Sound :=
  ⟨fun _ => rfl, nofun, nofun, nofun⟩

theorem Sound.step {l : Link} (h : l.Sound) (e : LinkEvent) : (l.step e).1.Sound := by
  have hmove := l.move_step e
  generalize l.step e = next at hmove ⊢
  obtain ⟨l', done⟩ := next
  have hlive (hl : l.stage ≠ .ended) : l.cancelled = false := Bool.eq_false_iff.2 fun hc => hl (h.ended hc)
  cases hmove with
  | idle => exact h
  | launched hl =>
    have hc := hlive (by simp [hl])
    exact ⟨fun _ => h.unopened (.inl hl), nofun, fun hc' => absurd hc' (by simp [hc]), h.cancelled⟩
  | opened hl =>
    have hc := hlive (by simp [hl])
    exact ⟨by simp, fun _ => rfl, fun hc' => absurd hc' (by simp [hc]), h.cancelled⟩
  | muted => exact ⟨h.unopened, h.opened, h.ended, h.cancelled⟩
  | heard hl =>
    refine ⟨fun hs => ?_, fun hs => State.socketOpen_onText (h.opened hs) _, h.ended, ?_⟩
    · rcases hs with hs | hs <;> exact absurd (hl.symm.trans hs) (by simp)
    · rw [State.cancelled_onText]
      exact h.cancelled
  | lost | finished => exact ⟨by simp, by simp, fun _ => rfl, h.cancelled⟩
  | givenUp he hc =>
    by_cases hl : l.stage = .streaming
    · rw [cancel_of_open hc hl]
      exact ⟨by simp, by simp, fun _ => rfl, fun _ => rfl⟩
    · rw [cancel_of_shut hc hl]
      exact ⟨by simp, by simp, fun _ => rfl, fun _ => rfl⟩

theorem sound_run (url : Url) (c : Topic) (request : Graphql.Request) (es : List LinkEvent) :
    ((new url c request).run es).1.Sound :=
  run_induction (sound_new url c request) (fun _ e h => h.step e) es

/-- Only the server completes a subscription. -/
theorem completed_step {l : Link} {e : LinkEvent} (h : (l.step e).1.session.phase = .completed) :
    l.session.phase = .completed ∨ e.kind? = some .complete := by
  have hmove := l.move_step e
  generalize l.step e = next at hmove h
  obtain ⟨l', done⟩ := next
  cases hmove with
  | idle | launched | muted => exact .inl h
  | opened | lost | finished => exact absurd h (by simp [State.opened, State.closed])
  | @heard t hl =>
    cases hs : l.session.cancelled with
    | true => exact .inl (by rwa [State.onText_of_cancelled hs] at h)
    | false =>
      rw [State.onText_fst hs] at h
      rcases l.session.phase.after_cases (ServerFrame.kindOfText? t) with ⟨-, -, hp⟩ | ⟨hk, -⟩ | hp
      · exact absurd (hp.symm.trans h) (by simp)
      · exact .inr hk
      · exact .inl (hp.symm.trans h)
  | givenUp he hc =>
    by_cases hl : l.stage = .streaming
    · rw [cancel_of_open hc hl] at h
      exact .inl (l.session.phase_cancel.symm.trans h)
    · rw [cancel_of_shut hc hl] at h
      exact .inl h

theorem completed_run {l : Link} {es : List LinkEvent} (hl : l.session.phase ≠ .completed)
    (h : (l.run es).1.session.phase = .completed) : ∃ e ∈ es, e.kind? = some .complete := by
  induction es using List.reverseRecOn with
  | nil => exact absurd h hl
  | append_singleton es e ih =>
    rw [run_concat] at h
    rcases completed_step h with h | he
    · obtain ⟨x, hx, hk⟩ := ih h
      exact ⟨x, List.mem_append_left _ hx, hk⟩
    · exact ⟨e, List.mem_append_right _ (List.mem_singleton.2 rfl), he⟩

end Link

end FleetFeed.Feed
