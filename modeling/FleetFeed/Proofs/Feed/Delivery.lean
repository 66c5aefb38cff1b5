import FleetFeed.Proofs.Feed.LinkMoves

/-! What arrives over an open socket, and what is said in answer. Each frame brings what it says by itself, whatever came
before it and however far the subscription is; the first acknowledgement is answered with the subscription, each ping with
its pong, and nothing else is said after the greeting. -/
namespace FleetFeed.Feed

open Event Session

/-- What a frame brings to those who watch a topic: a record or why it is none, the first error of a reply, or the error of
an error frame. -/
def brought (c : Topic) : ServerFrame → List (Push Record)
  | .next _ ⟨_, some (e :: _)⟩ => [.error e.classified]
  | .next _ ⟨data, _⟩ => match c.decode (data.getD .null) with
    | .ok record => [.event record]
    | .error e => [.error e]
  | .error _ payload => [.error payload.classified]
  | .connectionAck _ | .complete _ | .ping _ | .pong _ | .unknown => []

namespace LinkEvent

/-- What an event brings to those who watch a topic: what its frame does, or that its text is no frame. -/
def brings (c : Topic) : LinkEvent → List (Push Record)
  | .text t => match ServerFrame.ofText t with
    | .ok f => brought c f
    | .error e => [.error (.malformed e)]
  | _ => []

/-- A ping is answered, and nothing else. -/
def pongs (e : LinkEvent) : List ClientFrame := if e.kind? = some .ping then [.pong none] else []

/-- What is said in answer to some frames: the subscription to the first acknowledgement, and a pong to each ping. -/
def replies (request : Graphql.Request) : List LinkEvent → List ClientFrame
  | [] => []
  | e :: es =>
    if e.kind? = some .connectionAck then .subscribe "1" request :: es.flatMap pongs else e.pongs ++ replies request es

theorem brings_of_ok {t : String} {f : ServerFrame} (h : ServerFrame.ofText t = .ok f) (c : Topic) :
    brings c (.text t) = brought c f := by
  rw [brings, h]

theorem brings_of_error {t : String} {e : Json.DecodeError} (h : ServerFrame.ofText t = .error e) (c : Topic) :
    brings c (.text t) = [.error (.malformed e)] := by
  rw [brings, h]

theorem isFrame_of_kind? {e : LinkEvent} {k : ServerFrame.Kind} (h : e.kind? = some k) : e.isFrame = true := by
  cases e with
  | text => rfl
  | _ => exact absurd h (by simp [kind?])

end LinkEvent

namespace Link

/-! ### One frame -/

/-- The socket is open, what is sent goes out, and nobody gave the link up. -/
structure Flows (l : Link) : Prop where
  streaming : l.stage = .streaming
  audible : l.mute = false
  wanted : l.session.cancelled = false

section Answer

variable {s : Session.State} (hs : s.cancelled = false)
include hs

/-- Whatever the phase of the session is, a text is delivered as what it says by itself. -/
theorem delivered_reaction (c : Topic) (t : String) :
    delivered (reaction c (s.onText t).2) = LinkEvent.brings c (.text t) := by
  cases h : ServerFrame.ofText t with
  | error e => rw [State.onText_of_error hs h, LinkEvent.brings_of_error h]; rfl
  | ok f =>
    rw [State.onText_of_ok hs h, State.onFrame_snd hs, LinkEvent.brings_of_ok h]
    cases f with
    | connectionAck p => dsimp only; split <;> rfl
    | next id r =>
      obtain ⟨data, errors⟩ := r
      rcases errors with _ | _ | ⟨e, rest⟩
      · simp only [Graphql.Response.result, reaction, push, brought]
        cases c.decode (data.getD .null) <;> rfl
      · simp only [Graphql.Response.result, reaction, push, brought]
        cases c.decode (data.getD .null) <;> rfl
      · rfl
    | error | complete | ping | pong | unknown => rfl

theorem sent_reaction (c : Topic) (t : String) : sent (reaction c (s.onText t).2) =
    if ServerFrame.kindOfText? t = some .connectionAck ∧ s.phase = .awaitingAck then [.start s.request]
    else LinkEvent.pongs (.text t) := by
  rw [LinkEvent.pongs, LinkEvent.kind?]
  cases h : ServerFrame.ofText t with
  | error e => rw [State.onText_of_error hs h, ServerFrame.kindOfText?_of_error h]; rfl
  | ok f =>
    rw [State.onText_of_ok hs h, State.onFrame_snd hs, ServerFrame.kindOfText?_of_ok h]
    cases f with
    | connectionAck p => by_cases hp : s.phase = .awaitingAck <;> simp [ServerFrame.kindOf, hp, reaction, sent]
    | next id r => cases hr : r.result <;> simp [hr, ServerFrame.kindOf, reaction, sent]
    | error | complete | ping | pong | unknown => rfl

end Answer

/-- The link after a frame: only the phase of its session can have moved. -/
def advance (l : Link) (e : LinkEvent) : Link := { l with session := { l.session with phase := l.session.phase.after e.kind? } }

theorem step_frame {l : Link} (h : l.Flows) {e : LinkEvent} (he : e.isFrame = true) :
    (l.step e).1 = l.advance e ∧ delivered (l.step e).2 = e.brings l.topic ∧
      sent (l.step e).2 =
        if e.kind? = some .connectionAck ∧ l.session.phase = .awaitingAck then [.start l.session.request] else e.pongs := by
  cases e with
  | text t =>
    have haudible : ({ l with session := (l.session.onText t).1 } : Link).mute = false := h.audible
    rw [step_text h.streaming, react_of_audible haudible]
    refine ⟨?_, delivered_reaction h.wanted _ t, sent_reaction h.wanted _ t⟩
    rw [State.onText_fst h.wanted]
    rfl
  | binary =>
    have hkept : l.session.phase.after LinkEvent.binary.kind? = l.session.phase := Phase.after_of_ne nofun nofun
    have hstep : l.step .binary = (l, []) := by simp only [step]
    rw [hstep]
    refine ⟨?_, rfl, rfl⟩
    rw [advance, hkept]
  | _ => exact absurd he (by simp [LinkEvent.isFrame])

theorem Flows.goesOn {l : Link} (h : l.Flows) (e : LinkEvent) : (l.advance e).Flows := ⟨h.1, h.2, h.3⟩

/-! ### Many frames -/

/-- Frames leave an open link open, and are delivered one after the other, each by itself. -/
theorem Flows.run {l : Link} (h : l.Flows) {es : List LinkEvent} (hes : ∀ e ∈ es, e.isFrame = true) :
    (l.run es).1.Flows ∧ delivered (l.run es).2 = es.flatMap (LinkEvent.brings l.topic) := by
  induction es generalizing l with
  | nil => exact ⟨h, rfl⟩
  | cons e es ih =>
    obtain ⟨hnext, hdelivered, -⟩ := step_frame h (hes e List.mem_cons_self)
    obtain ⟨hflows, hrest⟩ := ih (h.goesOn e) fun x hx => hes x (List.mem_cons_of_mem _ hx)
    rw [run_cons, hnext, delivered_append, hdelivered, hrest]
    exact ⟨hflows, rfl⟩

/-- Where no acknowledgement is awaited, pings are all that is answered. -/
theorem Flows.sent_run {l : Link} (h : l.Flows) (hp : l.session.phase ≠ .awaitingAck) {es : List LinkEvent}
    (hes : ∀ e ∈ es, e.isFrame = true) : sent (l.run es).2 = es.flatMap LinkEvent.pongs := by
  induction es generalizing l with
  | nil => rfl
  | cons e es ih =>
    obtain ⟨hnext, -, hsent⟩ := step_frame h (hes e List.mem_cons_self)
    have hp' : (l.advance e).session.phase ≠ .awaitingAck := by
      rcases l.session.phase.after_cases e.kind? with ⟨h', -⟩ | ⟨-, h'⟩ | h'
      · exact absurd h' hp
      · exact fun hawait => absurd (h'.symm.trans hawait) nofun
      · exact fun hawait => hp (h'.symm.trans hawait)
    rw [run_cons, hnext, sent_append, hsent, if_neg fun hboth => hp hboth.2,
      ih (h.goesOn e) hp' fun x hx => hes x (List.mem_cons_of_mem _ hx)]
    rfl

/-- The acknowledgement that is awaited is answered with the subscription, and from then on pings are all that is answered. -/
theorem Flows.sent_run_ack {l : Link} (h : l.Flows) (hp : l.session.phase = .awaitingAck) {ack : LinkEvent}
    (hack : ack.kind? = some .connectionAck) {es : List LinkEvent} (hes : ∀ e ∈ ack :: es, e.isFrame = true) :
    sent (l.run (ack :: es)).2 = LinkEvent.replies l.session.request (ack :: es) := by
  obtain ⟨hnext, -, hsent⟩ := step_frame h (hes ack List.mem_cons_self)
  have hp' : (l.advance ack).session.phase ≠ .awaitingAck := by simp [advance, hp, hack, Phase.after]
  rw [run_cons, hnext, sent_append, hsent, if_pos ⟨hack, hp⟩,
    (h.goesOn ack).sent_run hp' fun x hx => hes x (List.mem_cons_of_mem _ hx), LinkEvent.replies, if_pos hack]
  rfl

/-- The first acknowledgement is answered with the subscription, unless the server ended that before. -/
theorem Flows.sent_run_before {l : Link} (h : l.Flows) (hp : l.session.phase = .awaitingAck)
    {before after : List LinkEvent} {ack : LinkEvent}
    (hbefore : ∀ e ∈ before, e.isFrame = true ∧ e.kind? ≠ some .complete)
    (hack : ack.kind? = some .connectionAck) (hafter : ∀ e ∈ ack :: after, e.isFrame = true) :
    sent (l.run (before ++ ack :: after)).2 = LinkEvent.replies l.session.request (before ++ ack :: after) := by
  induction before generalizing l with
  | nil => exact h.sent_run_ack hp hack hafter
  | cons e before ih =>
    obtain ⟨hframe, hcomplete⟩ := hbefore e List.mem_cons_self
    have hrest : ∀ x ∈ before, x.isFrame = true ∧ x.kind? ≠ some .complete :=
      fun x hx => hbefore x (List.mem_cons_of_mem _ hx)
    by_cases hk : e.kind? = some .connectionAck
    · -- an acknowledgement came before the one that is named
      refine h.sent_run_ack hp hk fun x hx => ?_
      rcases List.mem_cons.1 hx with rfl | hx
      · exact hframe
      · rcases List.mem_append.1 hx with hx | hx
        · exact (hrest x hx).1
        · exact hafter x hx
    · obtain ⟨hnext, -, hsent⟩ := step_frame h hframe
      have hp' : (l.advance e).session.phase = .awaitingAck := (Phase.after_of_ne hk hcomplete).trans hp
      rw [List.cons_append, run_cons, hnext, sent_append, hsent, if_neg fun hboth => hk hboth.1,
        ih (h.goesOn e) hp' hrest, LinkEvent.replies, if_neg hk]
      rfl

/-! ### A whole subscription -/

/-- The link when its greeting went out. -/
def greeted (url : Url) (c : Topic) (request : Graphql.Request) : Link :=
  ⟨url, c, .streaming, false, false, ⟨.awaitingAck, false, request⟩⟩

theorem flows_greeted (url : Url) (c : Topic) (request : Graphql.Request) : (greeted url c request).Flows := ⟨rfl, rfl, rfl⟩

theorem run_greeted {url : Url} (hurl : url.isRequestable = true) (c : Topic) (request : Graphql.Request)
    (es : List LinkEvent) : (new url c request).run (.launched :: .opened :: es) =
      (((greeted url c request).run es).1, .send .init :: ((greeted url c request).run es).2) := by
  have hopened : (new url c request).run [.launched, .opened] = (greeted url c request, [.send .init]) := by
    simp [run_cons, new, step, hurl, say, Session.start, State.opened, greeted]
  have hrun := run_append (new url c request) [.launched, .opened] es
  rw [hopened] at hrun
  exact hrun

/-- On a socket that was accepted, and that nobody gives up, everything after an acknowledgement is delivered as what each
frame brings by itself, in order. The first thing that is said is the greeting; then the first acknowledgement is answered
with the subscription, and each ping with a pong. -/
theorem frames_are_delivered (url : Url) (c : Topic) (request : Graphql.Request) (before after : List LinkEvent)
    (ack : LinkEvent) (hurl : url.isRequestable = true)
    (hbefore : ∀ e ∈ before, e.isFrame = true ∧ e.kind? ≠ some .complete)
    (hack : ack.kind? = some .connectionAck) (hafter : ∀ e ∈ after, e.isFrame = true) :
    let l := ((new url c request).run (.launched :: .opened :: (before ++ [ack]))).1
    let whole := (new url c request).run (.launched :: .opened :: (before ++ ack :: after))
    delivered (l.run after).2 = after.flatMap (LinkEvent.brings c) ∧
      sent whole.2 = .connectionInit (.obj []) :: LinkEvent.replies request (before ++ ack :: after) ∧
      whole.1.stage = .streaming := by
  intro l whole
  have hflows := flows_greeted url c request
  have hthen : ∀ e ∈ ack :: after, e.isFrame = true := fun e he =>
    (List.mem_cons.1 he).elim (fun h => h ▸ LinkEvent.isFrame_of_kind? hack) (hafter e)
  have hall : ∀ e ∈ before ++ ack :: after, e.isFrame = true := fun e he =>
    (List.mem_append.1 he).elim (fun h => (hbefore e h).1) (hthen e)
  have hl : l = ((greeted url c request).run (before ++ [ack])).1 := by simp only [l, run_greeted hurl]
  have htopic : l.topic = c := topic_run ..
  have hlater : l.Flows := by
    rw [hl]
    refine (hflows.run fun e he => hall e ?_).1
    rw [List.append_cons]
    exact List.mem_append_left _ he
  have hwhole : whole = _ := run_greeted hurl c request (before ++ ack :: after)
  have hreplies := hflows.sent_run_before rfl hbefore hack hthen
  refine ⟨?_, ?_, ?_⟩
  · rw [(hlater.run hafter).2, htopic]
  · rw [hwhole]
    exact congrArg (ClientFrame.init :: ·) hreplies
  · rw [hwhole]
    exact (hflows.run hall).1.streaming

/-- A socket that can be asked for. -/
def somewhere : Url := ⟨"ws", some ⟨"", "", .name "h", none⟩, .rooted false ["ws"], none, none⟩

/-- A record as a server writes it. -/
def recordText : String := "\x7b\"type\":\"next\",\"payload\":\x7b\"data\":\x7b\"serviceEvents\":\x7b\"action\":\"x\"\x7d\x7d\x7d\x7d"

/-- A ping comes before the acknowledgement, and a record, a frame without text and a text that is no frame after it. -/
theorem record_and_fault_delivered :
    let before : List LinkEvent := [.text ServerFrame.pingText]
    let after : List LinkEvent := [.text recordText, .binary, .text "?"]
    let request : Graphql.Request := ⟨"q", none⟩
    let l := new somewhere .service request
    somewhere.isRequestable = true ∧ (∀ e ∈ before, e.isFrame = true ∧ e.kind? ≠ some .complete) ∧
      (LinkEvent.text ServerFrame.ackText).kind? = some .connectionAck ∧ (∀ e ∈ after, e.isFrame = true) ∧
      delivered ((l.run (.launched :: .opened :: (before ++ [.text ServerFrame.ackText]))).1.run after).2 =
        [.event (.service ⟨"", "", "x", 0, 0, "", none⟩), .error (.malformed .notJson)] ∧
      sent (l.run (.launched :: .opened :: (before ++ .text ServerFrame.ackText :: after))).2 =
        [.connectionInit (.obj []), .pong none, .subscribe "1" request] := by
  intro before after request l
  have hread : ServerFrame.ofText recordText =
      .ok (.next none ⟨some (.obj [("serviceEvents", .obj [("action", .str "x")])]), none⟩) := by decide +kernel
  have hunread : ServerFrame.ofText "?" = .error .notJson := by decide +kernel
  have hping : LinkEvent.kind? (.text ServerFrame.pingText) = some .ping := ServerFrame.kindOfText?_ping
  have hack : LinkEvent.kind? (.text ServerFrame.ackText) = some .connectionAck := ServerFrame.kindOfText?_ack
  have hbefore : ∀ e ∈ before, e.isFrame = true ∧ e.kind? ≠ some .complete := by simp [before, hping, LinkEvent.isFrame]
  have hafter : ∀ e ∈ after, e.isFrame = true := by simp [after, LinkEvent.isFrame]
  obtain ⟨hdelivered, hsent, -⟩ := frames_are_delivered somewhere .service request before after (.text ServerFrame.ackText)
    (by decide) hbefore hack hafter
  have hbrings : after.flatMap (LinkEvent.brings .service) =
      [.event (.service ⟨"", "", "x", 0, 0, "", none⟩), .error (.malformed .notJson)] := by
    have hrecord : brought .service (.next none ⟨some (.obj [("serviceEvents", .obj [("action", .str "x")])]), none⟩) =
        [.event (.service ⟨"", "", "x", 0, 0, "", none⟩)] := by decide +kernel
    simp only [after, List.flatMap_cons, LinkEvent.brings_of_ok hread, LinkEvent.brings_of_error hunread, hrecord]
    rfl
  have hreplies : LinkEvent.replies request (before ++ .text ServerFrame.ackText :: after) =
      [.pong none, .subscribe "1" request] := by
    have hrecord : LinkEvent.kind? (.text recordText) = some .next := ServerFrame.kindOfText?_of_ok hread
    have hfault : LinkEvent.kind? (.text "?") = none := ServerFrame.kindOfText?_of_error hunread
    have hbinary : LinkEvent.binary.kind? = none := rfl
    simp [before, after, LinkEvent.replies, LinkEvent.pongs, hping, hack, hrecord, hfault, hbinary]
  rw [hbrings] at hdelivered
  rw [hreplies] at hsent
  exact ⟨by decide, hbefore, hack, hafter, hdelivered, hsent⟩

end Link

end FleetFeed.Feed
