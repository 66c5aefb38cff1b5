import FleetFeed.Proofs.Session.Calls

/-! The handshake of a session and what flows after it. A subscription is sent for an acknowledgement that an open socket
still awaits, hence once for each socket; a session streams from then on, until it is completed or its socket changes. The
data of a record is handed on whether the session streams or not. -/
namespace FleetFeed.Session

open Graphql

def ClientFrame.isSubscribe : ClientFrame → Bool
  | .subscribe _ _ => true
  | .connectionInit _ | .complete _ | .pong _ => false

/-- A record as a server writes it. -/
def ServerFrame.recordText : String :=
  "\x7b\"type\":\"next\",\"id\":\"1\",\"payload\":\x7b\"data\":true\x7d\x7d"

namespace State

variable {s : State} {cs : List Call}

/-- While a session is not given up, an acknowledgement is awaited from a new socket on until one comes, the server ends the
subscription, or the socket ends. -/
theorem awaits_iff_since (hs : s.phase ≠ .awaitingAck) (h : (s.run cs).cancelled = false) :
    (s.run cs).phase = .awaitingAck ↔ s.Since (fun _ c => c = .opened)
      (fun x => x ≠ .closed ∧ x.kind? ≠ some .connectionAck ∧ x.kind? ≠ some .complete) cs :=
  run_iff_since_of_not_cancelled (P := fun s => s.phase = .awaitingAck) hs h fun s hs c hc => by
    rw [phase_step]
    cases c <;> simp [phaseAfter, Phase.after_eq_awaitingAck, heard?_of_not_cancelled hs]

/-- While a session is not given up, it streams from its subscription on until the server ends that or the socket changes. -/
theorem streams_iff_since (hs : s.phase ≠ .streaming) (h : (s.run cs).cancelled = false) :
    (s.run cs).phase = .streaming ↔ s.Since (fun s c => ∃ id q, (s.step c).2 = some (.send (.subscribe id q)))
      (fun x => x ≠ .opened ∧ x ≠ .closed ∧ x.kind? ≠ some .complete) cs :=
  run_iff_since_of_not_cancelled (P := fun s => s.phase = .streaming) hs h fun s hs c hc => by
    simp only [phase_step, step_snd_eq_subscribe]
    cases c <;> simp [phaseAfter, Phase.after_eq_streaming, heard?_of_not_cancelled hs]

theorem phase_of_subscribe {c : Call} {id : String} {q : Request} (h : (s.step c).2 = some (.send (.subscribe id q))) :
    s.phase = .awaitingAck ∧ (s.step c).1.phase = .streaming := by
  obtain ⟨hp, hheard, -, -⟩ := step_snd_eq_subscribe.1 h
  refine ⟨hp, ?_⟩
  rw [phase_step]
  cases c with
  | text | frame => exact Phase.after_eq_streaming.2 (.inl ⟨hp, hheard⟩)
  | opened | closed | cancelled => exact absurd (heard?_eq_some.1 hheard).2 (by simp)

/-- Only a new socket has a session await an acknowledgement. -/
theorem awaits_of_step {c : Call} (hc : c ≠ .opened) (h : (s.step c).1.phase = .awaitingAck) : s.phase = .awaitingAck := by
  rw [phase_step] at h
  cases c with
  | opened => exact absurd rfl hc
  | closed => exact absurd h (by simp [phaseAfter])
  | text | frame | cancelled => exact (Phase.after_eq_awaitingAck.1 h).1

/-! ### The subscription -/

/-- A new socket, and nothing else, is greeted. A subscription is sent for an acknowledgement only, and only if a socket was
opened and since then no acknowledgement came, the server did not end the subscription, and the socket did not end. So there
is a new socket between two subscriptions, and one subscription at most for each. -/
theorem subscription_follows_greeting (request : Request) (past : List Call) :
    let s := start request
    (∀ c, s.answer past c = some (.send .init) ↔ c = .opened) ∧
      (∀ c id q, s.answer past c = some (.send (.subscribe id q)) ↔
        id = "1" ∧ q = request ∧ c.kind? = some .connectionAck ∧ .cancelled ∉ past ∧
          s.Since (fun _ c => c = .opened)
            (fun x => x ≠ .closed ∧ x.kind? ≠ some .connectionAck ∧ x.kind? ≠ some .complete) past) ∧
      (∀ c between d id q id' q', s.answer past c = some (.send (.subscribe id q)) →
        s.answer (past ++ c :: between) d = some (.send (.subscribe id' q')) → .opened ∈ between) ∧
      ∀ socket, .opened ∉ socket → ((s.run past).sends socket).countP ClientFrame.isSubscribe ≤ 1 := by
  intro s
  have hfresh : s.phase ≠ .awaitingAck := by simp [s, start]
  refine ⟨fun c => ?_, fun c id q => ?_, fun c between d id q id' q' hfirst hsecond => ?_, fun socket hsocket => ?_⟩
  · simp [answer, step_snd_eq_send, ClientFrame.init, ClientFrame.start, ClientFrame.finish]
  · have hgiven : (s.run past).cancelled = false ↔ .cancelled ∉ past := by simp [cancelled_run, s, start]
    rw [answer, step_snd_eq_subscribe, heard?_eq_some, hgiven, request_run]
    constructor
    · rintro ⟨hp, ⟨hpast, hack⟩, hid, hq⟩
      exact ⟨hid, hq, hack, hpast, (awaits_iff_since hfresh (hgiven.2 hpast)).1 hp⟩
    · rintro ⟨hid, hq, hack, hpast, hsince⟩
      exact ⟨(awaits_iff_since hfresh (hgiven.2 hpast)).2 hsince, ⟨hpast, hack⟩, hid, hq⟩
  · -- the first one has the session stream, so that it awaits nothing when the calls between begin
    have hstreams : ((s.run past).step c).1.phase ≠ .awaitingAck := by
      rw [(phase_of_subscribe hfirst).2]
      simp
    rw [answer, run_append, run_cons] at hsecond
    obtain ⟨hp, hheard, -, -⟩ := step_snd_eq_subscribe.1 hsecond
    obtain ⟨before, e, since, rfl, rfl, -⟩ := (awaits_iff_since hstreams (heard?_eq_some.1 hheard).1).1 hp
    simp
  · refine (countP_sends_le_one (P := fun s => s.phase = .awaitingAck) (fun s c f hf hsub => ?_)
      (fun c hc s => awaits_of_step fun h => hsocket (h ▸ hc)) _).1
    cases f with
    | subscribe id q =>
      obtain ⟨hp, hstreams⟩ := phase_of_subscribe hf
      exact ⟨hp, by rw [hstreams]; simp⟩
    | connectionInit | complete | pong => exact absurd hsub (by simp [ClientFrame.isSubscribe])

/-- The socket of a session that was subscribed is replaced by another one, where it is subscribed again. -/
theorem reopened_is_subscribed_again :
    let s := start ⟨"q", none⟩
    let ack : Call := .text ServerFrame.ackText
    let between : List Call := [ack, .closed, .opened]
    s.answer [.opened] ack = some (.send (.subscribe "1" ⟨"q", none⟩)) ∧
      s.answer ([.opened] ++ ack :: between) ack = some (.send (.subscribe "1" ⟨"q", none⟩)) ∧ .opened ∈ between ∧
      .opened ∉ [ack, ack] ∧ ((s.run [.opened]).sends [ack, ack]).countP ClientFrame.isSubscribe ≤ 1 := by
  intro s ack between
  have hack : ack.kind? = some .connectionAck := ServerFrame.kindOfText?_ack
  have hopened : .opened ∉ [ack, ack] := by simp [ack]
  obtain ⟨-, hfirst, hbetween, honce⟩ := subscription_follows_greeting ⟨"q", none⟩ [.opened]
  obtain ⟨-, hsecond, -⟩ := subscription_follows_greeting ⟨"q", none⟩ ([.opened] ++ ack :: between)
  have hsub := (hfirst ack _ _).2 ⟨rfl, rfl, hack, by simp, [], .opened, [], rfl, rfl, by simp⟩
  have hresub := (hsecond ack _ _).2
    ⟨rfl, rfl, hack, by simp [ack, between], [.opened, ack, ack, .closed], .opened, [], rfl, rfl, by simp⟩
  exact ⟨hsub, hresub, hbetween _ _ _ _ _ _ _ hsub hresub, hopened, honce _ hopened⟩

/-! ### The data -/

/-- The data of a record without errors is handed on until the session is given up, whatever the phase is. The session streams
exactly if its subscription was sent and since then no socket was opened, the server did not end the subscription, and the
socket did not end. -/
theorem data_is_handed_on_in_any_phase (request : Request) (past : List Call) (c : Call) :
    let s := start request
    (∀ v, s.answer past c = some (.data v) ↔
        .cancelled ∉ past ∧ ∃ id r, c.frame? = some (.next id r) ∧ r.result = .ok v) ∧
      (.cancelled ∉ past ∧ (s.run past).phase = .streaming ↔
        .cancelled ∉ past ∧ s.Since (fun s c => ∃ id q, (s.step c).2 = some (.send (.subscribe id q)))
          (fun x => x ≠ .opened ∧ x ≠ .closed ∧ x.kind? ≠ some .complete) past) := by
  intro s
  have hgiven : (s.run past).cancelled = false ↔ .cancelled ∉ past := by simp [cancelled_run, s, start]
  refine ⟨fun v => ?_, and_congr_right fun hpast => streams_iff_since (by simp [s, start]) (hgiven.2 hpast)⟩
  rw [answer, step_snd_eq_data, hgiven]

/-- A record that comes after the server ended the subscription is handed on. -/
theorem record_after_complete_is_data :
    let s := start ⟨"q", none⟩
    let past : List Call := [.opened, .text ServerFrame.ackText, .text ServerFrame.completeText]
    (s.run past).phase = .completed ∧ s.answer past (.text ServerFrame.recordText) = some (.data (.bool true)) := by
  decide +kernel

end State

end FleetFeed.Session
