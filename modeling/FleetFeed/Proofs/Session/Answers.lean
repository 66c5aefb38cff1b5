import FleetFeed.Session.Machine

/-! What a text does to a session, by the kind of the frame that is read from it. Only an acknowledgement that is awaited and
the end of the subscription change the phase; only that acknowledgement and a ping are answered with a frame. -/
namespace FleetFeed.Session

namespace ServerFrame

def kindOf : ServerFrame → Kind
  | .connectionAck _ => .connectionAck
  | .next _ _ => .next
  | .error _ _ => .error
  | .complete _ => .complete
  | .ping _ => .ping
  | .pong _ => .pong
  | .unknown => .unknown

/-- The kind of the frame in a text that can be read as one. -/
def kindOfText? (t : String) : Option Kind := (ofText t).toOption.map kindOf

theorem kindOfText?_of_ok {t : String} {f : ServerFrame} (h : ofText t = .ok f) : kindOfText? t = some f.kindOf := by
  rw [kindOfText?, h]
  rfl

theorem kindOfText?_of_error {t : String} {e : Json.DecodeError} (h : ofText t = .error e) : kindOfText? t = none := by
  rw [kindOfText?, h]
  rfl

/-! Three frames as a server writes them. -/

def ackText : String := "\x7b\"type\":\"connection_ack\"\x7d"

def pingText : String := "\x7b\"type\":\"ping\"\x7d"

def completeText : String := "\x7b\"type\":\"complete\"\x7d"

theorem kindOfText?_ack : kindOfText? ackText = some .connectionAck := by decide +kernel

theorem kindOfText?_ping : kindOfText? pingText = some .ping := by decide +kernel

theorem kindOfText?_complete : kindOfText? completeText = some .complete := by decide +kernel

end ServerFrame

/-- Where a frame takes a session; a text that is no frame takes it nowhere. -/
def Phase.after : Phase → Option ServerFrame.Kind → Phase
  | .awaitingAck, some .connectionAck => .streaming
  | _, some .complete => .completed
  | p, _ => p

theorem Phase.after_cases (p : Phase) (k : Option ServerFrame.Kind) :
    (p = .awaitingAck ∧ k = some .connectionAck ∧ p.after k = .streaming) ∨
      (k = some .complete ∧ p.after k = .completed) ∨ p.after k = p := by
  unfold Phase.after
  split
  · exact .inl ⟨rfl, rfl, rfl⟩
  · exact .inr (.inl ⟨rfl, rfl⟩)
  · exact .inr (.inr rfl)

theorem Phase.after_of_ne {p : Phase} {k : Option ServerFrame.Kind} (hack : k ≠ some .connectionAck)
    (hcomplete : k ≠ some .complete) : p.after k = p := by
  rcases p.after_cases k with ⟨-, hk, -⟩ | ⟨hk, -⟩ | h
  · exact absurd hk hack
  · exact absurd hk hcomplete
  · exact h

theorem Phase.after_complete (p : Phase) : p.after (some .complete) = .completed := by cases p <;> rfl

/-- A subscription that is complete stays so. -/
theorem Phase.completed_after (k : Option ServerFrame.Kind) : Phase.completed.after k = .completed := by
  rcases Phase.completed.after_cases k with ⟨hp, -⟩ | ⟨-, h⟩ | h
  · exact absurd hp (by simp)
  · exact h
  · exact h

namespace State

theorem onText_of_cancelled {s : State} (h : s.cancelled = true) (t : String) : s.onText t = (s, .ignore) := by
  rw [onText, if_pos h]

theorem onText_of_ok {s : State} {t : String} {f : ServerFrame} (hs : s.cancelled = false)
    (h : ServerFrame.ofText t = .ok f) : s.onText t = s.onFrame f := by
  rw [onText, if_neg (by simp [hs]), h]

theorem onText_of_error {s : State} {t : String} {e : Json.DecodeError} (hs : s.cancelled = false)
    (h : ServerFrame.ofText t = .error e) : s.onText t = (s, .error (.malformed e)) := by
  rw [onText, if_neg (by simp [hs]), h]

theorem onFrame_fst {s : State} (hs : s.cancelled = false) (f : ServerFrame) :
    (s.onFrame f).1 = { s with phase := s.phase.after (some f.kindOf) } := by
  obtain ⟨p, cancelled, request⟩ := s
  obtain rfl : cancelled = false := hs
  cases f with
  | connectionAck => cases p <;> rfl
  | next id r =>
    have hkept : p.after (some .next) = p := Phase.after_of_ne (by simp) (by simp)
    cases h : r.result <;> simp [onFrame, ServerFrame.kindOf, hkept, h]
  | complete => cases p <;> rfl
  | error | ping | pong | unknown => simp [onFrame, ServerFrame.kindOf, Phase.after_of_ne]

/-- What a frame is answered with depends on the phase for an acknowledgement only. -/
theorem onFrame_snd {s : State} (hs : s.cancelled = false) (f : ServerFrame) : (s.onFrame f).2 = match f with
    | .connectionAck _ => if s.phase = .awaitingAck then .send (.start s.request) else .ignore
    | .next _ r => match r.result with
      | .ok v => .data v
      | .error e => .error e
    | .error _ payload => .error payload.classified
    | .complete _ => .completed
    | .ping _ => .send (.pong none)
    | .pong _ | .unknown => .ignore := by
  obtain ⟨p, cancelled, request⟩ := s
  obtain rfl : cancelled = false := hs
  cases f with
  | connectionAck => cases p <;> rfl
  | next id r => cases h : r.result <;> simp [onFrame, h]
  | error | complete | ping | pong | unknown => rfl

/-- A text moves the phase of a session, and nothing else of it. -/
theorem onText_fst {s : State} (hs : s.cancelled = false) (t : String) :
    (s.onText t).1 = { s with phase := s.phase.after (ServerFrame.kindOfText? t) } := by
  cases h : ServerFrame.ofText t with
  | ok f => rw [onText_of_ok hs h, onFrame_fst hs, ServerFrame.kindOfText?_of_ok h]
  | error e =>
    rw [onText_of_error hs h, ServerFrame.kindOfText?_of_error h, Phase.after_of_ne (by simp) (by simp)]

/-- What is said over an open socket leaves it open. -/
theorem socketOpen_onText {s : State} (h : s.socketOpen = true) (t : String) : (s.onText t).1.socketOpen = true := by
  cases hs : s.cancelled with
  | true => rw [onText_of_cancelled hs]; exact h
  | false =>
    rw [onText_fst hs, socketOpen]
    rcases s.phase.after_cases (ServerFrame.kindOfText? t) with ⟨-, -, hp⟩ | ⟨-, hp⟩ | hp
    · rw [hp]
    · rw [hp]
    · rw [hp]; exact h

theorem cancelled_onText (s : State) (t : String) : (s.onText t).1.cancelled = s.cancelled := by
  cases hs : s.cancelled with
  | true => rw [onText_of_cancelled hs]; exact hs
  | false => rw [onText_fst hs]; exact hs

/-- Whatever was said before, a session that is closed is the same. -/
theorem closed_onText (s : State) (t : String) : (s.onText t).1.closed = s.closed := by
  cases hs : s.cancelled with
  | true => rw [onText_of_cancelled hs]
  | false => rw [onText_fst hs]; rfl

theorem phase_cancel (s : State) : s.cancel.1.phase = s.phase := by
  rw [cancel]
  split <;> rfl

end State

end FleetFeed.Session
