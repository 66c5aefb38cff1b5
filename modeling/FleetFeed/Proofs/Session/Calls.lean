import FleetFeed.Proofs.Session.Answers
import Mathlib.Data.List.Basic
import Mathlib.Data.List.Induction

/-! What one call makes of a session, and what a run of calls does. A call counts by the frame that the session takes from it,
and a session that is given up takes none. Where a session stands after a run is read off the calls: one took it there, and
none since took it away. -/
namespace FleetFeed.Session

namespace Call

/-- The frame that a call hands over, if it can be read. -/
def frame? : Call → Option ServerFrame
  | .text t => (ServerFrame.ofText t).toOption
  | .frame f => some f
  | .opened | .closed | .cancelled => none

/-- The kind of the frame that a call hands over. -/
def kind? (c : Call) : Option ServerFrame.Kind := c.frame?.map ServerFrame.kindOf

@[simp] theorem kind?_opened : kind? .opened = none := rfl

@[simp] theorem kind?_closed : kind? .closed = none := rfl

@[simp] theorem kind?_cancelled : kind? .cancelled = none := rfl

theorem kind?_text (t : String) : kind? (.text t) = ServerFrame.kindOfText? t := rfl

theorem kind?_frame (f : ServerFrame) : kind? (.frame f) = some f.kindOf := rfl

end Call

namespace Action

/-- The frame that an answer has to be sent. -/
def frame? : Action → Option ClientFrame
  | .send f => some f
  | .data _ | .error _ | .completed | .ignore => none

theorem send_of_frame? {a : Option Action} {f : ClientFrame} (h : a.bind frame? = some f) : a = some (.send f) := by
  cases a with
  | none => exact absurd h (by simp)
  | some a => cases a <;> simp_all [frame?]

end Action

namespace Phase

variable {p : Phase} {k : Option ServerFrame.Kind}

theorem after_eq_awaitingAck :
    p.after k = .awaitingAck ↔ p = .awaitingAck ∧ k ≠ some .connectionAck ∧ k ≠ some .complete := by
  unfold after
  split <;> simp_all

theorem after_eq_streaming :
    p.after k = .streaming ↔ (p = .awaitingAck ∧ k = some .connectionAck) ∨ (p = .streaming ∧ k ≠ some .complete) := by
  unfold after
  split <;> simp_all

theorem after_eq_completed : p.after k = .completed ↔ k = some .complete ∨ p = .completed := by
  unfold after
  split <;> simp_all

end Phase

namespace State

variable {s : State} {c : Call}

/-- The kind of the frame that a session takes from a call. -/
def heard? (s : State) (c : Call) : Option ServerFrame.Kind := if s.cancelled then none else c.kind?

theorem heard?_of_not_cancelled (h : s.cancelled = false) (c : Call) : s.heard? c = c.kind? := by
  rw [heard?, if_neg (by simp [h])]

theorem heard?_eq_some {k : ServerFrame.Kind} :
    s.heard? c = some k ↔ s.cancelled = false ∧ c.kind? = some k := by
  cases h : s.cancelled <;> simp [heard?, h]

/-! ### One call -/

/-- Where a call takes a session. A new socket and the end of one count whatever was before. -/
def phaseAfter (s : State) : Call → Phase
  | .opened => .awaitingAck
  | .closed => .closed
  | c => s.phase.after (s.heard? c)

theorem onFrame_of_cancelled (h : s.cancelled = true) (f : ServerFrame) : s.onFrame f = (s, .ignore) := by
  simp only [onFrame, if_pos h]

theorem cancel_of_cancelled (h : s.cancelled = true) : s.cancel = (s, none) := by
  rw [cancel, if_pos h]

/-- What is left to a session that is given up. -/
theorem step_of_cancelled (h : s.cancelled = true) (c : Call) : s.step c = match c with
    | .opened => ({ s with phase := .awaitingAck }, some (.send .init))
    | .closed => ({ s with phase := .closed }, none)
    | .text _ | .frame _ => (s, some .ignore)
    | .cancelled => (s, none) := by
  cases c with
  | opened | closed => rfl
  | text t => simp only [step, onText_of_cancelled h]
  | frame f => simp only [step, onFrame_of_cancelled h]
  | cancelled => simp only [step, cancel_of_cancelled h, Option.map_none]

theorem step_of_frame? {f : ServerFrame} (hs : s.cancelled = false) (h : c.frame? = some f) :
    s.step c = ((s.onFrame f).1, some (s.onFrame f).2) := by
  cases c with
  | text t =>
    have hread : ServerFrame.ofText t = .ok f := by
      cases hread : ServerFrame.ofText t <;> simp_all [Call.frame?, Except.toOption]
    simp only [step, onText_of_ok hs hread]
  | frame f' =>
    obtain rfl : f' = f := Option.some.inj h
    rfl
  | opened | closed | cancelled => exact absurd h (by simp [Call.frame?])

theorem step_text_of_unread {t : String} (hs : s.cancelled = false) (h : Call.frame? (.text t) = none) :
    ∃ e, s.step (.text t) = (s, some (.error (.malformed e))) := by
  cases hread : ServerFrame.ofText t with
  | ok f => simp [Call.frame?, hread, Except.toOption] at h
  | error e => exact ⟨e, by simp only [step, onText_of_error hs hread]⟩

theorem step_fst (s : State) (c : Call) :
    (s.step c).1 = ⟨s.phaseAfter c, s.cancelled || c = .cancelled, s.request⟩ := by
  have hkept : s.phase.after none = s.phase := Phase.after_of_ne (by simp) (by simp)
  cases hs : s.cancelled with
  | true =>
    have hheard : s.heard? c = none := by rw [heard?, if_pos hs]
    rw [step_of_cancelled hs]
    cases c <;> simp [phaseAfter, hheard, hkept, ← hs]
  | false => cases c with
    | opened | closed => simp [step, opened, closed, phaseAfter, hs]
    | text t => simp [step, onText_fst hs, phaseAfter, heard?_of_not_cancelled hs, Call.kind?_text, hs]
    | frame f => simp [step, onFrame_fst hs, phaseAfter, heard?_of_not_cancelled hs, Call.kind?_frame, hs]
    | cancelled => simp [step, cancel, phaseAfter, heard?_of_not_cancelled hs, hs, hkept]

theorem phase_step (s : State) (c : Call) : (s.step c).1.phase = s.phaseAfter c := by rw [step_fst]

theorem cancelled_step (s : State) (c : Call) : (s.step c).1.cancelled = (s.cancelled || c = .cancelled) := by rw [step_fst]

theorem request_step (s : State) (c : Call) : (s.step c).1.request = s.request := by rw [step_fst]

theorem onFrame_snd_eq_send (hs : s.cancelled = false) {f : ServerFrame} {g : ClientFrame} :
    (s.onFrame f).2 = .send g ↔
      (s.phase = .awaitingAck ∧ f.kindOf = .connectionAck ∧ g = .start s.request) ∨
        (f.kindOf = .ping ∧ g = .pong none) := by
  rw [onFrame_snd hs]
  cases f with
  | connectionAck => by_cases hp : s.phase = .awaitingAck <;> simp [ServerFrame.kindOf, hp, @eq_comm _ g]
  | next id r => cases h : r.result <;> simp [ServerFrame.kindOf, h]
  | error | complete | ping | pong | unknown => simp [ServerFrame.kindOf, @eq_comm _ g]

theorem onFrame_snd_eq_data (hs : s.cancelled = false) {f : ServerFrame} {v : Json.Value} :
    (s.onFrame f).2 = .data v ↔ ∃ id r, f = .next id r ∧ r.result = .ok v := by
  rw [onFrame_snd hs]
  cases f with
  | connectionAck => by_cases hp : s.phase = .awaitingAck <;> simp [hp]
  | next id r => cases h : r.result <;> simp [h]
  | error | complete | ping | pong | unknown => simp

/-- A frame is sent for a new socket, for an acknowledgement that was awaited, for a ping, and when an open socket is given
up. -/
theorem step_snd_eq_send {f : ClientFrame} : (s.step c).2 = some (.send f) ↔
    (c = .opened ∧ f = .init) ∨
    (s.phase = .awaitingAck ∧ s.heard? c = some .connectionAck ∧ f = .start s.request) ∨
    (s.heard? c = some .ping ∧ f = .pong none) ∨
    (c = .cancelled ∧ s.cancelled = false ∧ s.socketOpen = true ∧ f = .finish) := by
  cases hs : s.cancelled with
  | true =>
    have hheard : s.heard? c = none := by rw [heard?, if_pos hs]
    rw [step_of_cancelled hs]
    cases c <;> simp [hheard, @eq_comm _ f]
  | false =>
    rw [heard?_of_not_cancelled hs]
    cases hf : c.frame? with
    | some g =>
      have hkind : c.kind? = some g.kindOf := by rw [Call.kind?, hf]; rfl
      rw [step_of_frame? hs hf, Option.some.injEq, onFrame_snd_eq_send hs, hkind]
      cases c <;> simp_all [Call.frame?]
    | none =>
      have hkind : c.kind? = none := by rw [Call.kind?, hf]; rfl
      cases c with
      | opened => simp [step, opened, hkind, @eq_comm _ f]
      | closed => simp [step, hkind]
      | text t =>
        obtain ⟨e, he⟩ := step_text_of_unread hs hf
        simp [he, hkind]
      | frame g => exact absurd hf (by simp [Call.frame?])
      | cancelled => by_cases ho : s.socketOpen = true <;> simp [step, cancel, hs, hkind, ho, @eq_comm _ f]

theorem step_snd_eq_subscribe {id : String} {q : Graphql.Request} :
    (s.step c).2 = some (.send (.subscribe id q)) ↔
      s.phase = .awaitingAck ∧ s.heard? c = some .connectionAck ∧ id = "1" ∧ q = s.request := by
  simp [step_snd_eq_send, ClientFrame.init, ClientFrame.start, ClientFrame.finish, subscriptionId]

theorem step_snd_eq_complete {id : String} :
    (s.step c).2 = some (.send (.complete id)) ↔
      c = .cancelled ∧ s.cancelled = false ∧ s.socketOpen = true ∧ id = "1" := by
  simp [step_snd_eq_send, ClientFrame.init, ClientFrame.start, ClientFrame.finish, subscriptionId]

/-- Data is what a record brings that has no errors, in whatever phase it comes. -/
theorem step_snd_eq_data {v : Json.Value} :
    (s.step c).2 = some (.data v) ↔
      s.cancelled = false ∧ ∃ id r, c.frame? = some (.next id r) ∧ r.result = .ok v := by
  cases hs : s.cancelled with
  | true =>
    rw [step_of_cancelled hs]
    cases c <;> simp
  | false => cases hf : c.frame? with
    | some f => simp [step_of_frame? hs hf, onFrame_snd_eq_data hs]
    | none => cases c with
      | text t =>
        obtain ⟨e, he⟩ := step_text_of_unread hs hf
        simp [he]
      | frame f => exact absurd hf (by simp [Call.frame?])
      | opened | closed | cancelled => simp [step]

/-! ### Runs of calls -/

@[simp] theorem run_nil (s : State) : s.run [] = s := rfl

theorem run_cons (s : State) (c : Call) (cs : List Call) : s.run (c :: cs) = (s.step c).1.run cs := rfl

theorem run_append (s : State) (xs ys : List Call) : s.run (xs ++ ys) = (s.run xs).run ys := List.foldl_append

theorem run_concat (s : State) (cs : List Call) (c : Call) : s.run (cs ++ [c]) = ((s.run cs).step c).1 := by
  rw [run_append, run_cons, run_nil]

theorem cancelled_run (s : State) (cs : List Call) :
    (s.run cs).cancelled = false ↔ s.cancelled = false ∧ .cancelled ∉ cs := by
  induction cs generalizing s with
  | nil => simp
  | cons c cs ih => simp [run_cons, ih, cancelled_step, and_assoc, @eq_comm _ c]

theorem request_run (s : State) (cs : List Call) : (s.run cs).request = s.request := by
  induction cs generalizing s with
  | nil => rfl
  | cons c cs ih => rw [run_cons, ih, request_step]

/-- What a call is answered with that comes after others. -/
def answer (s : State) (past : List Call) (c : Call) : Option Action := ((s.run past).step c).2

/-- The frames that some calls have a session send, in order. -/
def sends (s : State) : List Call → List ClientFrame
  | [] => []
  | c :: cs => ((s.step c).2.bind Action.frame?).toList ++ (s.step c).1.sends cs

/-- A frame that is sent from certain states only, which sending it leaves and none of the calls returns to, is sent once at
most. -/
theorem countP_sends_le_one {p : ClientFrame → Bool} {P : State → Prop}
    (hsent : ∀ s c f, (s.step c).2 = some (.send f) → p f = true → P s ∧ ¬ P (s.step c).1) {cs : List Call}
    (hback : ∀ c ∈ cs, ∀ s : State, P (s.step c).1 → P s) (s : State) :
    (s.sends cs).countP p ≤ 1 ∧ (¬ P s → (s.sends cs).countP p = 0) := by
  -- the second part is the invariant: outside of the states `P` nothing more is sent
  induction cs generalizing s with
  | nil => simp [sends]
  | cons c cs ih =>
    obtain ⟨hle, hzero⟩ := ih (fun x hx => hback x (List.mem_cons_of_mem _ hx)) (s.step c).1
    rw [sends, List.countP_append]
    cases hf : (s.step c).2.bind Action.frame? with
    | none => exact ⟨by simpa using hle, fun hs => by simpa using hzero fun h => hs (hback c List.mem_cons_self s h)⟩
    | some f =>
      by_cases hp : p f = true
      · obtain ⟨hs, hnext⟩ := hsent s c f (Action.send_of_frame? hf) hp
        exact ⟨by simp [hp, hzero hnext], fun h => absurd hs h⟩
      · refine ⟨by simpa [hp] using hle, fun hs => ?_⟩
        simpa [hp] using hzero fun h => hs (hback c List.mem_cons_self s h)

/-- Some call was as wanted, and every call since it is. -/
def Since (s : State) (enters : State → Call → Prop) (keeps : Call → Prop) (cs : List Call) : Prop :=
  ∃ before c since, cs = before ++ c :: since ∧ enters (s.run before) c ∧ ∀ x ∈ since, keeps x

section Since

variable {enters : State → Call → Prop} {keeps : Call → Prop}

theorem since_nil : ¬ s.Since enters keeps [] := by simp [Since]

theorem since_concat {cs : List Call} :
    s.Since enters keeps (cs ++ [c]) ↔ enters (s.run cs) c ∨ (s.Since enters keeps cs ∧ keeps c) := by
  constructor
  · rintro ⟨before, e, since, hcs, he, hkeeps⟩
    -- the last call is the one that entered, or one that kept what was entered
    rcases List.eq_nil_or_concat' since with rfl | ⟨since, x, rfl⟩
    · obtain ⟨rfl, hc⟩ := List.append_inj' hcs rfl
      obtain rfl := List.singleton_inj.1 hc
      exact .inl he
    · rw [← List.cons_append, ← List.append_assoc] at hcs
      obtain ⟨rfl, hc⟩ := List.append_inj' hcs rfl
      obtain rfl := List.singleton_inj.1 hc
      exact .inr ⟨⟨before, e, since, rfl, he, fun y hy => hkeeps y (List.mem_append_left _ hy)⟩, hkeeps c (by simp)⟩
  · rintro (he | ⟨⟨before, e, since, rfl, he, hkeeps⟩, hc⟩)
    · exact ⟨cs, c, [], rfl, he, by simp⟩
    · refine ⟨before, e, since ++ [c], by simp, he, fun y hy => ?_⟩
      rcases List.mem_append.1 hy with hy | hy
      · exact hkeeps y hy
      · rwa [List.mem_singleton.1 hy]

/-- What some calls take a session to and others take it from holds after a run exactly if a call took it there and none
since took it away. -/
theorem run_iff_since {P : State → Prop} {cs : List Call} (hs : ¬ P s)
    (hstep : ∀ before c, before ++ [c] <+: cs →
      (P ((s.run before).step c).1 ↔ enters (s.run before) c ∨ (P (s.run before) ∧ keeps c))) :
    P (s.run cs) ↔ s.Since enters keeps cs := by
  -- from the end, since it is the last call that enters or keeps
  induction cs using List.reverseRecOn with
  | nil => exact iff_of_false hs since_nil
  | append_singleton cs c ih =>
    rw [run_concat, hstep cs c List.prefix_rfl, since_concat,
      ih fun before x hx => hstep before x (hx.trans (List.prefix_append cs [c]))]

/-- The same for a session that is not given up meanwhile. -/
theorem run_iff_since_of_not_cancelled {P : State → Prop} {cs : List Call} (hs : ¬ P s) (h : (s.run cs).cancelled = false)
    (hstep : ∀ s : State, s.cancelled = false → ∀ c ≠ .cancelled, (P (s.step c).1 ↔ enters s c ∨ (P s ∧ keeps c))) :
    P (s.run cs) ↔ s.Since enters keeps cs := by
  obtain ⟨hfresh, hcs⟩ := (cancelled_run s cs).1 h
  refine run_iff_since hs fun before c hbefore => hstep _ ?_ c ?_
  · exact (cancelled_run s before).2 ⟨hfresh, fun hx => hcs (hbefore.subset (List.mem_append_left _ hx))⟩
  · rintro rfl
    exact hcs (hbefore.subset (by simp))

end Since

end State

end FleetFeed.Session
