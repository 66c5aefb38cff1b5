import FleetFeed.Proofs.Session.Calls

/-! How a session ends. One that is closed stays so until it is opened again, but for the end of its subscription, which it
takes from a server also then; and it still answers a ping. One that is given up tells the server once, if its socket is open,
and hears nothing from then on. -/
namespace FleetFeed.Session

open Graphql

def ClientFrame.isComplete : ClientFrame → Bool
  | .complete _ => true
  | .connectionInit _ | .subscribe _ _ | .pong _ => false

namespace State

variable {s : State} {cs : List Call}

/-! ### Closed -/

/-- A subscription is complete since its server ended it, while the socket does not change. -/
theorem completed_iff_since (hs : s.phase ≠ .completed) (cs : List Call) :
    (s.run cs).phase = .completed ↔
      s.Since (fun s c => s.heard? c = some .complete) (fun x => x ≠ .opened ∧ x ≠ .closed) cs :=
  run_iff_since (P := fun s => s.phase = .completed) hs fun before c _ => by
    rw [phase_step]
    cases c <;> simp [phaseAfter, Phase.after_eq_completed, heard?]

theorem closed_or_completed_run (hs : s.phase = .closed ∨ s.phase = .completed) (h : .opened ∉ cs) :
    (s.run cs).phase = .closed ∨ (s.run cs).phase = .completed := by
  induction cs generalizing s with
  | nil => exact hs
  | cons c cs ih =>
    rw [run_cons]
    refine ih ?_ fun hx => h (List.mem_cons_of_mem _ hx)
    rw [phase_step]
    cases c with
    | opened => exact absurd List.mem_cons_self h
    | closed => exact .inl rfl
    | text | frame | cancelled =>
      rcases s.phase.after_cases (s.heard? _) with ⟨hp, -⟩ | ⟨-, hp⟩ | hp
      · exact absurd hp (by rcases hs with hs | hs <;> simp [hs])
      · exact .inr hp
      · exact hs.imp hp.trans hp.trans

/-- What a session still sends after it was closed: the answer to a ping, and the word that it is given up if the server
ended the subscription meanwhile. -/
theorem answer_of_closed (hs : s.phase = .closed) (h : .opened ∉ cs) {c : Call} (hc : c ≠ .opened) {f : ClientFrame} :
    s.answer cs c = some (.send f) ↔ (s.run cs).cancelled = false ∧
      ((c.kind? = some .ping ∧ f = .pong none) ∨ (c = .cancelled ∧ (s.run cs).phase = .completed ∧ f = .finish)) := by
  have hphase := closed_or_completed_run (.inl hs) h
  have hnot : (s.run cs).phase ≠ .awaitingAck := by rcases hphase with hp | hp <;> simp [hp]
  have hopen : (s.run cs).socketOpen = true ↔ (s.run cs).phase = .completed := by
    rcases hphase with hp | hp <;> simp [socketOpen, hp]
  rw [answer, step_snd_eq_send, heard?_eq_some, heard?_eq_some, hopen]
  constructor
  · rintro (⟨rfl, -⟩ | ⟨hp, -⟩ | ⟨⟨hlive, hping⟩, rfl⟩ | ⟨rfl, hlive, hcompleted, rfl⟩)
    · exact absurd rfl hc
    · exact absurd hp hnot
    · exact ⟨hlive, .inl ⟨hping, rfl⟩⟩
    · exact ⟨hlive, .inr ⟨rfl, hcompleted, rfl⟩⟩
  · rintro ⟨hlive, ⟨hping, rfl⟩ | ⟨rfl, hcompleted, rfl⟩⟩
    · exact .inr (.inr (.inl ⟨⟨hlive, hping⟩, rfl⟩))
    · exact .inr (.inr (.inr ⟨rfl, hlive, hcompleted, rfl⟩))

/-- A closed session stays closed and sends nothing exactly if it takes neither the end of the subscription nor a ping. -/
theorem closed_quietly_iff (hs : s.phase = .closed) (h : .opened ∉ cs) :
    (∀ told c, told ++ [c] <+: cs → (s.run (told ++ [c])).phase = .closed ∧ ∀ f, s.answer told c ≠ some (.send f)) ↔
      ∀ told c, told ++ [c] <+: cs →
        (s.run told).heard? c ≠ some .complete ∧ (s.run told).heard? c ≠ some .ping := by
  constructor
  · intro hquiet told c hc
    obtain ⟨hclosed, hsends⟩ := hquiet told c hc
    refine ⟨fun hcomplete => ?_, fun hping => hsends _ (step_snd_eq_send.2 (.inr (.inr (.inl ⟨hping, rfl⟩))))⟩
    have hcompleted := (completed_iff_since (s := s) (by simp [hs]) (told ++ [c])).2 (since_concat.2 (.inl hcomplete))
    exact absurd (hclosed.symm.trans hcompleted) (by simp)
  · intro htakes told c hc
    have hsub {past : List Call} (hpast : past <+: cs) : .opened ∉ past := fun hx => h (hpast.subset hx)
    have hnever {past : List Call} (hpast : past <+: cs) : (s.run past).phase ≠ .completed := fun hp => by
      obtain ⟨before, x, since, rfl, hx, -⟩ := (completed_iff_since (by simp [hs]) past).1 hp
      exact (htakes before x ((List.prefix_append (before ++ [x]) since).trans (by simpa using hpast))).1 hx
    have htold : told <+: cs := (List.prefix_append told [c]).trans hc
    have hnew : c ≠ .opened := fun hx => hsub hc (by simp [hx])
    refine ⟨(closed_or_completed_run (.inl hs) (hsub hc)).resolve_right (hnever hc), fun f hf => ?_⟩
    obtain ⟨hlive, ⟨hping, -⟩ | ⟨-, hp, -⟩⟩ := (answer_of_closed hs (hsub htold) hnew).1 hf
    · exact (htakes told c hc).2 (heard?_eq_some.2 ⟨hlive, hping⟩)
    · exact hnever htold hp

/-- A session that was closed is closed or complete until it is opened again, and complete only if the server ended the
subscription since the last time that it was closed. Of the calls that follow only a ping and the first giving up of a session
that is complete have a frame sent. So it stays closed and sends nothing exactly if it takes neither the end of the
subscription nor a ping. -/
theorem closed_stays_closed_unless_completed (request : Request) (before since : List Call) (h : .opened ∉ since) :
    let s := (start request).run (before ++ [.closed])
    ((s.run since).phase = .closed ∨ (s.run since).phase = .completed) ∧
      ((s.run since).phase = .completed ↔
        s.Since (fun s c => s.heard? c = some .complete) (fun x => x ≠ .opened ∧ x ≠ .closed) since) ∧
      (∀ c f, c ≠ .opened → (s.answer since c = some (.send f) ↔ .cancelled ∉ before ++ since ∧
        ((c.kind? = some .ping ∧ f = .pong none) ∨
          (c = .cancelled ∧ (s.run since).phase = .completed ∧ f = .finish)))) ∧
      ((∀ told c, told ++ [c] <+: since →
          (s.run (told ++ [c])).phase = .closed ∧ ∀ f, s.answer told c ≠ some (.send f)) ↔
        ∀ told c, told ++ [c] <+: since →
          (s.run told).heard? c ≠ some .complete ∧ (s.run told).heard? c ≠ some .ping) := by
  intro s
  have hs : s.phase = .closed := by
    simp only [s, run_concat]
    rfl
  have hlive (cs : List Call) : (s.run cs).cancelled = false ↔ .cancelled ∉ before ++ cs := by
    simp [s, cancelled_run, start]
  refine ⟨closed_or_completed_run (.inl hs) h, completed_iff_since (by simp [hs]) since, fun c f hc => ?_,
    closed_quietly_iff hs h⟩
  rw [answer_of_closed hs h hc, hlive]

/-- A text that is no frame leaves a closed session closed: a ping is still answered, and giving up is not told. -/
theorem closed_answers_ping_only :
    let s := (start ⟨"q", none⟩).run ([.opened] ++ [.closed])
    let since : List Call := [.text "?"]
    .opened ∉ since ∧ (s.run since).phase = .closed ∧
      s.answer since (.text ServerFrame.pingText) = some (.send (.pong none)) ∧
      s.answer since .cancelled ≠ some (.send .finish) := by
  intro s since
  have hopened : .opened ∉ since := by simp [since]
  have hread : ServerFrame.ofText "?" = .error .notJson := by decide +kernel
  have hkind : Call.kind? (.text "?") = none := ServerFrame.kindOfText?_of_error hread
  obtain ⟨-, -, hanswer, hstays⟩ := closed_stays_closed_unless_completed ⟨"q", none⟩ [.opened] since hopened
  have hclosed : (s.run since).phase = .closed := (hstays.2 (fun told c hc => by
    obtain rfl : c = .text "?" := List.mem_singleton.1 (hc.subset (by simp))
    simp [heard?_eq_some, hkind]) [] (.text "?") List.prefix_rfl).1
  have hping : Call.kind? (.text ServerFrame.pingText) = some .ping := ServerFrame.kindOfText?_ping
  refine ⟨hopened, hclosed, (hanswer _ _ (by simp)).2 ⟨by simp [since], .inl ⟨hping, rfl⟩⟩, fun hfinish => ?_⟩
  rcases ((hanswer _ _ (by simp)).1 hfinish).2 with ⟨hkind, -⟩ | ⟨-, hcompleted, -⟩
  · exact absurd hkind (by simp)
  · exact absurd (hclosed.symm.trans hcompleted) (by simp)

/-- A session is closed, the server ends the subscription and sends a ping: the session is open again, answers the ping, and
tells the server when it is given up. -/
theorem closed_is_left_and_answers :
    let s := (start ⟨"q", none⟩).run [.opened, .closed, .text ServerFrame.completeText]
    s.phase = .completed ∧ (s.step (.text ServerFrame.pingText)).2 = some (.send (.pong none)) ∧
      (s.step .cancelled).2 = some (.send .finish) := by
  decide +kernel

/-! ### Given up -/

theorem socketOpen_iff (s : State) :
    s.socketOpen = true ↔ s.phase = .awaitingAck ∨ s.phase = .streaming ∨ s.phase = .completed := by
  cases h : s.phase <;> simp [socketOpen, h]

/-- The server is told once at most that a session is given up: when that happens first, if the socket is open then. From then
on the session takes neither texts nor frames, sends nothing for being given up again, and knows that it was given up, whether
its socket is opened or closed meanwhile. -/
theorem cancelled_once_and_for_all (request : Request) (past : List Call) :
    let s := start request
    (∀ c id, s.answer past c = some (.send (.complete id)) ↔ id = "1" ∧ c = .cancelled ∧ .cancelled ∉ past ∧
        ((s.run past).phase = .awaitingAck ∨ (s.run past).phase = .streaming ∨ (s.run past).phase = .completed)) ∧
      (s.sends past).countP ClientFrame.isComplete ≤ 1 ∧
      ∀ since, let t := s.run (past ++ .cancelled :: since)
        t.cancelled = true ∧ (∀ x, t.onText x = (t, .ignore)) ∧ (∀ f, t.onFrame f = (t, .ignore)) ∧
          t.cancel = (t, none) := by
  intro s
  have hlive (cs : List Call) : (s.run cs).cancelled = false ↔ .cancelled ∉ cs := by simp [cancelled_run, s, start]
  refine ⟨fun c id => ?_, ?_, fun since => ?_⟩
  · rw [answer, step_snd_eq_complete, hlive, socketOpen_iff]
    tauto
  · refine (countP_sends_le_one (P := fun s => s.cancelled = false) (fun s c f hf hp => ?_) (fun c _ s h => ?_) s).1
    · cases f with
      | complete id =>
        obtain ⟨rfl, hs, -⟩ := step_snd_eq_complete.1 hf
        exact ⟨hs, by simp [cancelled_step]⟩
      | connectionInit | subscribe | pong => exact absurd hp (by simp [ClientFrame.isComplete])
    · rw [cancelled_step, Bool.or_eq_false_iff] at h
      exact h.1
  · intro t
    have ht : t.cancelled = true := Bool.of_not_eq_false fun h => (hlive _).1 h (by simp)
    exact ⟨ht, onText_of_cancelled ht, onFrame_of_cancelled ht, cancel_of_cancelled ht⟩

end State

end FleetFeed.Session
