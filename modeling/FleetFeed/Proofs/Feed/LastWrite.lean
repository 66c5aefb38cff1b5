import FleetFeed.Proofs.Feed.Lifecycle

/-! What a cell shows. While the entry of its channel is in the map it is what the last call on a sink brought; once the
teardown of the channel has begun nothing more lands, and the cell stays closed. Calls are told with the registry that
they found: those from inside an open function, from sinks that were handed on, and from handles that are being cancelled. -/
namespace FleetFeed.Feed

variable {ρ : Type}

/-- A call on a sink of a channel, and the registry that it found. -/
structure Call (ρ : Type) where
  found : Registry ρ
  channel : Nat
  push : Push ρ
  deriving DecidableEq, Repr

namespace Call

/-- The channel was opened. -/
def isOpened (x : Call ρ) : Bool := .opened x.channel ∈ x.found.journal

/-- The teardown of the channel has begun. -/
def isLate (x : Call ρ) : Bool := .cancelled x.channel ∈ x.found.journal

def inTime (x : Call ρ) : Bool := x.isOpened && !x.isLate

end Call

namespace Registry

/-- Calls on sinks of one channel, one after the other. -/
def callsOn (r : Registry ρ) (c : Nat) : List (Push ρ) → List (Call ρ)
  | [] => []
  | p :: ps => ⟨r, c, p⟩ :: (r.push c p).callsOn c ps

/-- The calls of a handle that is being cancelled. Its entry is gone by then. -/
def lateCalls (r : Registry ρ) (e : Entry) : List (Call ρ) :=
  ({ r with entries := r.entries.filter (·.key ≠ e.key) }.dying e.channel).callsOn e.channel (r.lateOf e.channel)

def dropCalls (r : Registry ρ) (e : Entry) : List (Call ρ) := if e.refs ≤ 1 then r.lateCalls e else []

def clearCalls : Registry ρ → List Entry → List (Call ρ)
  | _, [] => []
  | r, e :: es => r.lateCalls e ++ (r.remove e).clearCalls es

/-- All calls on sinks that an operation makes, in order. -/
def calls (r : Registry ρ) : Operation ρ → List (Call ρ)
  | .acquire key o => if r.contains key then [] else (r.addChannel key o.late).callsOn r.channels.length o.early
  | .giveBack g => (r.hit? (.giveBack g)).elim [] r.dropCalls
  | .release key => (r.hit? (.release key)).elim [] r.dropCalls
  | .clearAll => r.clearCalls r.entries
  | .push c p => [⟨r, c, p⟩]
  | .letGo _ => []

theorem calls_of_hit {r : Registry ρ} {op : Operation ρ} {e : Entry} (h : r.hit? op = some e) :
    r.calls op = r.dropCalls e := by
  cases op with
  | giveBack g => rw [calls, h]; rfl
  | release key => rw [calls, h]; rfl
  | _ => exact absurd h (by simp [hit?])

theorem calls_of_present {r : Registry ρ} {key : String} {e : Entry} (h : r.entry? key = some e) (o : Opening ρ) :
    r.calls (.acquire key o) = [] := by
  simp [calls, contains, h]

theorem calls_of_absent {r : Registry ρ} {key : String} (h : r.entry? key = none) (o : Opening ρ) :
    r.calls (.acquire key o) = (r.addChannel key o.late).callsOn r.channels.length o.early := by
  simp [calls, contains, h]

theorem mem_dropCalls {r : Registry ρ} {e : Entry} {x : Call ρ} (hx : x ∈ r.dropCalls e) :
    e.refs ≤ 1 ∧ x ∈ r.lateCalls e := by
  unfold dropCalls at hx
  split at hx
  case isTrue hlast => exact ⟨hlast, hx⟩
  case isFalse => exact absurd hx List.not_mem_nil

/-- Where a call comes from: an open function, a handle that is being cancelled, or a sink that was handed on. -/
theorem mem_calls {r : Registry ρ} {op : Operation ρ} {x : Call ρ} (hx : x ∈ r.calls op) :
    (∃ key o, op = .acquire key o ∧ r.entry? key = none ∧
      x ∈ (r.addChannel key o.late).callsOn r.channels.length o.early) ∨
    (∃ e, r.hit? op = some e ∧ e.refs ≤ 1 ∧ x ∈ r.lateCalls e) ∨
    (op = .clearAll ∧ x ∈ r.clearCalls r.entries) ∨
    (op = .push x.channel x.push ∧ x.found = r) := by
  have hdrop : ∀ (f : Option Entry), x ∈ f.elim [] r.dropCalls → ∃ e, f = some e ∧ e.refs ≤ 1 ∧ x ∈ r.lateCalls e := by
    intro f hf
    cases f with
    | none => exact absurd hf List.not_mem_nil
    | some e => exact ⟨e, rfl, mem_dropCalls hf⟩
  cases op with
  | acquire key o =>
    cases hk : r.entry? key with
    | some e => rw [calls_of_present hk] at hx; exact absurd hx List.not_mem_nil
    | none => rw [calls_of_absent hk] at hx; exact .inl ⟨key, o, rfl, hk, hx⟩
  | giveBack g => exact .inr (.inl (hdrop _ hx))
  | release key => exact .inr (.inl (hdrop _ hx))
  | clearAll => exact .inr (.inr (.inl ⟨rfl, hx⟩))
  | push c p =>
    obtain rfl := List.mem_singleton.1 hx
    exact .inr (.inr (.inr ⟨rfl, rfl⟩))
  | letGo => exact absurd hx List.not_mem_nil

/-! ### In time or not -/

/-- Calls on one channel do not change what they find as far as letting calls in goes. -/
theorem mem_callsOn {r : Registry ρ} {c : Nat} {ps : List (Push ρ)} {x : Call ρ} (hx : x ∈ r.callsOn c ps) :
    x.channel = c ∧ x.found.journal = r.journal ∧ x.found.accepts c = r.accepts c := by
  induction ps generalizing r with
  | nil => exact absurd hx List.not_mem_nil
  | cons p ps ih =>
    rcases List.mem_cons.1 hx with rfl | hx
    · exact ⟨rfl, rfl, rfl⟩
    · obtain ⟨hc, hjournal, haccepts⟩ := ih hx
      exact ⟨hc, hjournal.trans (r.journal_push c p), haccepts.trans (r.accepts_push c c p)⟩

theorem map_push_callsOn (r : Registry ρ) (c : Nat) (ps : List (Push ρ)) : (r.callsOn c ps).map Call.push = ps := by
  induction ps generalizing r with
  | nil => rfl
  | cons p ps ih => rw [callsOn, List.map_cons, ih]

/-- What a handle brings while it is being cancelled comes too late. -/
theorem late_of_mem_lateCalls {r : Registry ρ} {e : Entry} {x : Call ρ} (hx : x ∈ r.lateCalls e) :
    x.channel = e.channel ∧ x.found.journal = r.journal ++ [.cancelled e.channel] ∧ x.inTime = false ∧
      x.found.accepts x.channel = false := by
  obtain ⟨hc, hjournal, haccepts⟩ := mem_callsOn hx
  refine ⟨hc, hjournal, ?_, ?_⟩
  · have hlate : x.isLate = true := by
      rw [Call.isLate, hjournal, hc]
      simp [dying]
    simp [Call.inTime, hlate]
  · rw [hc, haccepts, dying_refuses]

/-- What an open function brings comes in time. -/
theorem Sound.inTime_of_mem_early {r : Registry ρ} (h : r.Sound) {key : String} {o : Opening ρ} {x : Call ρ}
    (hx : x ∈ (r.addChannel key o.late).callsOn r.channels.length o.early) :
    x.inTime = true ∧ x.found.accepts x.channel = true := by
  obtain ⟨hc, hjournal, haccepts⟩ := mem_callsOn hx
  have hnew : .cancelled r.channels.length ∉ r.journal := by
    rw [h.cancelled_mem_iff]
    simp
  refine ⟨?_, ?_⟩
  · simp [Call.inTime, Call.isOpened, Call.isLate, hc, hjournal, addChannel, hnew]
  · rw [hc, haccepts, accepts_addChannel]

theorem Sound.inTime_iff {r : Registry ρ} (h : r.Sound) (c : Nat) (p : Push ρ) :
    Call.inTime ⟨r, c, p⟩ = true ↔ r.Listed c := by
  simp only [Call.inTime, Call.isOpened, Call.isLate, Bool.and_eq_true, decide_eq_true_eq, Bool.not_eq_true',
    decide_eq_false_iff_not, h.opened_mem_iff, h.cancelled_mem_iff, not_and, not_not]
  exact ⟨fun ⟨hlt, hl⟩ => hl hlt, fun hl => ⟨h.lt_of_listed hl, fun _ => hl⟩⟩

theorem accepts_of_mem_clearCalls {es : List Entry} {r : Registry ρ} {x : Call ρ} (hx : x ∈ r.clearCalls es) :
    x.inTime = false ∧ x.found.accepts x.channel = false := by
  induction es generalizing r with
  | nil => exact absurd hx List.not_mem_nil
  | cons e es ih =>
    rcases List.mem_append.1 hx with hx | hx
    · obtain ⟨-, -, htime, haccepts⟩ := late_of_mem_lateCalls hx
      exact ⟨htime, haccepts⟩
    · exact ih hx

/-- A call lands exactly if it comes in time. -/
theorem Sound.accepts_of_mem_calls {r : Registry ρ} (h : r.Sound) {op : Operation ρ} {x : Call ρ}
    (hx : x ∈ r.calls op) : x.found.accepts x.channel = x.inTime := by
  obtain ⟨key, o, -, -, hearly⟩ | ⟨e, -, -, hlate⟩ | ⟨-, hclear⟩ | ⟨-, rfl⟩ := mem_calls hx
  · obtain ⟨htime, haccepts⟩ := h.inTime_of_mem_early hearly
    rw [haccepts, htime]
  · obtain ⟨-, -, htime, haccepts⟩ := late_of_mem_lateCalls hlate
    rw [haccepts, htime]
  · obtain ⟨htime, haccepts⟩ := accepts_of_mem_clearCalls hclear
    rw [haccepts, htime]
  · rw [Bool.eq_iff_iff, h.accepts_iff]
    exact (h.inTime_iff x.channel x.push).symm

/-! ### Counters -/

/-- The counters went up by some calls, each by one in one of them. -/
structure Tallied (r s : Registry ρ) (xs : List (Call ρ)) : Prop where
  events : s.events = r.events + xs.countP fun x => x.inTime && x.push.isEvent
  errors : s.errors = r.errors + xs.countP fun x => x.inTime && !x.push.isEvent
  dropped : s.dropped = r.dropped + xs.countP fun x => !x.inTime

theorem Tallied.refl (r : Registry ρ) : Tallied r r [] := ⟨rfl, rfl, rfl⟩

theorem Tallied.trans {r s t : Registry ρ} {xs ys : List (Call ρ)} (h : Tallied r s xs) (h' : Tallied s t ys) :
    Tallied r t (xs ++ ys) where
  events := by rw [h'.events, h.events, List.countP_append, Nat.add_assoc]
  errors := by rw [h'.errors, h.errors, List.countP_append, Nat.add_assoc]
  dropped := by rw [h'.dropped, h.dropped, List.countP_append, Nat.add_assoc]

/-- All calls came too late. -/
theorem tallied_of_late {r s : Registry ρ} {xs : List (Call ρ)} (hxs : ∀ x ∈ xs, x.inTime = false)
    (hevents : s.events = r.events) (herrors : s.errors = r.errors) (hdropped : s.dropped = r.dropped + xs.length) :
    Tallied r s xs where
  events := by
    rw [hevents, List.countP_eq_zero.2 fun x hx => by simp [hxs x hx], Nat.add_zero]
  errors := by
    rw [herrors, List.countP_eq_zero.2 fun x hx => by simp [hxs x hx], Nat.add_zero]
  dropped := by
    rw [hdropped, List.countP_eq_length.2 fun x hx => by simp [hxs x hx]]

/-- All calls came in time. -/
theorem tallied_of_inTime {r s : Registry ρ} {xs : List (Call ρ)} (hxs : ∀ x ∈ xs, x.inTime = true)
    (hevents : s.events = r.events + (xs.map Call.push).countP Push.isEvent)
    (herrors : s.errors = r.errors + (xs.map Call.push).countP (!·.isEvent)) (hdropped : s.dropped = r.dropped) :
    Tallied r s xs where
  events := by
    rw [hevents, List.countP_map]
    exact congrArg _ (List.countP_congr fun x hx => by simp [hxs x hx])
  errors := by
    rw [herrors, List.countP_map]
    exact congrArg _ (List.countP_congr fun x hx => by simp [hxs x hx])
  dropped := by
    rw [hdropped, List.countP_eq_zero.2 fun x hx => by simp [hxs x hx], Nat.add_zero]

/-- A single call is counted for what it is. -/
theorem tallied_push {x : Call ρ} (h : x.found.accepts x.channel = x.inTime) :
    Tallied x.found (x.found.push x.channel x.push) [x] := by
  cases htime : x.inTime with
  | true =>
    rw [push_of_accepts (h.trans htime)]
    exact tallied_of_inTime (by simpa using htime) rfl rfl rfl
  | false =>
    rw [push_of_refuses (h.trans htime)]
    exact tallied_of_late (by simpa using htime) rfl rfl rfl

theorem length_callsOn (r : Registry ρ) (c : Nat) (ps : List (Push ρ)) : (r.callsOn c ps).length = ps.length := by
  rw [← List.length_map (f := Call.push), map_push_callsOn]

theorem tallied_remove (r : Registry ρ) (e : Entry) : Tallied r (r.remove e) (r.lateCalls e) := by
  refine tallied_of_late (fun x hx => (late_of_mem_lateCalls hx).2.2.1) ?_ ?_ ?_
  · rw [remove_eq]
  · rw [remove_eq]
  · rw [remove_eq, lateCalls, length_callsOn]

theorem tallied_foldl_remove (r : Registry ρ) (es : List Entry) : Tallied r (es.foldl remove r) (r.clearCalls es) := by
  induction es generalizing r with
  | nil => exact .refl r
  | cons e es ih => exact (r.tallied_remove e).trans (ih (r.remove e))

theorem Sound.tallied_perform {r : Registry ρ} (h : r.Sound) (op : Operation ρ) :
    Tallied r (r.perform op) (r.calls op) := by
  have hout := r.outcome_perform op
  generalize r.perform op = s at hout ⊢
  cases hout with
  | joined hk => rw [calls_of_present hk]; exact ⟨rfl, rfl, rfl⟩
  | opened hk =>
    rw [calls_of_absent hk]
    refine tallied_of_inTime (fun x hx => (h.inTime_of_mem_early hx).1) ?_ ?_ rfl
    · rw [map_push_callsOn]; rfl
    · rw [map_push_callsOn]; rfl
  | hit he =>
    rw [calls_of_hit he, dropRef_eq, dropCalls]
    split
    case isTrue => exact r.tallied_remove _
    case isFalse => exact ⟨rfl, rfl, rfl⟩
  | missedGuard he => rw [calls, he]; exact .refl r
  | missedKey he => rw [calls, he]; exact .refl r
  | cleared => exact r.tallied_foldl_remove r.entries
  | pushed c p =>
    have hmem : Call.mk r c p ∈ r.calls (.push c p) := List.mem_singleton_self _
    exact tallied_push (h.accepts_of_mem_calls hmem)
  | letGo => exact ⟨rfl, rfl, rfl⟩

/-- A call is in time or not, and brings a record or an error. -/
theorem Tallied.length_eq {s : Registry ρ} {xs : List (Call ρ)} (h : Tallied empty s xs) :
    s.events + s.errors + s.dropped = xs.length := by
  rw [h.events, h.errors, h.dropped]
  simp only [empty, Nat.zero_add]
  clear h
  induction xs with
  | nil => rfl
  | cons x xs ih =>
    simp only [List.countP_cons, List.length_cons]
    cases x.inTime <;> cases x.push.isEvent <;> simp <;> omega

/-! ### Cells -/

/-- What the last of some calls on a channel since it was opened brought. -/
def lastOn (c : Nat) (xs : List (Call ρ)) : Option (Push ρ) :=
  ((xs.filter fun x => x.channel = c && x.isOpened).getLast?).map Call.push

theorem lastOn_append (c : Nat) (xs ys : List (Call ρ)) : lastOn c (xs ++ ys) = (lastOn c ys).or (lastOn c xs) := by
  rw [lastOn, List.filter_append, List.getLast?_append, lastOn, lastOn]
  cases ((ys.filter fun x => x.channel = c && x.isOpened).getLast?) <;> rfl

theorem lastOn_eq_none {c : Nat} {xs : List (Call ρ)} (h : ∀ x ∈ xs, x.channel = c → x.isOpened = false) :
    lastOn c xs = none := by
  rw [lastOn, List.filter_eq_nil_iff.2, List.getLast?_nil, Option.map_none]
  intro x hx
  simp only [Bool.and_eq_true, decide_eq_true_eq, not_and, Bool.not_eq_true]
  exact h x hx

theorem statusOf_congr {r s : Registry ρ} {c : Nat} (h : r.channels[c]? = s.channels[c]?) :
    r.statusOf c = s.statusOf c := by
  rw [statusOf, statusOf, h]

theorem statusOf_modify_ne {r : Registry ρ} {c d : Nat} (h : d ≠ c) (f : Channel ρ → Channel ρ) :
    (r.onChannel d f).statusOf c = r.statusOf c := by
  refine statusOf_congr ?_
  rw [channels_onChannel, if_neg h]

/-- A call shows in the cell if it lands, and nowhere else. -/
theorem statusOf_push (r : Registry ρ) (c d : Nat) (p : Push ρ) :
    (r.push d p).statusOf c = if d = c ∧ r.accepts d then p.status else r.statusOf c := by
  cases hd : r.accepts d with
  | false =>
    rw [push_of_refuses hd]
    simp [statusOf]
  | true =>
    rw [push_of_accepts hd]
    by_cases hdc : d = c
    · subst hdc
      rw [accepts_eq] at hd
      cases hch : r.channels[d]? with
      | none => simp [hch] at hd
      | some ch => simp [statusOf, hch, Channel.write]
    · simp only [hdc, false_and, if_false]
      exact statusOf_modify_ne hdc (·.writes [p])

theorem Sound.statusOf_perform {r : Registry ρ} (h : r.Sound) {op : Operation ρ} {c : Nat} (hc : c < r.channels.length)
    (hl : (r.perform op).Listed c) :
    (r.perform op).statusOf c = ((lastOn c (r.calls op)).map Push.status).getD (r.statusOf c) := by
  have hquiet : ∀ {xs : List (Call ρ)}, (∀ x ∈ xs, x.channel ≠ c) → lastOn c xs = none :=
    fun hxs => lastOn_eq_none fun x hx hxc => absurd hxc (hxs x hx)
  have hout := r.outcome_perform op
  generalize r.perform op = s at hout hl ⊢
  cases hout with
  | joined hk => rw [calls_of_present hk]; rfl
  | opened hk =>
    rw [calls_of_absent hk, hquiet fun x hx => by have := (mem_callsOn hx).1; omega]
    exact statusOf_congr (List.getElem?_append_left hc)
  | @hit _ e he =>
    have hmem := (entry?_spec (entry?_of_hit he)).1
    rw [calls_of_hit he, dropCalls]
    rw [dropRef_eq] at hl ⊢
    split
    case isTrue hlast =>
      rw [if_pos hlast, h.listed_remove hmem] at hl
      rw [hquiet fun x hx => (late_of_mem_lateCalls hx).1.symm ▸ Ne.symm hl.2, remove_eq]
      exact statusOf_modify_ne (Ne.symm hl.2) Channel.ended
    case isFalse => rfl
  | missedGuard he => rw [calls, he]; rfl
  | missedKey he => rw [calls, he]; rfl
  | cleared => exact absurd hl (by simp [Listed, h.entries_clearAll])
  | pushed d p =>
    rw [statusOf_push]
    by_cases hdc : d = c
    · subst hdc
      have hd : r.Listed d := by
        rw [Listed, entries_push] at hl
        exact hl
      have hopened : Call.isOpened ⟨r, d, p⟩ = true := by
        rw [Call.isOpened, decide_eq_true_eq, h.opened_mem_iff]
        exact hc
      rw [(h.accepts_iff d).2 hd]
      simp [calls, lastOn, hopened]
    · rw [calls, hquiet (by simpa using hdc)]
      simp [hdc]
  | letGo d =>
    by_cases hdc : d = c
    · subst hdc
      rw [Registry.letGo, statusOf, channels_onChannel, if_pos rfl]
      simp [calls, lastOn, statusOf, Function.comp_def]
    · exact statusOf_modify_ne hdc _

/-- A channel that has just been opened shows what its open function brought last. -/
theorem Sound.statusOf_perform_new {r : Registry ρ} (h : r.Sound) {op : Operation ρ}
    (hl : (r.perform op).Listed r.channels.length) :
    (r.perform op).statusOf r.channels.length =
      ((lastOn r.channels.length (r.calls op)).map Push.status).getD .pending := by
  have hnew : ¬ r.Listed r.channels.length := fun hlisted => Nat.lt_irrefl _ (h.lt_of_listed hlisted)
  have hout := r.outcome_perform op
  generalize r.perform op = s at hout hl ⊢
  cases hout with
  | joined => exact absurd ((listed_recount ..).1 hl) hnew
  | @opened key o hk =>
    have hall : ((r.addChannel key o.late).callsOn r.channels.length o.early).filter
        (fun x => x.channel = r.channels.length && x.isOpened) =
          (r.addChannel key o.late).callsOn r.channels.length o.early := by
      refine List.filter_eq_self.2 fun x hx => ?_
      have htime := (h.inTime_of_mem_early hx).1
      rw [Call.inTime, Bool.and_eq_true] at htime
      simp [(mem_callsOn hx).1, htime.1]
    rw [calls_of_absent hk, lastOn, hall, ← List.getLast?_map, map_push_callsOn, statusOf_openFor_self]
  | hit he =>
    have hmem := (entry?_spec (entry?_of_hit he)).1
    rw [dropRef_eq] at hl
    split at hl
    case isTrue => exact absurd ((h.listed_remove hmem _).1 hl).1 hnew
    case isFalse => exact absurd ((listed_recount ..).1 hl) hnew
  | missedGuard | missedKey | letGo => exact absurd hl hnew
  | cleared => exact absurd hl (by simp [Listed, h.entries_clearAll])
  | pushed c p => exact absurd (by rw [Listed, entries_push] at hl; exact hl) hnew

/-! ### No way back -/

/-- A channel whose teardown has begun is not taken up again. -/
theorem Sound.statusOf_performAll_closed {r : Registry ρ} (h : r.Sound) {c : Nat} (hc : c < r.channels.length)
    (hl : ¬ r.Listed c) (ops : List (Operation ρ)) : (r.performAll ops).statusOf c = .closed := by
  have hkeep := performAll_induction (P := fun s => s.Sound ∧ c < s.channels.length ∧ ¬ s.Listed c) ⟨h, hc, hl⟩
    (fun s op hs => by
      obtain ⟨hsound, hlt, hgone⟩ := hs
      refine ⟨hsound.perform op, Nat.lt_of_lt_of_le hlt (s.length_le_perform op), fun hback => ?_⟩
      rcases hsound.listed_perform hback with hback | hnew
      · exact hgone hback
      · exact Nat.ne_of_lt hlt hnew) ops
  obtain ⟨hsound, hlt, hgone⟩ := hkeep
  rw [← hsound.statusOf_ne_closed_iff hlt, not_not] at hgone
  exact hgone

/-- A cell that was written to does not wait again. -/
theorem Sound.statusOf_ne_pending_perform {r : Registry ρ} (h : r.Sound) {c : Nat} (hc : c < r.channels.length)
    (hs : r.statusOf c ≠ .pending) (op : Operation ρ) : (r.perform op).statusOf c ≠ .pending := by
  by_cases hl : (r.perform op).Listed c
  · rw [h.statusOf_perform hc hl]
    cases lastOn c (r.calls op) with
    | none => exact hs
    | some p => exact p.status_ne_pending
  · have hclosed : (r.perform op).statusOf c = .closed := by
      have hlt := Nat.lt_of_lt_of_le hc (r.length_le_perform op)
      rw [← (h.perform op).statusOf_ne_closed_iff hlt, not_not] at hl
      exact hl
    simp [hclosed]

theorem Sound.statusOf_ne_pending_performAll {r : Registry ρ} (h : r.Sound) {c : Nat} (hc : c < r.channels.length)
    (hs : r.statusOf c ≠ .pending) (ops : List (Operation ρ)) : (r.performAll ops).statusOf c ≠ .pending :=
  (performAll_induction (P := fun s => s.Sound ∧ c < s.channels.length ∧ s.statusOf c ≠ .pending) ⟨h, hc, hs⟩
    (fun s op ⟨hsound, hlt, hne⟩ => ⟨hsound.perform op, Nat.lt_of_lt_of_le hlt (s.length_le_perform op),
      hsound.statusOf_ne_pending_perform hlt hne op⟩) ops).2.2

/-! ### Every run -/

theorem journal_subset_of_mem_clearCalls {es : List Entry} {r : Registry ρ} {x : Call ρ} (hx : x ∈ r.clearCalls es) :
    x.found.journal ⊆ (es.foldl remove r).journal := by
  induction es generalizing r with
  | nil => exact absurd hx List.not_mem_nil
  | cons e es ih =>
    rcases List.mem_append.1 hx with hx | hx
    · rw [(late_of_mem_lateCalls hx).2.1, List.foldl_cons]
      exact List.Subset.trans (by rw [remove_eq]; exact List.Subset.refl _) (journal_subset_foldl_remove _ es)
    · exact ih hx

/-- What a call found in the journal stays there. -/
theorem journal_subset_of_mem_calls {r : Registry ρ} {op : Operation ρ} {x : Call ρ} (hx : x ∈ r.calls op) :
    x.found.journal ⊆ (r.perform op).journal := by
  obtain ⟨key, o, rfl, hk, hearly⟩ | ⟨e, he, hlast, hlate⟩ | ⟨rfl, hclear⟩ | ⟨rfl, rfl⟩ := mem_calls hx
  · rw [(mem_callsOn hearly).2.1, perform, acquire_of_absent hk]
    exact List.Subset.refl _
  · rw [(late_of_mem_lateCalls hlate).2.1, perform_of_hit he, dropRef_eq, if_pos hlast, remove_eq]
    exact List.Subset.refl _
  · exact journal_subset_of_mem_clearCalls hclear
  · exact x.found.journal_subset_perform _

/-- What the registry owes to all calls that were made so far. -/
structure Written (r : Registry ρ) (xs : List (Call ρ)) : Prop where
  found_subset : ∀ x ∈ xs, x.found.journal ⊆ r.journal
  lands : ∀ x ∈ xs, x.found.accepts x.channel = x.inTime
  shows : ∀ c, r.Listed c → r.statusOf c = ((lastOn c xs).map Push.status).getD .pending
  tallied : Tallied empty r xs

theorem written_empty : Written (empty : Registry ρ) [] where
  found_subset _ hx := absurd hx List.not_mem_nil
  lands _ hx := absurd hx List.not_mem_nil
  shows _ hc := absurd hc List.not_mem_nil
  tallied := .refl empty

theorem Written.perform {r : Registry ρ} {xs : List (Call ρ)} (h : Written r xs) (hr : r.Sound) (op : Operation ρ) :
    Written (r.perform op) (xs ++ r.calls op) where
  found_subset x hx := by
    rcases List.mem_append.1 hx with hx | hx
    · exact List.Subset.trans (h.found_subset x hx) (r.journal_subset_perform op)
    · exact journal_subset_of_mem_calls hx
  lands x hx := by
    rcases List.mem_append.1 hx with hx | hx
    · exact h.lands x hx
    · exact hr.accepts_of_mem_calls hx
  shows c hc := by
    rw [lastOn_append]
    by_cases hl : r.Listed c
    · rw [hr.statusOf_perform (hr.lt_of_listed hl) hc, h.shows c hl]
      cases lastOn c (r.calls op) <;> rfl
    · obtain rfl := (hr.listed_perform hc).resolve_left hl
      -- no call before knew of a channel that is only opened now
      have hunknown : lastOn r.channels.length xs = none := lastOn_eq_none fun x hx hxc => by
        rw [Call.isOpened, hxc, decide_eq_false_iff_not]
        intro hopened
        have := (hr.opened_mem_iff _).1 (h.found_subset x hx hopened)
        exact Nat.lt_irrefl _ this
      rw [hunknown, Option.or_none]
      exact hr.statusOf_perform_new hc
  tallied := h.tallied.trans (hr.tallied_perform op)

end Registry

/-- All calls on sinks that the operation makes. -/
def Deed.calls (d : Deed ρ) : List (Call ρ) := d.found.calls d.operation

theorem Registry.written_performAll (ops : List (Operation ρ)) :
    Written ((empty : Registry ρ).performAll ops) ((empty.trail ops).flatMap Deed.calls) := by
  induction ops using List.reverseRecOn with
  | nil => exact written_empty
  | append_singleton ops op ih =>
    rw [performAll_concat, trail_concat, List.flatMap_append, List.flatMap_singleton]
    exact ih.perform (sound_performAll ops) op

namespace Consumers

/-- All calls on sinks that a run makes, in order. -/
def calls (steps : List (Step ρ)) : List (Call ρ) := (trail steps).flatMap Deed.calls

theorem written_reached (steps : List (Step ρ)) : Registry.Written (reached steps) (calls steps) := by
  rw [reached_eq_performAll]
  exact Registry.written_performAll _

theorem reached_append (steps more : List (Step ρ)) :
    reached (steps ++ more) = (reached steps).performAll ((start.run steps).history more) := by
  rw [reached, run_append, registry_run]
  rfl

/-- While the entry of a channel is in the map, its cell holds what the last call since it was opened brought, and it is
pending without one. After that it stays closed. It never comes to be pending again. A call in time is what the cell shows
then; one that comes too late changes nothing but the count of those. Every call is counted once, for what it is; if none
is on a channel that was never opened, the dropped ones are those that found the teardown begun. -/
theorem last_write_wins (steps : List (Step ρ)) :
    (∀ c, .opened c ∈ (reached steps).journal → (reached steps).Listed c →
      (reached steps).statusOf c = ((Registry.lastOn c (calls steps)).map Push.status).getD .pending) ∧
    (∀ c, .opened c ∈ (reached steps).journal → ¬ (reached steps).Listed c →
      ∀ more, (reached (steps ++ more)).statusOf c = .closed) ∧
    (∀ c, .opened c ∈ (reached steps).journal → (reached steps).statusOf c ≠ .pending →
      ∀ more, (reached (steps ++ more)).statusOf c ≠ .pending) ∧
    (∀ x ∈ calls steps, x.inTime = true → (x.found.push x.channel x.push).statusOf x.channel = x.push.status) ∧
    (∀ x ∈ calls steps, x.inTime = false →
      x.found.push x.channel x.push = { x.found with dropped := x.found.dropped + 1 }) ∧
    (∀ x ∈ calls steps, Registry.Tallied x.found (x.found.push x.channel x.push) [x]) ∧
    Registry.Tallied .empty (reached steps) (calls steps) ∧
    (reached steps).stats.events + (reached steps).stats.errors + (reached steps).stats.dropped = (calls steps).length ∧
    ((∀ x ∈ calls steps, x.isOpened = true) → (reached steps).stats.dropped = (calls steps).countP Call.isLate) := by
  have hr := sound_reached steps
  have hw := written_reached steps
  refine ⟨fun c _ hl => hw.shows c hl, fun c hc hl more => ?_, fun c hc hs more => ?_, fun x hx htime => ?_,
    fun x hx htime => ?_, fun x hx => Registry.tallied_push (hw.lands x hx), hw.tallied, hw.tallied.length_eq, ?_⟩
  · rw [reached_append]
    exact hr.statusOf_performAll_closed ((hr.opened_mem_iff c).1 hc) hl _
  · rw [reached_append]
    exact hr.statusOf_ne_pending_performAll ((hr.opened_mem_iff c).1 hc) hs _
  · rw [Registry.statusOf_push, if_pos ⟨rfl, (hw.lands x hx).trans htime⟩]
  · exact Registry.push_of_refuses ((hw.lands x hx).trans htime) x.push
  · intro hopened
    have hdropped : (reached steps).stats.dropped = (calls steps).countP fun x => !x.inTime :=
      hw.tallied.dropped.trans (Nat.zero_add _)
    rw [hdropped]
    exact List.countP_congr fun x hx => by simp [Call.inTime, hopened x hx]

end Consumers

end FleetFeed.Feed
