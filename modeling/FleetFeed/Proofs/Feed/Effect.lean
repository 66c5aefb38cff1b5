import FleetFeed.Feed.Registry

/-! What each operation does to a registry, said once and as a whole: a call on a sink either lands or is dropped, an
acquire joins or opens, and a removal ends exactly one channel. Everything else about a registry is read off these. -/
namespace FleetFeed.Feed

variable {ρ : Type}

namespace Push

def isEvent : Push ρ → Bool
  | .event _ => true
  | .error _ => false

@[simp] theorem isClosed_status (p : Push ρ) : p.status.isClosed = false := by cases p <;> rfl

theorem status_ne_closed (p : Push ρ) : p.status ≠ .closed := by cases p <;> simp [status]

theorem status_ne_pending (p : Push ρ) : p.status ≠ .pending := by cases p <;> simp [status]

end Push

@[simp] theorem Status.isClosed_iff {s : Status ρ} : s.isClosed = true ↔ s = .closed := by cases s <;> simp [isClosed]

/-! ### Cells -/

namespace Channel

/-- A channel as it is opened. -/
def fresh (key : String) (late : List (Push ρ)) : Channel ρ := ⟨key, .pending, 0, true, true, late⟩

/-- The channel after some calls that all landed. -/
def writes (ch : Channel ρ) (ps : List (Push ρ)) : Channel ρ := ps.foldl (fun ch p => ch.write p.status) ch

/-- A channel that was shut down. -/
def ended (ch : Channel ρ) : Channel ρ := { ch with live := false, status := .closed, version := ch.version + 1 }

@[simp] theorem writes_nil (ch : Channel ρ) : ch.writes [] = ch := rfl

@[simp] theorem writes_cons (ch : Channel ρ) (p : Push ρ) (ps : List (Push ρ)) :
    ch.writes (p :: ps) = (ch.write p.status).writes ps := rfl

/-- Calls that land change what a cell shows and its version, and nothing else. -/
theorem writes_eq (ch : Channel ρ) (ps : List (Push ρ)) :
    ch.writes ps = { ch with
      status := (ps.getLast?.map Push.status).getD ch.status
      version := ch.version + ps.length } := by
  induction ps generalizing ch with
  | nil => rfl
  | cons p ps ih =>
    have hlast : ((p :: ps).getLast?.map Push.status).getD ch.status = (ps.getLast?.map Push.status).getD p.status := by
      rw [List.getLast?_cons]
      cases ps.getLast? <;> rfl
    rw [writes_cons, ih, hlast]
    simp only [write, List.length_cons, Nat.add_assoc, Nat.add_comm 1]

/-- A cell that is written to is not closed by it. -/
theorem writes_status_ne_closed {ch : Channel ρ} (h : ch.status ≠ .closed) (ps : List (Push ρ)) :
    (ch.writes ps).status ≠ .closed := by
  rw [writes_eq]
  cases ps.getLast? with
  | none => exact h
  | some p => exact p.status_ne_closed

end Channel

namespace Registry

theorem channels_onChannel (r : Registry ρ) (c d : Nat) (f : Channel ρ → Channel ρ) :
    (r.onChannel c f).channels[d]? = if c = d then (r.channels[d]?).map f else r.channels[d]? := by
  rw [onChannel, List.getElem?_modify]
  split <;> simp

@[simp] theorem length_onChannel (r : Registry ρ) (c : Nat) (f : Channel ρ → Channel ρ) :
    (r.onChannel c f).channels.length = r.channels.length := List.length_modify ..

/-- The key that a channel was opened for. -/
def keyOf? (r : Registry ρ) (c : Nat) : Option String := (r.channels[c]?).map Channel.key

theorem lt_of_keyOf? {r : Registry ρ} {c : Nat} {key : String} (h : r.keyOf? c = some key) : c < r.channels.length := by
  obtain ⟨ch, hch, -⟩ := Option.map_eq_some_iff.1 h
  exact (List.getElem?_eq_some_iff.1 hch).1

theorem keyOf?_onChannel (r : Registry ρ) (c d : Nat) {f : Channel ρ → Channel ρ} (hf : ∀ ch, (f ch).key = ch.key) :
    (r.onChannel c f).keyOf? d = r.keyOf? d := by
  rw [keyOf?, keyOf?, channels_onChannel]
  split
  case isTrue => simp [Function.comp_def, hf]
  case isFalse => rfl

/-- A call on a sink of the channel lands. -/
def accepts (r : Registry ρ) (c : Nat) : Bool := r.isLive c && !(r.statusOf c).isClosed

theorem accepts_eq (r : Registry ρ) (c : Nat) :
    r.accepts c = ((r.channels[c]?).map fun ch => ch.live && !ch.status.isClosed).getD false := by
  unfold accepts isLive statusOf
  cases r.channels[c]? <;> rfl

/-! ### Calls on sinks -/

theorem push_of_accepts {r : Registry ρ} {c : Nat} (h : r.accepts c = true) (p : Push ρ) :
    r.push c p = { r with
      channels := r.channels.modify c (·.writes [p])
      events := r.events + [p].countP Push.isEvent
      errors := r.errors + [p].countP (!·.isEvent) } := by
  have h' : (r.isLive c && !(r.statusOf c).isClosed) = true := h
  rw [push, if_pos h']
  cases p <;> rfl

theorem push_of_refuses {r : Registry ρ} {c : Nat} (h : r.accepts c = false) (p : Push ρ) :
    r.push c p = { r with dropped := r.dropped + 1 } := by
  have h' : (r.isLive c && !(r.statusOf c).isClosed) = false := h
  rw [push, h']
  rfl

@[simp] theorem entries_push (r : Registry ρ) (c : Nat) (p : Push ρ) : (r.push c p).entries = r.entries := by
  cases h : r.accepts c with
  | false => rw [push_of_refuses h]
  | true => rw [push_of_accepts h]

@[simp] theorem journal_push (r : Registry ρ) (c : Nat) (p : Push ρ) : (r.push c p).journal = r.journal := by
  cases h : r.accepts c with
  | false => rw [push_of_refuses h]
  | true => rw [push_of_accepts h]

@[simp] theorem keyOf?_push (r : Registry ρ) (c d : Nat) (p : Push ρ) : (r.push c p).keyOf? d = r.keyOf? d := by
  cases h : r.accepts c with
  | false => rw [push_of_refuses h]; rfl
  | true =>
    rw [push_of_accepts h]
    exact r.keyOf?_onChannel c d (f := (·.writes [p])) fun _ => rfl

@[simp] theorem pushAll_nil (r : Registry ρ) (c : Nat) : r.pushAll c [] = r := rfl

@[simp] theorem pushAll_cons (r : Registry ρ) (c : Nat) (p : Push ρ) (ps : List (Push ρ)) :
    r.pushAll c (p :: ps) = (r.push c p).pushAll c ps := rfl

/-- A call leaves open to other calls what was, and closed to them what was. -/
@[simp] theorem accepts_push (r : Registry ρ) (c d : Nat) (p : Push ρ) : (r.push c p).accepts d = r.accepts d := by
  cases h : r.accepts c with
  | false => rw [push_of_refuses h]; rfl
  | true =>
    rw [push_of_accepts h, accepts_eq, accepts_eq]
    by_cases hd : c = d
    · subst hd
      rw [accepts_eq] at h
      cases hc : r.channels[c]? with
      | none => simp [hc] at h
      | some ch => simp_all [Channel.write]
    · simp [List.getElem?_modify_ne _ _ hd]

theorem pushAll_of_accepts {r : Registry ρ} {c : Nat} (h : r.accepts c = true) (ps : List (Push ρ)) :
    r.pushAll c ps = { r with
      channels := r.channels.modify c (·.writes ps)
      events := r.events + ps.countP Push.isEvent
      errors := r.errors + ps.countP (!·.isEvent) } := by
  induction ps generalizing r with
  | nil => exact congrArg (fun chs => { r with channels := chs }) (List.modify_id c r.channels).symm
  | cons p ps ih =>
    rw [pushAll_cons, ih (by rw [accepts_push]; exact h), push_of_accepts h]
    simp only [List.modify_modify_eq, Nat.add_assoc, ← List.countP_append, List.singleton_append]
    rfl

theorem pushAll_of_refuses {r : Registry ρ} {c : Nat} (h : r.accepts c = false) (ps : List (Push ρ)) :
    r.pushAll c ps = { r with dropped := r.dropped + ps.length } := by
  induction ps generalizing r with
  | nil => rfl
  | cons p ps ih =>
    rw [pushAll_cons, ih (by rw [accepts_push]; exact h), push_of_refuses h, List.length_cons]
    simp only [Registry.mk.injEq, true_and]
    omega

/-! ### References -/

/-- The references of a key are counted anew. -/
def recount (r : Registry ρ) (key : String) (f : Nat → Nat) : Registry ρ :=
  { r with entries := r.entries.map fun e => if e.key = key then { e with refs := f e.refs } else e }

theorem entry?_recount (r : Registry ρ) (key : String) (f : Nat → Nat) :
    Registry.entry? (r.recount key f) key = (r.entry? key).map fun e => { e with refs := f e.refs } := by
  have hsame : ((·.key = key : Entry → Bool) ∘ fun e => if e.key = key then { e with refs := f e.refs } else e) =
      fun e => decide (e.key = key) := by
    funext e
    simp only [Function.comp_apply]
    split <;> rfl
  unfold entry? recount
  rw [List.find?_map, hsame]
  refine Option.map_congr fun e he => ?_
  exact if_pos (by simpa using List.find?_some he)

theorem acquire_of_present {r : Registry ρ} {key : String} {e : Entry} (h : r.entry? key = some e) (o : Opening ρ) :
    r.acquire key o = (r.recount key (· + 1), ⟨key, e.channel, r.versionOf e.channel⟩) := by
  rw [acquire, h]
  rfl

theorem accepts_addChannel (r : Registry ρ) (key : String) (late : List (Push ρ)) :
    (r.addChannel key late).accepts r.channels.length = true := by
  simp [accepts_eq, addChannel, Status.isClosed]

/-- A channel is opened for a key that has none. -/
def openFor (r : Registry ρ) (key : String) (o : Opening ρ) : Registry ρ :=
  { r with
    channels := r.channels ++ [(Channel.fresh key o.late).writes o.early]
    entries := r.entries ++ [⟨key, r.channels.length, 1⟩]
    journal := r.journal ++ [.opened r.channels.length]
    opened := r.opened + 1
    events := r.events + o.early.countP Push.isEvent
    errors := r.errors + o.early.countP (!·.isEvent) }

theorem acquire_of_absent {r : Registry ρ} {key : String} (h : r.entry? key = none) (o : Opening ρ) :
    r.acquire key o = (r.openFor key o, ⟨key, r.channels.length, 0⟩) := by
  rw [acquire, h]
  dsimp only
  rw [pushAll_of_accepts (r.accepts_addChannel key o.late)]
  simp only [addChannel, openFor, Prod.mk.injEq, Registry.mk.injEq, and_true]
  rw [List.modify_eq_take_drop]
  simp [Channel.fresh]

theorem keyOf?_openFor {r : Registry ρ} {c : Nat} {k : String} (h : r.keyOf? c = some k) (key : String) (o : Opening ρ) :
    (r.openFor key o).keyOf? c = some k := by
  rw [keyOf?, openFor, List.getElem?_append_left (lt_of_keyOf? h)]
  exact h

theorem keyOf?_openFor_self (r : Registry ρ) (key : String) (o : Opening ρ) :
    (r.openFor key o).keyOf? r.channels.length = some key := by
  rw [keyOf?, openFor, List.getElem?_concat_length, Channel.writes_eq]
  rfl

theorem entry?_openFor {r : Registry ρ} {key : String} (h : r.entry? key = none) (o : Opening ρ) :
    Registry.entry? (r.openFor key o) key = some ⟨key, r.channels.length, 1⟩ := by
  unfold entry? at h ⊢
  rw [openFor, List.find?_append, h]
  simp

/-- A channel shows at first what was brought last while it was opened. -/
theorem statusOf_openFor_self (r : Registry ρ) (key : String) (o : Opening ρ) :
    (r.openFor key o).statusOf r.channels.length = (o.early.getLast?.map Push.status).getD .pending := by
  rw [statusOf, openFor, List.getElem?_concat_length, Channel.writes_eq]
  rfl

/-! ### The end of a channel -/

/-- The registry as a handle finds it that is being cancelled: its channel is no longer live. -/
def dying (r : Registry ρ) (c : Nat) : Registry ρ :=
  { r.onChannel c ({ · with live := false }) with journal := r.journal ++ [.cancelled c] }

theorem dying_refuses (r : Registry ρ) (c : Nat) : (r.dying c).accepts c = false := by
  rw [accepts_eq, dying, channels_onChannel, if_pos rfl]
  cases r.channels[c]? <;> rfl

theorem shutDown_eq_dying (r : Registry ρ) (c : Nat) :
    r.shutDown c = ((r.dying c).pushAll c (r.lateOf c)).onChannel c (·.write .closed) := rfl

theorem shutDown_eq (r : Registry ρ) (c : Nat) :
    r.shutDown c = { r with
      channels := r.channels.modify c Channel.ended
      journal := r.journal ++ [.cancelled c]
      dropped := r.dropped + (r.lateOf c).length } := by
  rw [shutDown_eq_dying, pushAll_of_refuses (r.dying_refuses c)]
  simp only [dying, onChannel, List.modify_modify_eq]
  rfl

/-- The entry of a channel goes, and its channel ends; what its handle still brings is dropped. -/
theorem remove_eq (r : Registry ρ) (e : Entry) :
    r.remove e = { r with
      channels := r.channels.modify e.channel Channel.ended
      entries := r.entries.filter (·.key ≠ e.key)
      journal := r.journal ++ [.cancelled e.channel]
      closed := r.closed + 1
      dropped := r.dropped + (r.lateOf e.channel).length } := by
  rw [remove, shutDown_eq]
  rfl

@[simp] theorem keyOf?_remove (r : Registry ρ) (e : Entry) (c : Nat) : (r.remove e).keyOf? c = r.keyOf? c := by
  rw [remove_eq]
  exact r.keyOf?_onChannel e.channel c (f := Channel.ended) fun _ => rfl

theorem journal_subset_remove (r : Registry ρ) (e : Entry) : r.journal ⊆ (r.remove e).journal := by
  rw [remove_eq]
  exact List.subset_append_left ..

theorem journal_subset_foldl_remove (r : Registry ρ) (es : List Entry) : r.journal ⊆ (es.foldl remove r).journal := by
  induction es generalizing r with
  | nil => exact List.Subset.refl _
  | cons e es ih => exact List.Subset.trans (r.journal_subset_remove e) (ih (r.remove e))

theorem dropRef_eq (r : Registry ρ) (e : Entry) :
    r.dropRef e = if e.refs ≤ 1 then r.remove e else r.recount e.key (· - 1) := rfl

@[simp] theorem keyOf?_dropRef (r : Registry ρ) (e : Entry) (c : Nat) : (r.dropRef e).keyOf? c = r.keyOf? c := by
  rw [dropRef_eq]
  split
  case isTrue => exact r.keyOf?_remove e c
  case isFalse => rfl

@[simp] theorem keyOf?_clearAll (r : Registry ρ) (c : Nat) : r.clearAll.keyOf? c = r.keyOf? c := by
  have hall : ∀ (es : List Entry) (s : Registry ρ), (es.foldl remove s).keyOf? c = s.keyOf? c := by
    intro es
    induction es with
    | nil => exact fun _ => rfl
    | cons e es ih => exact fun s => (ih (s.remove e)).trans (s.keyOf?_remove e c)
  exact hall r.entries r

end Registry

end FleetFeed.Feed
