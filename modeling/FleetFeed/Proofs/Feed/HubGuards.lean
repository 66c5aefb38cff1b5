import FleetFeed.Proofs.Feed.LostLinks
import FleetFeed.Proofs.Feed.References
import FleetFeed.Proofs.Session.Calls

/-! The guards of a hub, slot by slot. A guard stays with its channel until it is given back, and the channel with the request
that it was opened for. As long as nobody names a key of the topic, an entry has as many references as guards are held of it,
and so it outlives none of them but where the hub is cleared. -/
namespace FleetFeed.Feed

open Event

/-! ### What a link asks for -/

theorem Link.request_step (l : Link) (e : LinkEvent) : (l.step e).1.session.request = l.session.request := by
  have hmove := l.move_step e
  generalize l.step e = next at hmove ⊢
  obtain ⟨l', done⟩ := next
  cases hmove with
  | opened => exact l.session.request_step .opened
  | @heard t => exact l.session.request_step (.text t)
  | lost | finished => exact l.session.request_step .closed
  | givenUp he hc =>
    by_cases hl : l.stage = .streaming
    · rw [cancel_of_open hc hl]
      exact l.session.request_step .cancelled
    · rw [cancel_of_shut hc hl]
  | idle | launched | muted => rfl

namespace Board

/-- The link of a channel asks for `t`. -/
def Asks (b : Board) (n : Nat) (t : Target) : Prop := ∃ l, b.links[n]? = some l ∧ l.session.request = t.request

variable {url : Url} {b : Board} {n : Nat} {t : Target}

theorem Asks.opened (hb : Sound url b) {key : String} (hk : b.registry.entry? key = none) (t : Target) :
    (b.acquire key t).1.Asks b.registry.channels.length t := by
  refine ⟨Link.start b.url t, ?_, rfl⟩
  rw [acquire_of_absent hk, ← hb.numbered]
  exact List.getElem?_concat_length

theorem Asks.event (h : b.Asks n t) (m : Nat) (e : LinkEvent) : (b.event m e).1.Asks n t := by
  obtain ⟨l, hl, hreq⟩ := h
  rw [Asks, links_event, hl]
  split
  case isTrue => exact ⟨_, rfl, (l.request_step e).trans hreq⟩
  case isFalse => exact ⟨l, rfl, hreq⟩

theorem Asks.acquire (h : b.Asks n t) (key : String) (t' : Target) : (b.acquire key t').1.Asks n t := by
  obtain ⟨l, hl, hreq⟩ := h
  refine ⟨l, ?_, hreq⟩
  cases hk : b.registry.entry? key with
  | some e => rwa [acquire_of_present hk]
  | none =>
    rw [acquire_of_absent hk]
    exact List.getElem?_append_left (List.getElem?_eq_some_iff.1 hl).1 |>.trans hl

theorem Asks.adopt (h : b.Asks n t) (hb : Sound url b) {op : Operation Record} (hop : op.givesBack = true)
    (target : String → Target) : (b.adopt target (b.registry.perform op)).1.Asks n t := by
  obtain ⟨l, hl, hreq⟩ := h
  obtain ⟨cs, hreturns⟩ := hb.returns hop target
  rw [Asks, hreturns.links, hl]
  split
  case isTrue => exact ⟨_, rfl, (l.request_step _).trans hreq⟩
  case isFalse => exact ⟨l, rfl, hreq⟩

theorem registry_acquire (b : Board) (key : String) (t : Target) :
    (b.acquire key t).1.registry = (b.registry.acquire key quiet).1 := by
  cases hk : b.registry.entry? key with
  | some e => rw [acquire_of_present hk]
  | none => rw [acquire_of_absent hk]

theorem entries_event (b : Board) (n : Nat) (e : LinkEvent) : (b.event n e).1.registry.entries = b.registry.entries := by
  cases hl : b.links[n]? with
  | none => rw [event_of_none hl]
  | some l => rw [event_of_link hl]; exact (b.registry.hear_frame n (l.step e)).1

end Board

/-! ### References and guards -/

namespace Registry

variable {ρ : Type} {r : Registry ρ}

/-- An entry has as many references as are counted of its channel. -/
def Counted (r : Registry ρ) (count : Nat → Nat) : Prop := ∀ e ∈ r.entries, e.refs = count e.channel

variable {count count' : Nat → Nat}

theorem Counted.congr (h : r.Counted count) {s : Registry ρ} (hentries : s.entries = r.entries)
    (hcount : ∀ n, count' n = count n) : s.Counted count' :=
  fun e he => (h e (hentries ▸ he)).trans (hcount e.channel).symm

/-- What is counted of a channel balances as if all of it had been taken and none returned. -/
theorem Counted.balanced (h : r.Counted count) (hnew : ∀ n, r.channels.length ≤ n → count n = 0) (n : Nat) :
    r.Balanced n (count n) 0 :=
  ⟨fun e he hc => hc ▸ h e he, fun hle => ⟨hnew n hle, rfl⟩⟩

theorem Counted.acquire (h : r.Counted count) (hs : r.Sound) (hnew : ∀ n, r.channels.length ≤ n → count n = 0) (key : String)
    (o : Opening ρ)
    (hcount : ∀ n, count' n = count n + if (r.acquire key o).2.receiver.channel = n then 1 else 0) :
    (r.acquire key o).1.Counted count' := by
  intro e he
  have hrefs := ((h.balanced hnew e.channel).perform hs (.acquire key o)).refs_add e he rfl
  simp only [Deed.takes, Deed.returns, taken?, hit?, Option.any_some, Option.any_none, decide_eq_true_eq,
    Bool.false_eq_true, if_false, Nat.add_zero] at hrefs
  rw [hcount, hrefs]

theorem Counted.giveBack (h : r.Counted count) (hs : r.Sound) (hnew : ∀ n, r.channels.length ≤ n → count n = 0) {g : Guard}
    (hg : r.Issued g) (hcount : ∀ n, count' n + (if g.receiver.channel = n then 1 else 0) = count n) :
    (r.giveBack g).Counted count' := by
  intro e he
  have hrefs := ((h.balanced hnew e.channel).perform hs (.giveBack g)).refs_add e he rfl
  have hl : (r.perform (.giveBack g)).Listed e.channel := List.mem_map_of_mem he
  obtain ⟨e₀, h₀, hc⟩ := List.mem_map.1 (hs.channels_of_givesBack rfl hl).1
  rw [← hc, hs.returns_eq_surrenders h₀ (by simp) fun g' hg' => Operation.giveBack.inj hg' ▸ hg] at hrefs
  simp only [Deed.takes, Deed.surrenders, taken?, Operation.given?, Option.any_some, Option.any_none, decide_eq_true_eq,
    Bool.false_eq_true, if_false, Nat.add_zero, Nat.zero_add] at hrefs
  have := hcount e₀.channel
  rw [← hc]
  omega

/-- Who gives one of several references back leaves the entry where it is. -/
theorem Sound.listed_giveBack (hs : r.Sound) {g : Guard} {n : Nat} (hl : r.Listed n)
    (hmany : ∀ e ∈ r.entries, e.channel = n → g.receiver.channel = n → 2 ≤ e.refs) : (r.giveBack g).Listed n := by
  by_cases hb : r.Backs g
  · obtain ⟨e, he, hc⟩ := Option.map_eq_some_iff.1 hb
    have hmem := (entry?_spec he).1
    have hgive := Registry.giveBack_of_entry? he hc
    rw [hgive, dropRef_eq]
    split
    case isTrue hlast =>
      refine (hs.listed_remove hmem n).2 ⟨hl, fun hn => ?_⟩
      have := hmany e hmem hn.symm (hc.symm.trans hn.symm)
      omega
    case isFalse => exact (listed_recount ..).2 hl
  · rwa [giveBack_of_not_backs hb]

end Registry

namespace Audience

variable {url : Url} {a : Audience} {c : Topic} {i : Nat} {g : Guard}

/-! ### Slots -/

theorem guard?_set (a : Audience) (h : Hub) {j : Nat} {x : Topic × Guard} (hj : a.guard? j = some x)
    (y : Option (Topic × Guard)) : guard? ⟨h, a.guards.set j y⟩ i = if j = i then y else a.guard? i := by
  have hget : a.guards[j]? = some (some x) := Option.join_eq_some_iff.1 hj
  have hlt := (List.getElem?_eq_some_iff.1 hget).1
  simp only [guard?, List.getElem?_set, hlt, if_true]
  split <;> rfl

theorem length_guards_le (a : Audience) (steps : List HubStep) : a.guards.length ≤ (a.run steps).guards.length := by
  induction steps generalizing a with
  | nil => exact Nat.le_refl _
  | cons s steps ih => exact Nat.le_trans (a.length_guards_step s ▸ Nat.le_add_right ..) (ih (a.step s).1)

/-- The guard that a step leaves in a slot: it is taken then, or was there, and was moved on if it looked. -/
inductive GuardAfter (a : Audience) (i : Nat) : HubStep → Topic → Guard → Prop where
  | taken {t t' : Target} {key : String} (hk : keyed t = some (t', key)) (hi : i = a.guards.length) :
    GuardAfter a i (.acquire t) t'.topic ((a.hub.registry t'.topic).acquire key Board.quiet).2
  | looked {c : Topic} {g : Guard} (h : a.guard? i = some (c, g)) :
    GuardAfter a i (.poll i) c (g.poll (a.hub.registry c)).1
  | kept {s : HubStep} {c : Topic} {g : Guard} (h : a.guard? i = some (c, g)) : GuardAfter a i s c g

theorem guard_after {s : HubStep} (h : (a.step s).1.guard? i = some (c, g)) : GuardAfter a i s c g := by
  cases s with
  | acquire t =>
    by_cases hi : i = a.guards.length
    · cases hk : keyed t with
      | none => simp [step, Hub.acquire_of_unkeyed _ hk, guard?, hi] at h
      | some x =>
        obtain ⟨t', key⟩ := x
        simp only [step, Hub.acquire_of_keyed _ hk, guard?, hi, List.getElem?_concat_length, Option.map_some,
          Option.join_some, Option.some.injEq, Prod.mk.injEq] at h
        obtain ⟨rfl, rfl⟩ := h
        exact topic_keyed hk ▸ .taken hk hi
    · refine .kept ?_
      simpa only [step, guard?, getElem?_concat_of_ne hi] using h
  | giveBack j =>
    simp only [step] at h
    cases hj : a.guard? j with
    | none => rw [hj] at h; exact .kept h
    | some x =>
      simp only [hj, a.guard?_set _ hj] at h
      split at h
      case isTrue => exact absurd h (by simp)
      case isFalse => exact .kept h
  | poll j =>
    simp only [step, poll] at h
    cases hj : a.guard? j with
    | none => rw [hj] at h; exact .kept h
    | some x =>
      simp only [hj, a.guard?_set _ hj] at h
      split at h
      case isTrue hji =>
        subst hji
        obtain ⟨rfl, rfl⟩ : x.1 = c ∧ _ = g := by simpa using h
        exact .looked hj
      case isFalse => exact .kept h
  | _ => exact .kept h

/-- Who asks for something gets the last slot. -/
theorem guard?_acquire (a : Audience) {t t' : Target} {key : String} (hk : keyed t = some (t', key)) :
    (a.step (.acquire t)).1.guard? a.guards.length =
      some (t.topic, ((a.hub.registry t.topic).acquire key Board.quiet).2) := by
  simp only [step, Hub.acquire_of_keyed _ hk, guard?, List.getElem?_concat_length, Option.map_some, Option.join_some,
    topic_keyed hk]

/-- A guard that is held after a step was held before it, in the same slot and of the same channel. -/
theorem guard_before {s : HubStep} (hi : i < a.guards.length) (h : (a.step s).1.guard? i = some (c, g)) :
    ∃ g₀, a.guard? i = some (c, g₀) ∧ g₀.key = g.key ∧ g₀.receiver.channel = g.receiver.channel := by
  have hafter := guard_after h
  cases hafter with
  | taken hk hnew => exact absurd hnew (Nat.ne_of_lt hi)
  | looked h₀ => exact ⟨_, h₀, rfl, (Guard.channel_poll _ _).symm⟩
  | kept h₀ => exact ⟨_, h₀, rfl, rfl⟩

/-- The run lemma of `guard_before`. -/
theorem guard_earlier {steps : List HubStep} (hi : i < a.guards.length) (h : (a.run steps).guard? i = some (c, g)) :
    ∃ g₀, a.guard? i = some (c, g₀) ∧ g₀.key = g.key ∧ g₀.receiver.channel = g.receiver.channel := by
  induction steps generalizing a with
  | nil => exact ⟨g, h, rfl, rfl⟩
  | cons s steps ih =>
    obtain ⟨g₁, h₁, hkey, hchannel⟩ := ih (Nat.lt_of_lt_of_le hi (a.length_guards_le [s])) h
    obtain ⟨g₀, h₀, hkey₀, hchannel₀⟩ := guard_before hi h₁
    exact ⟨g₀, h₀, hkey₀.trans hkey, hchannel₀.trans hchannel⟩

/-- Every guard that is held was taken from a channel of its key. -/
theorem issued_run (url : Url) (steps : List HubStep) (h : ((of (.new url)).run steps).guard? i = some (c, g)) :
    (((of (.new url)).run steps).hub.registry c).Issued g := by
  induction steps using List.reverseRecOn generalizing g with
  | nil => exact absurd h (by simp [run, of, guard?])
  | append_singleton steps s ih =>
    have hs := sound_run url steps c
    rw [run_concat] at h ⊢
    have hfollows := ((of (.new url)).run steps).follows_step s c
    have hafter := guard_after h
    cases hafter with
    | @taken t t' key hk hnew =>
      simp only [step, Hub.acquire_of_keyed _ hk, Hub.registry, Hub.boards_withBoard_self, Board.registry_acquire]
      exact hs.registry.issued_acquire key Board.quiet
    | @looked c g₀ h₀ =>
      rw [Registry.Issued, Guard.channel_poll]
      exact hfollows.keyOf? (ih h₀)
    | kept h₀ => exact hfollows.keyOf? (ih h₀)

/-! ### Guards of a topic -/

def ofTopic (c : Topic) (x : Option (Topic × Guard)) : Option Guard := (x.filter (·.1 = c)).map Prod.snd

/-- The guards of a topic that are held. -/
def held (a : Audience) (c : Topic) : List Guard := a.guards.filterMap (ofTopic c)

/-- How many guards are held of a channel. -/
def count (a : Audience) (c : Topic) (n : Nat) : Nat := (a.held c).countP (·.receiver.channel = n)

theorem mem_held_iff : g ∈ a.held c ↔ ∃ i, a.guard? i = some (c, g) := by
  simp only [held, List.mem_filterMap, guard?, Option.join_eq_some_iff]
  constructor
  · rintro ⟨x, hx, hg⟩
    obtain ⟨i, hi⟩ := List.mem_iff_getElem?.1 hx
    obtain ⟨⟨d, g'⟩, hfilter, rfl⟩ := Option.map_eq_some_iff.1 hg
    obtain ⟨rfl, hd⟩ := Option.filter_eq_some_iff.1 hfilter
    obtain rfl : d = c := of_decide_eq_true hd
    exact ⟨i, hi⟩
  · rintro ⟨i, hi⟩
    exact ⟨_, List.mem_of_getElem? hi, by simp [ofTopic]⟩

theorem count_set (h : Hub) {j : Nat} {x : Topic × Guard} (hj : a.guard? j = some x) (y : Option (Topic × Guard)) (n : Nat) :
    count ⟨h, a.guards.set j y⟩ c n + (ofTopic c (some x)).toList.countP (·.receiver.channel = n) =
      a.count c n + (ofTopic c y).toList.countP (·.receiver.channel = n) :=
  countP_filterMap_set (ofTopic c) (·.receiver.channel = n) (Option.join_eq_some_iff.1 hj) y

theorem count_concat (h : Hub) (y : Option (Topic × Guard)) (n : Nat) :
    count ⟨h, a.guards ++ [y]⟩ c n = a.count c n + (ofTopic c y).toList.countP (·.receiver.channel = n) := by
  simp only [count, held, List.filterMap_append, List.countP_append]
  cases hy : ofTopic c y <;> simp [hy]

theorem ofTopic_self (c : Topic) (g : Guard) : ofTopic c (some (c, g)) = some g := by simp [ofTopic]

theorem ofTopic_of_ne {d : Topic} (h : d ≠ c) (g : Guard) : ofTopic c (some (d, g)) = none := by simp [ofTopic, h]

/-- No guard is held of a channel that is yet to come. -/
theorem count_of_unopened (url : Url) (steps : List HubStep) {n : Nat}
    (hn : (((of (.new url)).run steps).hub.registry c).channels.length ≤ n) : ((of (.new url)).run steps).count c n = 0 := by
  refine List.countP_eq_zero.2 fun g hg hc => ?_
  obtain ⟨i, hi⟩ := mem_held_iff.1 hg
  have hlt := Registry.lt_of_keyOf? (issued_run url steps hi)
  rw [of_decide_eq_true hc] at hlt
  exact absurd hlt (Nat.not_lt.2 hn)

theorem count_poll (a : Audience) (j : Nat) (c : Topic) (n : Nat) : (a.poll j).1.count c n = a.count c n := by
  unfold poll
  cases hj : a.guard? j with
  | none => rfl
  | some x =>
    obtain ⟨d, g⟩ := x
    have hcount := count_set (c := c) a.hub hj (some (d, (g.poll (a.hub.registry d)).1)) n
    by_cases hd : d = c
    · subst hd
      simp only [ofTopic_self, Option.toList_some, List.countP_singleton, Guard.channel_poll] at hcount
      exact Nat.add_right_cancel hcount
    · simp only [ofTopic_of_ne hd] at hcount
      exact hcount

/-! ### One step -/

/-- What a step does to the entries of a topic, and to the guards of it that are held. -/
inductive Shift (a : Audience) (c : Topic) : HubStep → Audience → Prop where
  | still {s : HubStep} {a' : Audience} (hentries : (a'.hub.registry c).entries = (a.hub.registry c).entries)
      (hcount : ∀ n, a'.count c n = a.count c n) : Shift a c s a'
  | taken {t : Target} {a' : Audience} (key : String)
      (hentries : (a'.hub.registry c).entries = ((a.hub.registry c).acquire key Board.quiet).1.entries)
      (hcount : ∀ n, a'.count c n =
        a.count c n + if ((a.hub.registry c).acquire key Board.quiet).2.receiver.channel = n then 1 else 0) :
      Shift a c (.acquire t) a'
  | returned {j : Nat} {g : Guard} {a' : Audience} (hj : a.guard? j = some (c, g))
      (hentries : (a'.hub.registry c).entries = ((a.hub.registry c).giveBack g).entries)
      (hcount : ∀ n, a'.count c n + (if g.receiver.channel = n then 1 else 0) = a.count c n) : Shift a c (.giveBack j) a'
  | named (key : String) (a' : Audience) : Shift a c (.release c key) a'
  | cleared {a' : Audience} (hentries : (a'.hub.registry c).entries = []) : Shift a c .clearAll a'

theorem shift_acquire (a : Audience) (t : Target) (c : Topic) : Shift a c (.acquire t) (a.step (.acquire t)).1 := by
  cases hk : keyed t with
  | none =>
    simp only [step, Hub.acquire_of_unkeyed _ hk]
    exact .still rfl fun n => count_concat _ _ n
  | some x =>
    obtain ⟨t', key⟩ := x
    simp only [step, Hub.acquire_of_keyed _ hk, ← topic_keyed hk, Option.map_some]
    by_cases hc : t'.topic = c
    · subst hc
      refine .taken key ?_ fun n => ?_
      · rw [Hub.registry, Hub.boards_withBoard_self, Board.registry_acquire]
        rfl
      · rw [count_concat, ofTopic_self, Option.toList_some, List.countP_singleton]
        simp only [decide_eq_true_eq]
    · refine .still ?_ fun n => ?_
      · rw [Hub.registry, Hub.boards_withBoard_of_ne _ hc]
        rfl
      · rw [count_concat, ofTopic_of_ne hc]
        rfl

theorem shift_giveBack (h : Board.Sound url (a.hub.boards c)) (j : Nat) : Shift a c (.giveBack j) (a.step (.giveBack j)).1 := by
  cases hj : a.guard? j with
  | none =>
    simp only [step, hj]
    exact .still rfl fun _ => rfl
  | some x =>
    obtain ⟨d, g⟩ := x
    have hcount := fun n => count_set (c := c) (a.hub.giveBack d g).1 hj none n
    simp only [step, hj]
    by_cases hd : d = c
    · subst hd
      have hback : (Operation.giveBack g : Operation Record).givesBack = true := rfl
      obtain ⟨cs, hreturns⟩ := h.returns hback (.one d)
      refine .returned hj ?_ fun n => ?_
      · rw [Hub.registry, Hub.giveBack, Hub.boards_withBoard_self]
        exact hreturns.frees.entries
      · have := hcount n
        rw [ofTopic_self, Option.toList_some, List.countP_singleton] at this
        simp only [decide_eq_true_eq] at this
        exact this
    · refine .still ?_ fun n => ?_
      · rw [Hub.registry, Hub.giveBack, Hub.boards_withBoard_of_ne _ hd]
        rfl
      · have := hcount n
        rw [ofTopic_of_ne hd] at this
        exact this

theorem shift_step (h : Board.Sound url (a.hub.boards c)) (s : HubStep) : Shift a c s (a.step s).1 := by
  cases s with
  | acquire t => exact a.shift_acquire t c
  | giveBack j => exact shift_giveBack h j
  | release d key =>
    by_cases hd : d = c
    · subst hd
      exact .named key _
    · refine .still ?_ fun _ => rfl
      simp only [step, Hub.release, Hub.registry, Hub.boards_withBoard_of_ne _ hd]
  | poll j =>
    simp only [step]
    refine .still ?_ (a.count_poll j c)
    rw [hub_poll]
  | event d n e =>
    refine .still ?_ fun _ => rfl
    simp only [step, Hub.event, Hub.registry]
    by_cases hd : d = c
    · subst hd
      rw [Hub.boards_withBoard_self]
      exact Board.entries_event ..
    · rw [Hub.boards_withBoard_of_ne _ hd]
  | clearAll =>
    have hback : (Operation.clearAll : Operation Record).givesBack = true := rfl
    obtain ⟨cs, hreturns⟩ := h.returns hback (.one c)
    refine .cleared ?_
    simp only [step, Hub.registry, Hub.boards_clearAll]
    exact hreturns.frees.entries.trans h.registry.entries_clearAll

/-! ### Every run -/

/-- As long as nobody names a key of the topic, the references of an entry are the guards that are held of its channel. -/
theorem counted_run (url : Url) (steps : List HubStep) (c : Topic) (hunnamed : ∀ key, .release c key ∉ steps) :
    (((of (.new url)).run steps).hub.registry c).Counted (((of (.new url)).run steps).count c) := by
  induction steps using List.reverseRecOn with
  | nil => exact fun e he => absurd he List.not_mem_nil
  | append_singleton steps s ih =>
    have hs := sound_run url steps c
    have hnew := fun n => count_of_unopened url steps (c := c) (n := n)
    have hbefore := ih fun key hkey => hunnamed key (List.mem_append_left _ hkey)
    have hshift := shift_step hs s
    rw [run_concat]
    generalize (((of (.new url)).run steps).step s).1 = a' at hshift ⊢
    cases hshift with
    | still hentries hcount => exact hbefore.congr hentries hcount
    | taken key hentries hcount =>
      exact (hbefore.acquire hs.registry hnew key Board.quiet hcount).congr hentries fun _ => rfl
    | returned hj hentries hcount =>
      exact (hbefore.giveBack hs.registry hnew (issued_run url steps hj) hcount).congr hentries fun _ => rfl
    | named key => exact absurd (List.mem_append_right _ List.mem_cons_self) (hunnamed key)
    | cleared hentries => exact fun e he => absurd (hentries ▸ he) List.not_mem_nil

/-- As long as nobody names a key of the topic and nobody clears the hub, the channel of a guard that is held is in the map. -/
theorem listed_step {s : HubStep} (h : Board.Sound url (a.hub.boards c)) (hcounted : (a.hub.registry c).Counted (a.count c))
    (hl : (a.hub.registry c).Listed g.receiver.channel) (hheld : (a.step s).1.guard? i = some (c, g))
    (hunnamed : ∀ key, s ≠ .release c key) (hclear : s ≠ .clearAll) :
    ((a.step s).1.hub.registry c).Listed g.receiver.channel := by
  have hcount : 1 ≤ (a.step s).1.count c g.receiver.channel :=
    List.countP_pos_iff.2 ⟨g, mem_held_iff.2 ⟨i, hheld⟩, by simp⟩
  have hshift := shift_step h s
  generalize (a.step s).1 = a' at hshift hcount ⊢
  cases hshift with
  | still hentries => rwa [Registry.Listed, hentries]
  | taken key hentries =>
    have hlisted := (Board.listed_acquire (a.hub.boards c) key (.one c key) g.receiver.channel).2 (.inl hl)
    rw [Board.registry_acquire] at hlisted
    rwa [Registry.Listed, hentries]
  | @returned j g' _ hj hentries hreturned =>
    rw [Registry.Listed, hentries]
    refine h.registry.listed_giveBack hl fun e he hc hc' => ?_
    -- the guard that is given back is another one of the same channel
    have hrefs := hcounted e he
    have hboth := hreturned g.receiver.channel
    rw [hc] at hrefs
    rw [if_pos hc'] at hboth
    omega
  | named key => exact absurd rfl (hunnamed key)
  | cleared => exact absurd rfl hclear

/-- A guard that its entry backs is backed by it for as long as it is held, unless the hub is cleared. -/
theorem backs_later {earlier later : List HubStep} {g₀ : Guard} (hunnamed : ∀ key, .release c key ∉ earlier ++ later)
    (hclear : .clearAll ∉ later) (h₀ : ((of (.new url)).run earlier).guard? i = some (c, g₀))
    (hb : (((of (.new url)).run earlier).hub.registry c).Backs g₀)
    (h : ((of (.new url)).run (earlier ++ later)).guard? i = some (c, g)) :
    (((of (.new url)).run (earlier ++ later)).hub.registry c).Backs g := by
  have hslot : i < ((of (.new url)).run earlier).guards.length :=
    (List.getElem?_eq_some_iff.1 (Option.join_eq_some_iff.1 h₀)).1
  induction later using List.reverseRecOn generalizing g with
  | nil =>
    rw [List.append_nil] at h ⊢
    obtain ⟨-, rfl⟩ := Prod.mk.inj (Option.some.inj (h₀.symm.trans h))
    exact hb
  | append_singleton later s ih =>
    have hissued := issued_run url _ h
    have hs := sound_run url (earlier ++ later) c
    refine ((sound_run url _ c).registry.backs_iff_listed hissued).2 ?_
    rw [← List.append_assoc] at hunnamed h
    change (((of (.new url)).run (earlier ++ (later ++ [s]))).hub.registry c).Listed _
    rw [← List.append_assoc]
    rw [run_concat] at h ⊢
    have hslot' : i < ((of (.new url)).run (earlier ++ later)).guards.length := by
      rw [run_append]
      exact Nat.lt_of_lt_of_le hslot (length_guards_le _ _)
    obtain ⟨g₁, h₁, -, hchannel⟩ := guard_before hslot' h
    have hunnamed' : ∀ key, .release c key ∉ earlier ++ later := fun key hkey =>
      hunnamed key (List.mem_append_left _ hkey)
    have hl := (hs.registry.backs_iff_listed (issued_run url _ h₁)).1
      (ih hunnamed' (fun hmem => hclear (List.mem_append_left _ hmem)) h₁)
    refine listed_step hs (counted_run url _ c hunnamed') (hchannel ▸ hl) h (fun key heq => ?_) fun heq => ?_
    · exact hunnamed key (heq ▸ List.mem_append_right _ List.mem_cons_self)
    · exact hclear (heq ▸ List.mem_append_right _ List.mem_cons_self)

/-- In the slot of an acquire is a guard of what was asked for there, of the channel that it got then. -/
theorem guard_of_acquire (url : Url) (before later : List HubStep) {t t' : Target} {key : String} (hk : keyed t = some (t', key))
    (h : ((of (.new url)).run (before ++ [.acquire t] ++ later)).guard? ((of (.new url)).run before).guards.length =
      some (c, g)) :
    c = t.topic ∧ g.key = key ∧
      let asking := (of (.new url)).run (before ++ [.acquire t])
      ∃ g₀, asking.guard? ((of (.new url)).run before).guards.length = some (c, g₀) ∧ (asking.hub.registry c).Backs g₀ ∧
        g₀.key = key ∧ g₀.receiver.channel = g.receiver.channel := by
  have htaken := guard?_acquire ((of (.new url)).run before) hk
  have hback := (((of (.new url)).run before).hub.registry t.topic).backs_acquire key Board.quiet
  rw [← run_concat] at htaken
  have hslot := (List.getElem?_eq_some_iff.1 (Option.join_eq_some_iff.1 htaken)).1
  rw [run_append] at h
  obtain ⟨g₀, h₀, hkey, hchannel⟩ := guard_earlier hslot h
  obtain ⟨rfl, rfl⟩ := Prod.mk.inj (Option.some.inj (htaken.symm.trans h₀))
  have hkey₀ := Registry.key_acquire (((of (.new url)).run before).hub.registry t.topic) key Board.quiet
  refine ⟨rfl, hkey ▸ hkey₀, _, htaken, ?_, hkey₀, hchannel⟩
  rw [run_concat]
  simpa only [step, Hub.acquire_of_keyed _ hk, Hub.registry, topic_keyed hk, Hub.boards_withBoard_self,
    Board.registry_acquire] using hback

/-! ### What the channels ask for -/

theorem asks_step {n : Nat} {t : Target} (h : Board.Sound url (a.hub.boards c)) (hasks : (a.hub.boards c).Asks n t)
    (s : HubStep) : ((a.step s).1.hub.boards c).Asks n t := by
  have hmoves := a.moves_step s c
  generalize atTopic c (a.step s).2 = done at hmoves
  generalize (a.step s).1.hub.boards c = b' at hmoves ⊢
  cases hmoves with
  | idle => exact hasks
  | acquired => exact hasks.acquire _ _
  | returned op hop => exact hasks.adopt h hop _
  | event n e => exact hasks.event n e

/-- A channel goes on asking for what it was opened for. -/
theorem asks_later {n : Nat} {t : Target} {earlier : List HubStep}
    (hasks : (((of (.new url)).run earlier).hub.boards c).Asks n t) (later : List HubStep) :
    (((of (.new url)).run (earlier ++ later)).hub.boards c).Asks n t := by
  induction later using List.reverseRecOn with
  | nil => rwa [List.append_nil]
  | append_singleton later s ih =>
    rw [← List.append_assoc, run_concat]
    exact asks_step (sound_run url _ c) ih s

/-- Only an acquire of a key that is not there opens a channel, which asks for what is asked for there. -/
theorem asks_of_new {s : HubStep} {n : Nat} {key : String} (h : Board.Sound url (a.hub.boards c))
    (hnew : (a.hub.registry c).channels.length ≤ n) (hkey : ((a.step s).1.hub.registry c).keyOf? n = some key) :
    ∃ t₀ t, s = .acquire t₀ ∧ keyed t₀ = some (t, key) ∧ t.topic = c ∧ ((a.step s).1.hub.boards c).Asks n t := by
  have hlt := Registry.lt_of_keyOf? hkey
  have hmoves := a.moves_step s c
  simp only [Hub.registry] at hkey hlt hnew
  generalize atTopic c (a.step s).2 = done at hmoves
  generalize (a.step s).1.hub.boards c = b' at *
  have hold := Nat.not_lt.2 hnew
  cases hmoves with
  | idle => exact absurd hlt hold
  | @acquired t₀ t k hk hc =>
    cases he : (a.hub.boards c).registry.entry? k with
    | some e =>
      rw [Board.acquire_of_present he, Registry.acquire_of_present he] at hlt
      exact absurd hlt hold
    | none =>
      have hopened := Board.Asks.opened h he t
      rw [Board.acquire_of_absent he, Registry.acquire_of_absent he] at hkey hlt hopened ⊢
      obtain rfl : n = (a.hub.boards c).registry.channels.length := by
        simp only [Registry.openFor, List.length_append, List.length_singleton] at hlt
        omega
      obtain rfl := Option.some.inj ((Registry.keyOf?_openFor_self ..).symm.trans hkey)
      exact ⟨t₀, t, rfl, hk, hc, hopened⟩
  | returned op hop =>
    obtain ⟨cs, hreturns⟩ := h.returns hop (.one c)
    rw [hreturns.frees.length, Registry.length_of_givesBack _ hop] at hlt
    exact absurd hlt hold
  | event m e =>
    rw [Board.length_event] at hlt
    exact absurd hlt hold

/-- What a channel asks for was asked for with its key. -/
theorem asks_run (url : Url) (steps : List HubStep) {n : Nat} {key : String}
    (hkey : (((of (.new url)).run steps).hub.registry c).keyOf? n = some key) :
    ∃ t₀ t, .acquire t₀ ∈ steps ∧ keyed t₀ = some (t, key) ∧ t.topic = c ∧
      (((of (.new url)).run steps).hub.boards c).Asks n t := by
  induction steps using List.reverseRecOn with
  | nil => exact absurd (Registry.lt_of_keyOf? hkey) (Nat.not_lt_zero n)
  | append_singleton steps s ih =>
    rw [run_concat] at hkey
    rcases Nat.lt_or_ge n (((of (.new url)).run steps).hub.registry c).channels.length with hold | hnew
    · obtain ⟨k, hk⟩ : ∃ k, (((of (.new url)).run steps).hub.registry c).keyOf? n = some k :=
        ⟨_, by rw [Registry.keyOf?, List.getElem?_eq_getElem hold]; rfl⟩
      have hfollows := ((of (.new url)).run steps).follows_step s c
      obtain rfl := Option.some.inj ((hfollows.keyOf? hk).symm.trans hkey)
      obtain ⟨t₀, t, hmem, hkeyed, hc, hasks⟩ := ih hk
      exact ⟨t₀, t, List.mem_append_left _ hmem, hkeyed, hc, asks_later hasks [s]⟩
    · obtain ⟨t₀, t, rfl, hkeyed, hc, hasks⟩ := asks_of_new (sound_run url steps c) hnew hkey
      rw [run_concat]
      exact ⟨t₀, t, List.mem_append_right _ List.mem_cons_self, hkeyed, hc, hasks⟩

end Audience

end FleetFeed.Feed
