import FleetFeed.Proofs.Feed.Boards
import FleetFeed.Proofs.Feed.LastWrite
import FleetFeed.Proofs.Feed.LinkMoves

/-! What happens at a board, channel by channel. As long as the entry of a channel is in the map, its cell shows what its
link delivered last, whatever happens at the others; a channel whose entry goes takes its link with it, which is given up
then and there and never touches the board again. -/
namespace FleetFeed.Feed

open Event

variable {ρ : Type}

/-- What a cell shows into which this was written, one after the other, since it was opened. -/
def showing (ps : List (Push ρ)) : Status ρ := (ps.getLast?.map Push.status).getD .pending

theorem showing_append (xs ys : List (Push ρ)) : showing (xs ++ ys) = (ys.getLast?.map Push.status).getD (showing xs) := by
  rw [showing, List.getLast?_append]
  cases ys.getLast? <;> rfl

/-- The operation only takes references back. -/
def Operation.givesBack : Operation ρ → Bool
  | .giveBack _ | .release _ | .clearAll => true
  | .acquire .. | .push .. | .letGo _ => false

namespace Registry

/-! ### References that go back -/

/-- What stays in the map when references go back was there before, with the cell that it has. -/
theorem Sound.channels_of_givesBack {r : Registry ρ} (h : r.Sound) {op : Operation ρ} (hop : op.givesBack = true) {n : Nat}
    (hl : (r.perform op).Listed n) : r.Listed n ∧ (r.perform op).channels[n]? = r.channels[n]? := by
  have hout := r.outcome_perform op
  generalize r.perform op = s at hout hl ⊢
  cases hout with
  | joined | opened | pushed | letGo => exact absurd hop (by simp [Operation.givesBack])
  | @hit _ e he =>
    have hmem := (entry?_spec (entry?_of_hit he)).1
    rw [dropRef_eq] at hl ⊢
    split
    case isTrue hlast =>
      rw [if_pos hlast, h.listed_remove hmem] at hl
      rw [remove_eq]
      exact ⟨hl.1, List.getElem?_modify_ne _ _ (Ne.symm hl.2)⟩
    case isFalse hmany =>
      rw [if_neg hmany, listed_recount] at hl
      exact ⟨hl, rfl⟩
  | missedGuard | missedKey => exact ⟨hl, rfl⟩
  | cleared => exact absurd hl (by simp [Listed, h.entries_clearAll])

theorem journal_of_givesBack (r : Registry ρ) {op : Operation ρ} (hop : op.givesBack = true) :
    ∃ cs : List Nat, (r.perform op).journal = r.journal ++ cs.map .cancelled := by
  cases op with
  | giveBack g => exact r.journal_giveBack g
  | release key => exact r.journal_release key
  | clearAll => exact ⟨_, r.journal_clearAll⟩
  | acquire | push | letGo => exact absurd hop (by simp [Operation.givesBack])

theorem length_of_givesBack (r : Registry ρ) {op : Operation ρ} (hop : op.givesBack = true) :
    (r.perform op).channels.length = r.channels.length := by
  refine r.length_perform op fun key o heq => ?_
  rw [heq] at hop
  exact absurd hop (by simp [Operation.givesBack])

/-- What is cancelled when references go back is what leaves the map, each channel once. -/
theorem Sound.cancelled_of_givesBack {r : Registry ρ} (h : r.Sound) {op : Operation ρ} (hop : op.givesBack = true)
    {cs : List Nat} (hcs : (r.perform op).journal = r.journal ++ cs.map .cancelled) :
    cs.Nodup ∧ ∀ n, n ∈ cs ↔ r.Listed n ∧ ¬ (r.perform op).Listed n := by
  have hcount : ∀ n, (if n < r.channels.length ∧ ¬ (r.perform op).Listed n then 1 else 0) =
      (if n < r.channels.length ∧ ¬ r.Listed n then 1 else 0) + cs.count n := by
    intro n
    have hafter := (h.perform op).cancelled n
    rw [hcs, List.count_append, h.cancelled n, r.length_of_givesBack hop,
      List.count_map_of_injective cs Happening.cancelled (fun _ _ => Happening.cancelled.inj) n] at hafter
    exact hafter.symm
  refine ⟨List.nodup_iff_count_le_one.2 fun n => ?_, fun n => ?_⟩
  · have := hcount n
    split_ifs at this <;> omega
  · have hn := hcount n
    have hlt := h.lt_of_listed (c := n)
    have hback : (r.perform op).Listed n → r.Listed n := fun hl => (h.channels_of_givesBack hop hl).1
    rw [← List.count_pos_iff]
    by_cases hl : r.Listed n
    · by_cases hl' : (r.perform op).Listed n
      · rw [if_neg fun hand => hand.2 hl', if_neg fun hand => hand.2 hl] at hn
        exact iff_of_false (by omega) fun hand => hand.2 hl'
      · rw [if_pos ⟨hlt hl, hl'⟩, if_neg fun hand => hand.2 hl] at hn
        exact iff_of_true (by omega) ⟨hl, hl'⟩
    · have hl' : ¬ (r.perform op).Listed n := fun hl' => hl (hback hl')
      simp only [hl, hl', not_false_eq_true, and_true] at hn
      exact iff_of_false (by omega) fun hand => hl hand.1

/-! ### Cells and their holders -/

/-- Someone outside the registry can still write to the cell. -/
def isHeld (r : Registry ρ) (c : Nat) : Bool := ((r.channels[c]?).map Channel.held).getD false

theorem isHeld_onChannel (r : Registry ρ) (c d : Nat) {f : Channel ρ → Channel ρ} (hf : ∀ ch, (f ch).held = ch.held) :
    (r.onChannel c f).isHeld d = r.isHeld d := by
  rw [isHeld, isHeld, channels_onChannel]
  split
  case isTrue => simp [Function.comp_def, hf]
  case isFalse => rfl

theorem isHeld_of_givesBack {r : Registry ρ} (h : r.Sound) {op : Operation ρ} (hop : op.givesBack = true) (n : Nat) :
    (r.perform op).isHeld n = r.isHeld n := by
  have hremove : ∀ (s : Registry ρ) (e : Entry), (s.remove e).isHeld n = s.isHeld n := by
    intro s e
    rw [remove_eq]
    exact s.isHeld_onChannel e.channel n (f := Channel.ended) fun _ => rfl
  have hout := r.outcome_perform op
  generalize r.perform op = s at hout ⊢
  cases hout with
  | joined | opened | pushed | letGo => exact absurd hop (by simp [Operation.givesBack])
  | hit =>
    rw [dropRef_eq]
    split
    case isTrue => exact hremove r _
    case isFalse => rfl
  | missedGuard | missedKey => rfl
  | cleared =>
    exact (h.clearAll_induction (P := fun s => s.isHeld n = r.isHeld n) rfl fun s e _ _ hs => (hremove s e).trans hs).2.2

@[simp] theorem statusOf_letGo (r : Registry ρ) (c d : Nat) : (r.letGo c).statusOf d = r.statusOf d := by
  rw [letGo, statusOf, statusOf, channels_onChannel]
  split
  case isTrue => simp [Function.comp_def]
  case isFalse => rfl

theorem isHeld_letGo (r : Registry ρ) (c d : Nat) : (r.letGo c).isHeld d = if c = d then false else r.isHeld d := by
  rw [letGo, isHeld, isHeld, channels_onChannel]
  split
  case isTrue => cases r.channels[d]? <;> rfl
  case isFalse => rfl

/-- There is nothing to let go of a second time. -/
theorem letGo_of_not_isHeld {r : Registry ρ} {c : Nat} (h : r.isHeld c = false) : r.letGo c = r := by
  have hchannels : (r.letGo c).channels = r.channels := by
    refine List.ext_getElem? fun d => ?_
    rw [letGo, channels_onChannel]
    split
    case isTrue hcd =>
      subst hcd
      rw [isHeld] at h
      cases hch : r.channels[c]? with
      | none => rfl
      | some ch =>
        rw [hch] at h
        obtain ⟨key, status, version, live, held, late⟩ := ch
        obtain rfl : held = false := h
        rfl
    case isFalse => rfl
  exact congrArg (fun chs => { r with channels := chs }) hchannels

/-! ### What a link brings -/

/-- What a registry becomes by what the link of a channel did: what was delivered goes into the cell, and a link that has
ended lets go of it. -/
def hear (r : Registry Record) (n : Nat) (next : Link × List LinkAction) : Registry Record :=
  if next.1.stage = .ended then (r.pushAll n (delivered next.2)).letGo n else r.pushAll n (delivered next.2)

section Hear

variable (r : Registry Record) (n : Nat) (next : Link × List LinkAction)

theorem hear_frame : (r.hear n next).entries = r.entries ∧ (r.hear n next).journal = r.journal ∧
    (r.hear n next).channels.length = r.channels.length := by
  have hpush : ∀ ps, (r.pushAll n ps).entries = r.entries ∧ (r.pushAll n ps).journal = r.journal ∧
      (r.pushAll n ps).channels.length = r.channels.length := by
    intro ps
    cases ha : r.accepts n with
    | true => rw [pushAll_of_accepts ha]; exact ⟨rfl, rfl, List.length_modify ..⟩
    | false => rw [pushAll_of_refuses ha]; exact ⟨rfl, rfl, rfl⟩
  obtain ⟨hentries, hjournal, hlength⟩ := hpush (delivered next.2)
  unfold hear
  split
  case isTrue => exact ⟨hentries, hjournal, (length_onChannel ..).trans hlength⟩
  case isFalse => exact ⟨hentries, hjournal, hlength⟩

theorem listed_hear (c : Nat) : (r.hear n next).Listed c ↔ r.Listed c := by
  rw [Listed, (r.hear_frame n next).1, Listed]

theorem channels_hear {c : Nat} (hc : n ≠ c) : (r.hear n next).channels[c]? = r.channels[c]? := by
  have hpush : ∀ ps, (r.pushAll n ps).channels[c]? = r.channels[c]? := by
    intro ps
    cases ha : r.accepts n with
    | true => rw [pushAll_of_accepts ha]; exact List.getElem?_modify_ne _ _ hc
    | false => rw [pushAll_of_refuses ha]
  unfold hear
  split
  case isTrue => rw [letGo, channels_onChannel, if_neg hc, hpush]
  case isFalse => exact hpush _

variable {r n}

theorem Sound.statusOf_hear (h : r.Sound) (hl : r.Listed n) :
    (r.hear n next).statusOf n = ((delivered next.2).getLast?.map Push.status).getD (r.statusOf n) := by
  have hpush : (r.pushAll n (delivered next.2)).statusOf n =
      ((delivered next.2).getLast?.map Push.status).getD (r.statusOf n) := by
    rw [pushAll_of_accepts ((h.accepts_iff n).2 hl)]
    simp only [statusOf, List.getElem?_modify_eq, List.getElem?_eq_getElem (h.lt_of_listed hl), Option.map_eq_map,
      Option.map_some, Option.getD_some, Channel.writes_eq]
  unfold hear
  split
  case isTrue => rw [statusOf_letGo, hpush]
  case isFalse => exact hpush

end Hear

end Registry

namespace Board

/-! ### One event -/

theorem event_of_link {b : Board} {n : Nat} {l : Link} (hl : b.links[n]? = some l) (e : LinkEvent) :
    b.event n e = ({ b with registry := b.registry.hear n (l.step e), links := b.links.set n (l.step e).1 }, (l.step e).2) := by
  have hreceive : ∀ (done : List LinkAction) (r : Registry Record),
      done.foldl (receive · n) r = r.pushAll n (delivered done) := by
    intro done
    induction done with
    | nil => exact fun _ => rfl
    | cons x done ih => exact fun r => by cases x <;> exact ih _
  rw [event, hl]
  simp only [hreceive]
  rfl

theorem event_of_none {b : Board} {n : Nat} (hl : b.links[n]? = none) (e : LinkEvent) : b.event n e = (b, []) := by
  rw [event, hl]

/-- An event moves the link where it happens, and no other. -/
theorem links_event (b : Board) (n m : Nat) (e : LinkEvent) :
    (b.event n e).1.links[m]? = if n = m then (b.links[m]?).map fun l => (l.step e).1 else b.links[m]? := by
  cases hl : b.links[n]? with
  | none =>
    rw [event_of_none hl]
    split
    case isTrue hnm => rw [← hnm, hl]; rfl
    case isFalse => rfl
  | some l =>
    rw [event_of_link hl, List.getElem?_set, if_pos (List.getElem?_eq_some_iff.1 hl).1]
    split
    case isTrue hnm => rw [← hnm, hl]; rfl
    case isFalse => rfl

/-- Links stay sound whatever happens at one of them. -/
theorem links_sound_event {b : Board} (hb : ∀ (n : Nat) (l : Link), b.links[n]? = some l → l.Sound) (n : Nat)
    (e : LinkEvent) (m : Nat) (k : Link) (hm : (b.event n e).1.links[m]? = some k) : k.Sound := by
  rw [links_event] at hm
  split at hm
  case isTrue =>
    obtain ⟨l, hl, rfl⟩ := Option.map_eq_some_iff.1 hm
    exact (hb m l hl).step e
  case isFalse => exact hb m k hm

/-- An event opens nothing and takes nothing out of the map. -/
theorem listed_event (b : Board) (n m : Nat) (e : LinkEvent) :
    (b.event n e).1.registry.Listed m ↔ b.registry.Listed m := by
  cases hl : b.links[n]? with
  | none => rw [event_of_none hl]
  | some l => rw [event_of_link hl]; exact b.registry.listed_hear n (l.step e) m

/-- What is in the map once a key was asked for: what was there before, and a channel of its own if the key was not. -/
theorem listed_acquire (b : Board) (key : String) (t : Target) (n : Nat) :
    (b.acquire key t).1.registry.Listed n ↔
      b.registry.Listed n ∨ b.registry.entry? key = none ∧ n = b.registry.channels.length := by
  cases hk : b.registry.entry? key with
  | some e =>
    rw [acquire_of_present hk, Registry.acquire_of_present hk]
    exact (Registry.listed_recount ..).trans (or_iff_left fun h => absurd h.1 (by simp)).symm
  | none =>
    rw [acquire_of_absent hk, Registry.acquire_of_absent hk]
    exact (Registry.listed_openFor ..).trans (or_congr_right (and_iff_right rfl).symm)

/-- What holds of a board between any two steps: a channel that left the map took its link with it. -/
structure Sound (url : Url) (b : Board) : Prop where
  url_eq : b.url = url
  registry : b.registry.Sound
  numbered : b.links.length = b.registry.channels.length
  links : ∀ (n : Nat) (l : Link), b.links[n]? = some l → l.Sound
  givenUp : ∀ (n : Nat) (l : Link), b.links[n]? = some l → ¬ b.registry.Listed n →
    l.cancelled = true ∧ b.registry.isHeld n = false

theorem sound_new (url : Url) : Sound url (.new url) where
  url_eq := rfl
  registry := Registry.sound_empty
  numbered := rfl
  links n l hl := absurd hl (by simp [Board.new])
  givenUp n l hl := absurd hl (by simp [Board.new])

namespace Sound

variable {url : Url} {b : Board}

theorem exists_link (h : Sound url b) {n : Nat} (hn : n < b.registry.channels.length) : ∃ l, b.links[n]? = some l :=
  ⟨_, List.getElem?_eq_getElem (h.numbered ▸ hn)⟩

theorem ended (h : Sound url b) {n : Nat} {l : Link} (hl : b.links[n]? = some l) (hn : ¬ b.registry.Listed n) :
    l.stage = .ended := (h.links n l hl).ended (h.givenUp n l hl hn).1

/-- Nothing that happens at a channel whose entry is gone is noticed. -/
theorem event_of_gone (h : Sound url b) {n : Nat} (hn : ¬ b.registry.Listed n) (e : LinkEvent) : b.event n e = (b, []) := by
  cases hl : b.links[n]? with
  | none => exact event_of_none hl e
  | some l =>
    obtain ⟨hcancelled, hheld⟩ := h.givenUp n l hl hn
    have hstep : l.step e = (l, []) := by
      rw [Link.step_of_ended (h.ended hl hn), hcancelled, Bool.true_or, ← hcancelled]
    have hhear : b.registry.hear n (l, []) = b.registry := by
      rw [Registry.hear, if_pos (h.ended hl hn)]
      exact Registry.letGo_of_not_isHeld hheld
    have hset : b.links.set n l = b.links := by
      obtain ⟨hlt, heq⟩ := List.getElem?_eq_some_iff.1 hl
      rw [← heq, List.set_getElem_self hlt]
    rw [event_of_link hl, hstep, hhear, hset]

theorem event (h : Sound url b) (n : Nat) (e : LinkEvent) : Sound url (b.event n e).1 := by
  by_cases hn : b.registry.Listed n
  case neg => rw [h.event_of_gone hn]; exact h
  obtain ⟨l, hl⟩ := h.exists_link (h.registry.lt_of_listed hn)
  have hregistry : (b.event n e).1.registry.Sound := by
    rw [registry_event]
    exact h.registry.performAll _
  have hlinks := links_sound_event h.links n e
  rw [event_of_link hl] at hregistry hlinks ⊢
  obtain ⟨-, -, hlength⟩ := b.registry.hear_frame n (l.step e)
  refine ⟨h.url_eq, hregistry, ?_, hlinks, fun m k hm hgone => ?_⟩
  · rw [List.length_set, h.numbered, hlength]
  · rw [Registry.listed_hear] at hgone
    have hne : n ≠ m := fun hnm => hgone (hnm ▸ hn)
    rw [List.getElem?_set_ne hne] at hm
    rw [Registry.isHeld, Registry.channels_hear _ _ _ hne]
    exact h.givenUp m k hm hgone

theorem acquire (h : Sound url b) (key : String) (t : Target) : Sound url (b.acquire key t).1 := by
  have hregistry : (b.registry.acquire key quiet).1.Sound := h.registry.perform (.acquire key quiet)
  cases hk : b.registry.entry? key with
  | some e =>
    rw [acquire_of_present hk]
    rw [Registry.acquire_of_present hk] at hregistry ⊢
    refine ⟨h.url_eq, hregistry, h.numbered, h.links, fun m k hm hgone => ?_⟩
    rw [Registry.listed_recount] at hgone
    exact h.givenUp m k hm hgone
  | none =>
    rw [acquire_of_absent hk]
    rw [Registry.acquire_of_absent hk] at hregistry ⊢
    have hold : ∀ {m : Nat} {k : Link}, (b.links ++ [Link.start b.url t])[m]? = some k →
        m < b.registry.channels.length ∧ b.links[m]? = some k ∨
          m = b.registry.channels.length ∧ k = Link.start b.url t := by
      intro m k hm
      by_cases hnew : m = b.links.length
      · subst hnew
        rw [List.getElem?_concat_length] at hm
        exact .inr ⟨h.numbered, (Option.some.inj hm).symm⟩
      · rw [getElem?_concat_of_ne hnew] at hm
        exact .inl ⟨h.numbered ▸ (List.getElem?_eq_some_iff.1 hm).1, hm⟩
    refine ⟨h.url_eq, hregistry, ?_, fun m k hm => ?_, fun m k hm hgone => ?_⟩
    · simp [Registry.openFor, h.numbered]
    · rcases hold hm with ⟨-, hm⟩ | ⟨-, rfl⟩
      · exact h.links m k hm
      · exact Link.sound_new ..
    · rw [Registry.listed_openFor, not_or] at hgone
      rcases hold hm with ⟨hlt, hm⟩ | ⟨hnew, -⟩
      · rw [Registry.isHeld, Registry.openFor, List.getElem?_append_left hlt]
        exact h.givenUp m k hm hgone.1
      · exact absurd hnew hgone.2

end Sound

/-! ### Channels that are cancelled -/

/-- What one link did, of what some did. -/
def doneBy (n : Nat) (done : List (Nat × LinkAction)) : List LinkAction :=
  done.filterMap fun x => if x.1 = n then some x.2 else none

theorem doneBy_append (n : Nat) (xs ys : List (Nat × LinkAction)) : doneBy n (xs ++ ys) = doneBy n xs ++ doneBy n ys :=
  List.filterMap_append

theorem doneBy_map (n m : Nat) (done : List LinkAction) : doneBy n (done.map (m, ·)) = if m = n then done else [] := by
  rw [doneBy, List.filterMap_map]
  split
  case isTrue h => simp [h]
  case isFalse h => simp [h]

/-- The links of some channels are given up, one after the other. -/
def cancel (b : Board) : List Nat → Board × List (Nat × LinkAction)
  | [] => (b, [])
  | n :: cs =>
    (((b.event n .cancelled).1.cancel cs).1,
      (b.event n .cancelled).2.map (n, ·) ++ ((b.event n .cancelled).1.cancel cs).2)

theorem adopt_eq_cancel {b : Board} {r : Registry Record} {cs : List Nat}
    (hjournal : r.journal = b.registry.journal ++ cs.map .cancelled) (target : String → Target) :
    b.adopt target r = ({ b with registry := r } : Board).cancel cs := by
  have hall : ∀ (cs : List Nat) (b : Board) (done : List (Nat × LinkAction)),
      (cs.map Happening.cancelled).foldl (fun p x => ((p.1.happen target x).1, p.2 ++ (p.1.happen target x).2)) (b, done) =
        ((b.cancel cs).1, done ++ (b.cancel cs).2) := by
    intro cs
    induction cs with
    | nil => exact fun b done => congrArg (b, ·) (List.append_nil done).symm
    | cons n cs ih =>
      intro b done
      rw [List.map_cons, List.foldl_cons, ih, List.append_assoc]
      rfl
  rw [adopt, hjournal, List.drop_left]
  exact (hall cs _ []).trans rfl

theorem cancel_frame (b : Board) (cs : List Nat) :
    (b.cancel cs).1.url = b.url ∧ (b.cancel cs).1.links.length = b.links.length := by
  induction cs generalizing b with
  | nil => exact ⟨rfl, rfl⟩
  | cons n cs ih =>
    obtain ⟨hurl, hlength⟩ := ih (b.event n .cancelled).1
    rw [cancel, hurl, hlength]
    cases hl : b.links[n]? with
    | none => rw [event_of_none hl]; exact ⟨rfl, rfl⟩
    | some l => rw [event_of_link hl]; exact ⟨rfl, List.length_set ..⟩

theorem links_cancel (b : Board) {cs : List Nat} (hcs : cs.Nodup) (m : Nat) :
    (b.cancel cs).1.links[m]? =
      if m ∈ cs then (b.links[m]?).map fun l => (l.step .cancelled).1 else b.links[m]? := by
  induction cs generalizing b with
  | nil => rfl
  | cons n cs ih =>
    obtain ⟨hn, hcs⟩ := List.nodup_cons.1 hcs
    rw [cancel, ih _ hcs, b.links_event]
    by_cases hnm : n = m
    · rw [if_neg (hnm ▸ hn), if_pos hnm, if_pos (hnm ▸ List.mem_cons_self)]
    · simp [hnm, Ne.symm hnm]

theorem doneBy_cancel (b : Board) {cs : List Nat} (hcs : cs.Nodup) (m : Nat) :
    doneBy m (b.cancel cs).2 =
      if m ∈ cs then ((b.links[m]?).map fun l => (l.step .cancelled).2).getD [] else [] := by
  induction cs generalizing b with
  | nil => rfl
  | cons n cs ih =>
    obtain ⟨hn, hcs⟩ := List.nodup_cons.1 hcs
    rw [cancel, doneBy_append, doneBy_map, ih _ hcs]
    by_cases hnm : n = m
    · subst hnm
      rw [if_neg hn, if_pos rfl, if_pos List.mem_cons_self, List.append_nil]
      cases hl : b.links[n]? with
      | none => rw [event_of_none hl]; rfl
      | some l => rw [event_of_link hl]; rfl
    · rw [b.links_event, if_neg hnm, if_neg hnm]
      simp [Ne.symm hnm]

end Board

/-- Who gives a link up ends it, and nothing is delivered. -/
theorem Link.Sound.step_cancelled {l : Link} (h : l.Sound) :
    (l.step .cancelled).1.stage = .ended ∧ (l.step .cancelled).1.cancelled = true ∧ delivered (l.step .cancelled).2 = [] := by
  have hcancelled : (l.step .cancelled).1.cancelled = true := by
    rw [cancelled_step]
    exact Bool.or_true _
  refine ⟨(h.step .cancelled).ended hcancelled, hcancelled, ?_⟩
  rw [step_of_givesUp rfl]
  exact l.delivered_cancel

namespace Board

/-- A link that is given up lets go of its cell, and that is all that the registry notices. -/
theorem registry_event_cancelled {b : Board} {n : Nat} {l : Link} (hl : b.links[n]? = some l) (h : l.Sound) :
    (b.event n .cancelled).1.registry = b.registry.letGo n := by
  obtain ⟨hend, -, hsilent⟩ := h.step_cancelled
  rw [event_of_link hl, Registry.hear, if_pos hend, hsilent]
  rfl

/-- The registry as it was, without the holders of some cells. -/
structure Frees (cs : List Nat) (r s : Registry Record) : Prop where
  entries : s.entries = r.entries
  length : s.channels.length = r.channels.length
  statusOf : ∀ n, s.statusOf n = r.statusOf n
  isHeld : ∀ n, s.isHeld n = if n ∈ cs then false else r.isHeld n

theorem frees_cancel {b : Board} (hb : ∀ (n : Nat) (l : Link), b.links[n]? = some l → l.Sound) {cs : List Nat}
    (hcs : ∀ n ∈ cs, ∃ l, b.links[n]? = some l) : Frees cs b.registry (b.cancel cs).1.registry := by
  induction cs generalizing b with
  | nil => exact ⟨rfl, rfl, fun _ => rfl, fun _ => rfl⟩
  | cons n cs ih =>
    obtain ⟨l, hl⟩ := hcs n List.mem_cons_self
    have hcs' : ∀ m ∈ cs, ∃ k, (b.event n .cancelled).1.links[m]? = some k := by
      intro m hm
      obtain ⟨k, hk⟩ := hcs m (List.mem_cons_of_mem n hm)
      rw [links_event, hk]
      split <;> exact ⟨_, rfl⟩
    have hrest := ih (links_sound_event hb n .cancelled) hcs'
    rw [registry_event_cancelled hl (hb n l hl)] at hrest
    refine ⟨hrest.entries, hrest.length.trans (Registry.length_onChannel ..), fun m => ?_, fun m => ?_⟩
    · rw [cancel, hrest.statusOf, Registry.statusOf_letGo]
    · rw [cancel, hrest.isHeld, Registry.isHeld_letGo]
      by_cases hnm : n = m <;> by_cases hm : m ∈ cs <;> simp [hnm, hm, eq_comm]

/-- What becomes of a board when references go back: the channels that leave the map are cancelled, and their links with
them. -/
structure Returns (b : Board) (op : Operation Record) (b' : Board) (done : List (Nat × LinkAction)) (cs : List Nat) :
    Prop where
  url : b'.url = b.url
  length : b'.links.length = b.links.length
  mem_iff : ∀ n, n ∈ cs ↔ b.registry.Listed n ∧ ¬ (b.registry.perform op).Listed n
  frees : Frees cs (b.registry.perform op) b'.registry
  links : ∀ n, b'.links[n]? = if n ∈ cs then (b.links[n]?).map fun l => (l.step .cancelled).1 else b.links[n]?
  doneBy : ∀ n, doneBy n done = if n ∈ cs then ((b.links[n]?).map fun l => (l.step .cancelled).2).getD [] else []

theorem listed_of_frees {cs : List Nat} {r s : Registry Record} (h : Frees cs r s) (n : Nat) : s.Listed n ↔ r.Listed n := by
  rw [Registry.Listed, h.entries, Registry.Listed]

namespace Sound

variable {url : Url} {b : Board}

theorem returns (h : Sound url b) {op : Operation Record} (hop : op.givesBack = true) (target : String → Target) :
    ∃ cs, Returns b op (b.adopt target (b.registry.perform op)).1 (b.adopt target (b.registry.perform op)).2 cs := by
  obtain ⟨cs, hcs⟩ := b.registry.journal_of_givesBack hop
  obtain ⟨hnodup, hmem⟩ := h.registry.cancelled_of_givesBack hop hcs
  have hlinked : ∀ n ∈ cs, ∃ l, b.links[n]? = some l := fun n hn =>
    h.exists_link (h.registry.lt_of_listed ((hmem n).1 hn).1)
  obtain ⟨hurl, hlength⟩ := cancel_frame { b with registry := b.registry.perform op } cs
  rw [adopt_eq_cancel hcs]
  exact ⟨cs, hurl, hlength, hmem, frees_cancel (b := { b with registry := b.registry.perform op }) h.links hlinked,
    links_cancel { b with registry := b.registry.perform op } hnodup,
    doneBy_cancel { b with registry := b.registry.perform op } hnodup⟩

theorem adopt (h : Sound url b) {op : Operation Record} (hop : op.givesBack = true) (target : String → Target) :
    Sound url (b.adopt target (b.registry.perform op)).1 := by
  obtain ⟨ops, hops⟩ := Follows.adopt b target op
  obtain ⟨cs, hreturns⟩ := h.returns hop target
  refine ⟨hreturns.url.trans h.url_eq, hops ▸ h.registry.performAll ops, ?_, fun m k hm => ?_, fun m k hm hgone => ?_⟩
  · rw [hreturns.length, h.numbered, hreturns.frees.length, b.registry.length_of_givesBack hop]
  · rw [hreturns.links] at hm
    split at hm
    case isTrue =>
      obtain ⟨l, hl, rfl⟩ := Option.map_eq_some_iff.1 hm
      exact (h.links m l hl).step .cancelled
    case isFalse => exact h.links m k hm
  · rw [listed_of_frees hreturns.frees] at hgone
    rw [hreturns.links] at hm
    rw [hreturns.frees.isHeld]
    split at hm
    case isTrue hmem =>
      obtain ⟨l, hl, rfl⟩ := Option.map_eq_some_iff.1 hm
      exact ⟨(h.links m l hl).step_cancelled.2.1, if_pos hmem⟩
    case isFalse hmem =>
      have hbefore : ¬ b.registry.Listed m := fun hl => hmem ((hreturns.mem_iff m).2 ⟨hl, hgone⟩)
      rw [if_neg hmem, Registry.isHeld_of_givesBack h.registry hop]
      exact h.givenUp m k hm hbefore

end Sound

/-! ### What a cell shows -/

/-- The link of a channel made of some events what a link makes of them that asks for `t`, and the cell shows what it
delivered last. -/
structure Relays (b : Board) (n : Nat) (t : Target) (es : List LinkEvent) : Prop where
  link : b.links[n]? = some ((Link.start b.url t).run es).1
  shows : b.registry.statusOf n = showing (delivered ((Link.start b.url t).run es).2)

namespace Relays

variable {url : Url} {b : Board} {n : Nat} {t : Target} {es : List LinkEvent}

theorem event (h : Relays b n t es) (hb : Sound url b) (hn : b.registry.Listed n) (e : LinkEvent) :
    Relays (b.event n e).1 n t (es ++ [e]) := by
  have hshows := hb.registry.statusOf_hear ((((Link.start b.url t).run es).1).step e) hn
  refine ⟨?_, ?_⟩
  · rw [links_event, if_pos rfl, h.link, event_of_link h.link, Link.run_concat]
    rfl
  · rw [event_of_link h.link, Link.delivered_run_concat, showing_append, ← h.shows]
    exact hshows

theorem event_ne (h : Relays b n t es) {m : Nat} (hne : m ≠ n) (e : LinkEvent) : Relays (b.event m e).1 n t es := by
  have hlink := b.links_event m n e
  rw [if_neg hne, h.link] at hlink
  cases hl : b.links[m]? with
  | none => rw [event_of_none hl]; exact h
  | some l =>
    rw [event_of_link hl] at hlink ⊢
    refine ⟨hlink, Eq.trans ?_ h.shows⟩
    rw [Registry.statusOf, Registry.channels_hear _ _ _ hne]
    rfl

theorem acquire (h : Relays b n t es) (hb : Sound url b) (key : String) (t' : Target) :
    Relays (b.acquire key t').1 n t es := by
  cases hk : b.registry.entry? key with
  | some e =>
    rw [acquire_of_present hk, Registry.acquire_of_present hk]
    exact ⟨h.link, h.shows⟩
  | none =>
    have hlt : n < b.links.length := (List.getElem?_eq_some_iff.1 h.link).1
    rw [acquire_of_absent hk, Registry.acquire_of_absent hk]
    refine ⟨?_, Eq.trans (Registry.statusOf_congr ?_) h.shows⟩
    · rw [getElem?_concat_of_ne (Nat.ne_of_lt hlt)]
      exact h.link
    · exact List.getElem?_append_left (hb.numbered ▸ hlt)

/-- A channel that is opened has a link of its own to which nothing has happened. -/
theorem opened (hb : Sound url b) {key : String} (hk : b.registry.entry? key = none) (t : Target) :
    Relays (b.acquire key t).1 b.registry.channels.length t [] := by
  rw [acquire_of_absent hk, Registry.acquire_of_absent hk]
  refine ⟨?_, Registry.statusOf_openFor_self ..⟩
  rw [← hb.numbered, List.getElem?_concat_length]
  rfl

theorem adopt (h : Relays b n t es) (hb : Sound url b) {op : Operation Record} (hop : op.givesBack = true)
    (target : String → Target) (hn : (b.adopt target (b.registry.perform op)).1.registry.Listed n) :
    Relays (b.adopt target (b.registry.perform op)).1 n t es := by
  obtain ⟨cs, hreturns⟩ := hb.returns hop target
  rw [listed_of_frees hreturns.frees] at hn
  have hnot : n ∉ cs := fun hmem => ((hreturns.mem_iff n).1 hmem).2 hn
  have hcell := Registry.statusOf_congr (hb.registry.channels_of_givesBack hop hn).2
  refine ⟨?_, ?_⟩
  · rw [hreturns.links, if_neg hnot, hreturns.url]
    exact h.link
  · rw [hreturns.frees.statusOf, hcell, hreturns.url]
    exact h.shows

end Relays

end Board

end FleetFeed.Feed
