import FleetFeed.Feed.Hub
import FleetFeed.Proofs.Feed.Excerpt

/-! The boards of a hub. Whatever happens at a board comes down to operations on its registry, which its links follow, and
nothing that happens at one topic touches the board of another. As of a registry, a part of what happens at a board can be
left out: the links of the channels that are kept go on as they were. -/
namespace FleetFeed.Feed

open Event

/-! ### Numbers of channels -/

namespace Registry

variable {ρ : Type}

theorem length_foldl_remove (r : Registry ρ) (es : List Entry) :
    (es.foldl remove r).channels.length = r.channels.length := by
  induction es generalizing r with
  | nil => rfl
  | cons e es ih => rw [List.foldl_cons, ih, remove_eq, List.length_modify]

/-- Only an acquire opens a channel. -/
theorem length_perform (r : Registry ρ) (op : Operation ρ) (hop : ∀ key o, op ≠ .acquire key o) :
    (r.perform op).channels.length = r.channels.length := by
  have hout := r.outcome_perform op
  generalize r.perform op = s at hout ⊢
  cases hout with
  | @joined key o | @opened key o => exact absurd rfl (hop key o)
  | missedGuard | missedKey => rfl
  | hit =>
    rw [dropRef_eq]
    split
    case isTrue => rw [remove_eq, List.length_modify]
    case isFalse => rfl
  | cleared => exact length_foldl_remove r r.entries
  | pushed c p =>
    cases hc : r.accepts c with
    | false => rw [push_of_refuses hc]
    | true => rw [push_of_accepts hc, List.length_modify]
  | letGo c => exact r.length_onChannel c _

theorem length_performAll {r : Registry ρ} {ops : List (Operation ρ)} (hops : ∀ key o, .acquire key o ∉ ops) :
    (r.performAll ops).channels.length = r.channels.length := by
  induction ops generalizing r with
  | nil => rfl
  | cons op ops ih =>
    rw [performAll_cons, ih fun key o hmem => hops key o (List.mem_cons_of_mem _ hmem)]
    exact r.length_perform op fun key o hop => hops key o (hop ▸ List.mem_cons_self)

/-- A reference that is given back cancels the channel of its entry, or nothing. -/
theorem journal_dropRef (r : Registry ρ) (e : Entry) :
    ∃ cs : List Nat, (r.dropRef e).journal = r.journal ++ cs.map .cancelled := by
  rw [dropRef_eq]
  split
  case isTrue => exact ⟨[e.channel], journal_remove r e⟩
  case isFalse => exact ⟨[], (List.append_nil _).symm⟩

theorem journal_giveBack (r : Registry ρ) (g : Guard) :
    ∃ cs : List Nat, (r.giveBack g).journal = r.journal ++ cs.map .cancelled := by
  unfold giveBack
  cases r.entry? g.key with
  | none => exact ⟨[], (List.append_nil _).symm⟩
  | some e =>
    dsimp only
    split
    case isTrue => exact r.journal_dropRef e
    case isFalse => exact ⟨[], (List.append_nil _).symm⟩

theorem journal_release (r : Registry ρ) (key : String) :
    ∃ cs : List Nat, (r.release key).1.journal = r.journal ++ cs.map .cancelled := by
  unfold release
  cases r.entry? key with
  | none => exact ⟨[], (List.append_nil _).symm⟩
  | some e => exact r.journal_dropRef e

theorem journal_clearAll (r : Registry ρ) :
    r.clearAll.journal = r.journal ++ (r.entries.map Entry.channel).map .cancelled := by
  rw [clearAll, journal_foldl_remove, List.map_map]
  rfl

end Registry

/-! ### Events -/

/-- What an action of the link of a channel does to the registry. -/
def LinkAction.operation? (channel : Nat) : LinkAction → Option (Operation Record)
  | .deliver p => some (.push channel p)
  | .send _ | .close => none

namespace Board

theorem foldl_receive (r : Registry Record) (n : Nat) (done : List LinkAction) :
    done.foldl (receive · n) r = r.performAll (done.filterMap (LinkAction.operation? n)) := by
  induction done generalizing r with
  | nil => rfl
  | cons x done ih => cases x <;> exact ih _

/-- What an event at the link of a channel does to the registry. -/
def operations (b : Board) (n : Nat) (e : LinkEvent) : List (Operation Record) := match b.links[n]? with
  | some l => (l.step e).2.filterMap (LinkAction.operation? n) ++ if (l.step e).1.stage = .ended then [.letGo n] else []
  | none => []

theorem registry_event (b : Board) (n : Nat) (e : LinkEvent) :
    (b.event n e).1.registry = b.registry.performAll (b.operations n e) := by
  unfold event operations
  cases b.links[n]? with
  | none => rfl
  | some l =>
    dsimp only
    rw [Registry.performAll_append, foldl_receive]
    split <;> rfl

theorem mem_operations {b : Board} {n : Nat} {e : LinkEvent} {op : Operation Record} (h : op ∈ b.operations n e) :
    (∃ p, op = .push n p) ∨ op = .letGo n := by
  unfold operations at h
  cases hl : b.links[n]? with
  | none => rw [hl] at h; exact absurd h List.not_mem_nil
  | some l =>
    rw [hl] at h
    rcases List.mem_append.1 h with h | h
    · obtain ⟨x, -, hx⟩ := List.mem_filterMap.1 h
      cases x with
      | deliver p => exact .inl ⟨p, (Option.some.inj hx).symm⟩
      | send f | close => exact absurd hx (by simp [LinkAction.operation?])
    · split at h
      · exact .inr (List.mem_singleton.1 h)
      · exact absurd h List.not_mem_nil

theorem length_event (b : Board) (n : Nat) (e : LinkEvent) :
    (b.event n e).1.registry.channels.length = b.registry.channels.length := by
  rw [registry_event]
  refine Registry.length_performAll fun key o hmem => ?_
  rcases mem_operations hmem with ⟨p, hop⟩ | hop <;> exact absurd hop (by simp)

/-! ### The links follow the journal -/

theorem adopt_eq (b : Board) (target : String → Target) (r : Registry Record) :
    (b.adopt target r).1 = (r.journal.drop b.registry.journal.length).foldl (fun b x => (b.happen target x).1)
      { b with registry := r } := by
  have hall : ∀ (xs : List Happening) (b : Board) (done : List (Nat × LinkAction)),
      (xs.foldl (fun p x => ((p.1.happen target x).1, p.2 ++ (p.1.happen target x).2)) (b, done)).1 =
        xs.foldl (fun b x => (b.happen target x).1) b := by
    intro xs
    induction xs with
    | nil => exact fun _ _ => rfl
    | cons x xs ih => exact fun b done => ih (b.happen target x).1 _
  exact hall ..

theorem adopt_of_journal {b : Board} {r : Registry Record} {more : List Happening}
    (hjournal : r.journal = b.registry.journal ++ more) (target : String → Target) :
    (b.adopt target r).1 = more.foldl (fun b x => (b.happen target x).1) { b with registry := r } := by
  rw [adopt_eq, hjournal, List.drop_left]

/-- A key that is there already takes one reference more. -/
theorem acquire_of_present {b : Board} {key : String} {e : Entry} (h : b.registry.entry? key = some e) (t : Target) :
    (b.acquire key t).1 = { b with registry := (b.registry.acquire key quiet).1 } := by
  have hjournal : (b.registry.acquire key quiet).1.journal = b.registry.journal ++ [] := by
    rw [Registry.acquire_of_present h, List.append_nil]
    rfl
  exact adopt_of_journal hjournal _

/-- A key that is not there gets a link of its own. -/
theorem acquire_of_absent {b : Board} {key : String} (h : b.registry.entry? key = none) (t : Target) :
    (b.acquire key t).1 =
      { b with registry := (b.registry.acquire key quiet).1, links := b.links ++ [Link.start b.url t] } := by
  have hjournal : (b.registry.acquire key quiet).1.journal = b.registry.journal ++ [.opened b.registry.channels.length] := by
    rw [Registry.acquire_of_absent h]
    rfl
  exact adopt_of_journal hjournal _

theorem adopt_self (b : Board) (target : String → Target) : (b.adopt target b.registry).1 = b :=
  adopt_of_journal (List.append_nil _).symm target

/-- Where channels are cancelled, their links are. -/
theorem adopt_of_cancelled {b : Board} {r : Registry Record} {cs : List Nat}
    (hjournal : r.journal = b.registry.journal ++ cs.map .cancelled) (target : String → Target) :
    (b.adopt target r).1 = cs.foldl (fun b n => (b.event n .cancelled).1) { b with registry := r } := by
  rw [adopt_of_journal hjournal, List.foldl_map]
  rfl

/-! ### A part of what happens -/

/-- The second board has the channels that are kept of the first, and their links. -/
structure Excerpt (K : String → Bool) (kept : Nat → Bool) (b b' : Board) : Prop where
  url : b'.url = b.url
  registry : Registry.Excerpt K kept b.registry b'.registry
  links : Selects kept id b.links b'.links
  numbered : b.links.length = b.registry.channels.length

namespace Excerpt

variable {K : String → Bool} {kept : Nat → Bool} {b b' : Board}

theorem link_eq (h : Excerpt K kept b b') {n : Nat} (hn : kept n = true) : b'.links[rank kept n]? = b.links[n]? := by
  rw [h.links.getElem?_eq n hn, Option.map_id_fun, id]

theorem operations_narrow (h : Excerpt K kept b b') (n : Nat) (e : LinkEvent) :
    (b.operations n e).filterMap (Operation.narrow K kept) =
      if kept n then b'.operations (rank kept n) e else [] := by
  cases hn : kept n with
  | false =>
    rw [if_neg Bool.false_ne_true, List.filterMap_eq_nil_iff]
    intro op hop
    rcases mem_operations hop with ⟨p, rfl⟩ | rfl <;> simp [Operation.narrow, hn]
  | true =>
    have haction : ∀ x, (LinkAction.operation? n x).bind (Operation.narrow K kept) =
        LinkAction.operation? (rank kept n) x := by
      intro x
      cases x <;> simp [LinkAction.operation?, Operation.narrow, hn]
    unfold operations
    rw [if_pos rfl, h.link_eq hn]
    cases b.links[n]? with
    | none => rfl
    | some l =>
      dsimp only
      rw [List.filterMap_append, List.filterMap_filterMap]
      simp only [haction]
      split <;> simp [Operation.narrow, hn]

/-- An event at a link that is kept happens at both, any other at the first alone. -/
theorem event (h : Excerpt K kept b b') (n : Nat) (e : LinkEvent) :
    Excerpt K kept (b.event n e).1 (if kept n then (b'.event (rank kept n) e).1 else b') := by
  have hfits : ∀ d ∈ b.registry.trail (b.operations n e), d.Fits K kept := by
    intro d hd
    have hmem := mem_operations (Registry.operation_mem_of_trail hd)
    constructor
    · intro key o hop
      rcases hmem with ⟨p, hpush⟩ | hletGo
      · exact absurd (hop.symm.trans hpush) (by simp)
      · exact absurd (hop.symm.trans hletGo) (by simp)
    · intro g hop
      rcases hmem with ⟨p, hpush⟩ | hletGo
      · exact absurd (hop.symm.trans hpush) (by simp)
      · exact absurd (hop.symm.trans hletGo) (by simp)
  have hregistry := h.registry.performAll hfits
  have hlength := b.length_event n e
  rw [h.operations_narrow, ← registry_event] at hregistry
  cases hn : kept n with
  | false =>
    rw [hn] at hregistry
    rw [if_neg Bool.false_ne_true]
    unfold Board.event at hregistry hlength ⊢
    cases hl : b.links[n]? with
    | none => exact h
    | some l =>
      rw [hl] at hregistry hlength
      exact ⟨h.url, hregistry, h.links.set_omitted hn _, (List.length_set ..).trans (h.numbered.trans hlength.symm)⟩
  | true =>
    rw [hn, if_pos rfl, ← registry_event] at hregistry
    rw [if_pos rfl]
    unfold Board.event at hregistry hlength ⊢
    rw [h.link_eq hn] at hregistry ⊢
    cases hl : b.links[n]? with
    | none => exact h
    | some l =>
      rw [hl] at hregistry hlength
      exact ⟨h.url, hregistry, h.links.set_kept hn _, (List.length_set ..).trans (h.numbered.trans hlength.symm)⟩

/-- Channels that are cancelled take their links with them, on both boards or on the first alone. -/
theorem adopt_cancelled (h : Excerpt K kept b b') {r s : Registry Record} (hr : Registry.Excerpt K kept r s)
    (hlength : r.channels.length = b.registry.channels.length) {cs : List Nat}
    (hjournal : r.journal = b.registry.journal ++ cs.map .cancelled) (target : String → Target) :
    Excerpt K kept (b.adopt target r).1 (b'.adopt target s).1 := by
  have hjournal' : s.journal = b'.registry.journal ++ ((cs.filter kept).map (rank kept)).map .cancelled := by
    rw [hr.journal, hjournal, List.filter_append, List.map_append, ← h.registry.journal, List.filter_map, List.map_map,
      List.map_map]
    rfl
  have hall : ∀ (cs : List Nat) (b b' : Board), Excerpt K kept b b' →
      Excerpt K kept (cs.foldl (fun b n => (b.event n .cancelled).1) b)
        (((cs.filter kept).map (rank kept)).foldl (fun b n => (b.event n .cancelled).1) b') := by
    intro cs
    induction cs with
    | nil => exact fun _ _ h => h
    | cons n cs ih =>
      intro b b' h
      have hnext := ih _ _ (h.event n .cancelled)
      cases hn : kept n with
      | true => rw [List.filter_cons_of_pos hn]; simpa [hn] using hnext
      | false => rw [List.filter_cons_of_neg (by simp [hn])]; simpa [hn] using hnext
  rw [adopt_of_cancelled hjournal, adopt_of_cancelled hjournal']
  exact hall cs _ _ ⟨h.url, hr, h.links, h.numbered.trans hlength.symm⟩

theorem giveBack (h : Excerpt K kept b b') (c : Topic) {g : Guard}
    (hg : kept g.receiver.channel = true → K g.key = true) :
    Excerpt K kept (b.giveBack c g).1
      (if kept g.receiver.channel then (b'.giveBack c (g.renumber kept)).1 else b') := by
  have hr := h.registry.giveBack hg
  obtain ⟨cs, hcs⟩ := b.registry.journal_giveBack g
  have hlength : (b.registry.giveBack g).channels.length = b.registry.channels.length :=
    b.registry.length_perform (.giveBack g) (by simp)
  have hnext := h.adopt_cancelled hr hlength hcs (.one c)
  cases hc : kept g.receiver.channel with
  | true =>
    rw [hc] at hnext
    exact hnext
  | false =>
    rw [hc, if_neg Bool.false_ne_true, adopt_self] at hnext
    exact hnext

theorem release (h : Excerpt K kept b b') (c : Topic) (key : String) :
    Excerpt K kept (b.release c key).1 (if K key then (b'.release c key).1 else b') := by
  have hr := h.registry.release key
  obtain ⟨cs, hcs⟩ := b.registry.journal_release key
  have hlength : (b.registry.release key).1.channels.length = b.registry.channels.length :=
    b.registry.length_perform (.release key) (by simp)
  have hnext := h.adopt_cancelled hr hlength hcs (.one c)
  cases hK : K key with
  | true =>
    rw [hK] at hnext
    exact hnext
  | false =>
    rw [hK, if_neg Bool.false_ne_true, adopt_self] at hnext
    exact hnext

theorem clearAll (h : Excerpt K kept b b') (c : Topic) : Excerpt K kept (b.clearAll c).1 (b'.clearAll c).1 :=
  h.adopt_cancelled h.registry.clearAll (Registry.length_foldl_remove ..) b.registry.journal_clearAll _

theorem acquire (h : Excerpt K kept b b') {key : String} (t : Target)
    (hop : b.registry.entry? key = none → kept b.registry.channels.length = K key) :
    Excerpt K kept (b.acquire key t).1 (if K key then (b'.acquire key t).1 else b') := by
  have hr := h.registry.acquire quiet hop
  cases hk : b.registry.entry? key with
  | some e =>
    have hlength : (b.registry.acquire key quiet).1.channels.length = b.registry.channels.length := by
      rw [Registry.acquire_of_present hk]
      rfl
    rw [acquire_of_present hk]
    cases hK : K key with
    | true =>
      have hk' : b'.registry.entry? key = some (e.renumber kept) := by rw [h.registry.entry?_eq hK, hk, Option.map_some]
      rw [hK] at hr
      rw [if_pos rfl, acquire_of_present hk']
      exact ⟨h.url, hr, h.links, h.numbered.trans hlength.symm⟩
    | false =>
      rw [hK] at hr
      exact ⟨h.url, hr, h.links, h.numbered.trans hlength.symm⟩
  | none =>
    have hnumbered : (b.links ++ [Link.start b.url t]).length = (b.registry.acquire key quiet).1.channels.length := by
      rw [Registry.acquire_of_absent hk]
      simp [Registry.openFor, h.numbered]
    have hfresh : kept b.links.length = K key := by rw [h.numbered, hop hk]
    rw [acquire_of_absent hk]
    cases hK : K key with
    | true =>
      have hk' : b'.registry.entry? key = none := by rw [h.registry.entry?_eq hK, hk, Option.map_none]
      rw [hK] at hr
      rw [if_pos rfl, acquire_of_absent hk', h.url]
      exact ⟨rfl, hr, h.links.concat_kept (hfresh.trans hK) _, hnumbered⟩
    | false =>
      rw [hK] at hr
      exact ⟨h.url, hr, h.links.concat_omitted (hfresh.trans hK) _, hnumbered⟩

end Excerpt

/-! ### A board only goes on -/

/-- The registry of a board went on by operations, and so no channel lost its key. -/
def Follows (b b₁ : Board) : Prop := ∃ ops, b₁.registry = b.registry.performAll ops

namespace Follows

theorem refl (b : Board) : b.Follows b := ⟨[], rfl⟩

theorem trans {b b₁ b₂ : Board} (h : b.Follows b₁) (h' : b₁.Follows b₂) : b.Follows b₂ := by
  obtain ⟨xs, hxs⟩ := h
  obtain ⟨ys, hys⟩ := h'
  exact ⟨xs ++ ys, by rw [hys, hxs, Registry.performAll_append]⟩

theorem event (b : Board) (n : Nat) (e : LinkEvent) : b.Follows (b.event n e).1 := ⟨_, b.registry_event n e⟩

theorem adopt (b : Board) (target : String → Target) (op : Operation Record) :
    b.Follows (b.adopt target (b.registry.perform op)).1 := by
  have hall : ∀ (xs : List Happening) (b : Board), b.Follows (xs.foldl (fun b x => (b.happen target x).1) b) := by
    intro xs
    induction xs with
    | nil => exact refl
    | cons x xs ih =>
      intro b
      refine trans ?_ (ih (b.happen target x).1)
      cases x with
      | opened n => exact refl b
      | cancelled n => exact event b n .cancelled
  rw [adopt_eq]
  have hperform : b.Follows { b with registry := b.registry.perform op } := ⟨[op], rfl⟩
  exact hperform.trans (hall _ _)

theorem keyOf? {b b₁ : Board} (h : b.Follows b₁) {n : Nat} {key : String} (hn : b.registry.keyOf? n = some key) :
    b₁.registry.keyOf? n = some key := by
  obtain ⟨ops, hops⟩ := h
  rw [hops]
  exact Registry.keyOf?_performAll hn ops

theorem journal {b b₁ : Board} (h : b.Follows b₁) : b.registry.journal <+: b₁.registry.journal := by
  obtain ⟨ops, hops⟩ := h
  rw [hops]
  exact Registry.performAll_induction (P := fun r => b.registry.journal <+: r.journal) (List.prefix_refl _)
    (fun r op hr => hr.trans (r.journal_grows op)) ops

end Follows

end Board

/-! ### Topics -/

theorem topic_keyed {t t' : Target} {key : String} (h : keyed t = some (t', key)) : t'.topic = t.topic := by
  cases t with
  | one c k =>
    cases c <;> simp only [keyed, reduceCtorEq, Option.some.injEq, Prod.mk.injEq] at h <;> (rw [← h.1])
  | containers ids =>
    simp only [keyed] at h
    split at h
    · exact absurd h (by simp)
    · obtain ⟨rfl, -⟩ : Target.containers _ = t' ∧ _ := by simpa using h
      rfl

namespace Hub

theorem boards_withBoard (h : Hub) (c d : Topic) (b : Board) :
    (h.withBoard d b).boards c = if c = d then b else h.boards c := rfl

@[simp] theorem boards_withBoard_self (h : Hub) (c : Topic) (b : Board) : (h.withBoard c b).boards c = b := if_pos rfl

theorem boards_withBoard_of_ne (h : Hub) {c d : Topic} (hne : d ≠ c) (b : Board) :
    (h.withBoard d b).boards c = h.boards c := if_neg (Ne.symm hne)

theorem acquire_of_keyed (h : Hub) {t t' : Target} {key : String} (hk : keyed t = some (t', key)) :
    h.acquire t = (h.withBoard t'.topic ((h.boards t'.topic).acquire key t').1,
      some ((h.registry t'.topic).acquire key Board.quiet).2) := by
  rw [acquire, hk]
  rfl

theorem acquire_of_unkeyed (h : Hub) {t : Target} (hk : keyed t = none) : h.acquire t = (h, none) := by rw [acquire, hk]

/-- A clearing of the hub clears each board. -/
theorem boards_clearAll (h : Hub) (c : Topic) : h.clearAll.1.boards c = ((h.boards c).clearAll c).1 := by
  cases c <;> rfl

end Hub

end FleetFeed.Feed
