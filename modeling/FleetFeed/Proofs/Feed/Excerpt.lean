import FleetFeed.Proofs.Feed.Lifecycle
import FleetFeed.Proofs.Feed.Selection
import Mathlib.Data.List.Find

/-! A registry that has lived through a part of what happened to another. Some channels of the one are kept in the other,
under numbers of its own, and with them the entries that name them and what the journal says of them. An operation that
concerns what is kept is done to both, any other to the first alone, and the second goes on being an excerpt of it. -/
namespace FleetFeed.Feed

variable {ρ : Type}

/-! ### New numbers -/

section Renumber

variable (kept : Nat → Bool)

def Entry.renumber (e : Entry) : Entry := { e with channel := rank kept e.channel }

def Happening.channel : Happening → Nat
  | .opened c | .cancelled c => c

def Happening.renumber : Happening → Happening
  | .opened c => .opened (rank kept c)
  | .cancelled c => .cancelled (rank kept c)

def Receiver.renumber (x : Receiver) : Receiver := { x with channel := rank kept x.channel }

def Guard.renumber (g : Guard) : Guard := { g with receiver := g.receiver.renumber kept }

end Renumber

def Updates.renumber (kept : Nat → Bool) (u : Updates) : Updates := { u with receiver := u.receiver.renumber kept }

/-- The part of an operation that concerns the keys of `K` and the channels that are kept. -/
def Operation.narrow (K : String → Bool) (kept : Nat → Bool) : Operation ρ → Option (Operation ρ)
  | .acquire key o => if K key then some (.acquire key o) else none
  | .giveBack g => if kept g.receiver.channel then some (.giveBack (g.renumber kept)) else none
  | .release key => if K key then some (.release key) else none
  | .clearAll => some .clearAll
  | .push c p => if kept c then some (.push (rank kept c) p) else none
  | .letGo c => if kept c then some (.letGo (rank kept c)) else none

namespace Registry

/-- Both show the same of a key. -/
structure SameFor (key : String) (r s : Registry ρ) : Prop where
  contains : s.contains key = r.contains key
  refCount : s.refCount key = r.refCount key
  status? : s.status? key = r.status? key
  peek : s.peek key = r.peek key

/-- The second registry shows of a channel, under its number there, what the first shows of it. -/
structure Mirrors (kept : Nat → Bool) (r s : Registry ρ) (c : Nat) : Prop where
  statusOf : s.statusOf (rank kept c) = r.statusOf c
  isLive : s.isLive (rank kept c) = r.isLive c
  poll : ∀ seen, (Receiver.poll ⟨rank kept c, seen⟩ s).2 = (Receiver.poll ⟨c, seen⟩ r).2
  opened : s.journal.count (.opened (rank kept c)) = r.journal.count (.opened c)
  cancelled : s.journal.count (.cancelled (rank kept c)) = r.journal.count (.cancelled c)

/-- The second registry is what is kept of the first. An entry is kept exactly if its key is one of `K`. -/
structure Excerpt (K : String → Bool) (kept : Nat → Bool) (r s : Registry ρ) : Prop where
  channels : Selects kept id r.channels s.channels
  entries : s.entries = (r.entries.filter (kept ·.channel)).map (Entry.renumber kept)
  journal : s.journal = (r.journal.filter (kept ·.channel)).map (Happening.renumber kept)
  kept_eq : ∀ e ∈ r.entries, kept e.channel = K e.key

theorem filter_recount (r : Registry ρ) (key : String) (f : Nat → Nat) (kept : Nat → Bool) :
    (r.recount key f).entries.filter (kept ·.channel) =
      (r.entries.filter (kept ·.channel)).map fun e => if e.key = key then { e with refs := f e.refs } else e := by
  rw [recount, List.filter_map]
  congr 2
  funext e
  simp only [Function.comp_apply]
  split <;> rfl

namespace Excerpt

variable {K : String → Bool} {kept : Nat → Bool} {r s : Registry ρ}

theorem refl_empty : Excerpt K kept (empty : Registry ρ) empty where
  channels := .nil
  entries := rfl
  journal := rfl
  kept_eq _ he := absurd he List.not_mem_nil

/-! ### What is seen of a channel -/

section Views

variable (h : Excerpt K kept r s) {c : Nat} (hc : kept c = true)
include h hc

theorem channel_eq : s.channels[rank kept c]? = r.channels[c]? := by
  rw [h.channels.getElem?_eq c hc, Option.map_id_fun, id]

theorem statusOf_eq : s.statusOf (rank kept c) = r.statusOf c := by rw [statusOf, h.channel_eq hc, statusOf]

theorem versionOf_eq : s.versionOf (rank kept c) = r.versionOf c := by rw [versionOf, h.channel_eq hc, versionOf]

theorem isLive_eq : s.isLive (rank kept c) = r.isLive c := by rw [isLive, h.channel_eq hc, isLive]

theorem accepts_rank : s.accepts (rank kept c) = r.accepts c := by
  rw [accepts_eq, h.channel_eq hc, accepts_eq]

theorem any_channel_eq : s.entries.any (·.channel = rank kept c) = r.entries.any (·.channel = c) := by
  rw [h.entries, List.any_map, List.any_filter]
  congr 1
  funext e
  cases he : kept e.channel with
  | true => simp [Entry.renumber, rank_inj he hc]
  | false =>
    have hne : e.channel ≠ c := fun heq => by simp [heq, hc] at he
    simp [hne]

theorem isGone_eq : s.isGone (rank kept c) = r.isGone c := by
  rw [isGone, h.channel_eq hc, h.any_channel_eq hc, isGone]

theorem count_opened : s.journal.count (.opened (rank kept c)) = r.journal.count (.opened c) := by
  rw [h.journal, List.count, List.countP_map, List.countP_filter]
  refine List.countP_congr fun x _ => ?_
  cases x with
  | opened d =>
    cases hd : kept d with
    | true => simp [Happening.renumber, Happening.channel, hd, rank_inj hd hc]
    | false =>
      have hne : d ≠ c := fun heq => by simp [heq, hc] at hd
      simp [Happening.channel, hd, hne]
  | cancelled d => simp [Happening.renumber]

theorem count_cancelled : s.journal.count (.cancelled (rank kept c)) = r.journal.count (.cancelled c) := by
  rw [h.journal, List.count, List.countP_map, List.countP_filter]
  refine List.countP_congr fun x _ => ?_
  cases x with
  | opened d => simp [Happening.renumber]
  | cancelled d =>
    cases hd : kept d with
    | true => simp [Happening.renumber, Happening.channel, hd, rank_inj hd hc]
    | false =>
      have hne : d ≠ c := fun heq => by simp [heq, hc] at hd
      simp [Happening.channel, hd, hne]

end Views

/-! ### What is seen of a key -/

section Keys

variable (h : Excerpt K kept r s) {key : String} (hK : K key = true)
include h hK

theorem kept_of_entry? {e : Entry} (he : r.entry? key = some e) : kept e.channel = true := by
  obtain ⟨hmem, rfl⟩ := entry?_spec he
  rw [h.kept_eq e hmem, hK]

theorem entry?_eq : s.entry? key = (r.entry? key).map (Entry.renumber kept) := by
  unfold entry?
  rw [h.entries, List.find?_map, List.find?_filter]
  congr 1
  refine List.find?_congr fun e he => ?_
  have hkept := h.kept_eq e he
  by_cases hkey : e.key = key
  · simp [Entry.renumber, hkey, hkept, hK]
  · simp [Entry.renumber, hkey]

theorem contains_eq : s.contains key = r.contains key := by
  rw [contains, h.entry?_eq hK, Option.isSome_map, contains]

theorem refCount_eq : s.refCount key = r.refCount key := by
  rw [refCount, h.entry?_eq hK, Option.map_map]
  rfl

theorem status?_eq : s.status? key = r.status? key := by
  rw [status?, h.entry?_eq hK, Option.map_map]
  exact Option.map_congr fun e he => h.statusOf_eq (h.kept_of_entry? hK he)

theorem peek_eq : s.peek key = r.peek key := by rw [peek, h.status?_eq hK, peek]

theorem sameFor : SameFor key r s := ⟨h.contains_eq hK, h.refCount_eq hK, h.status?_eq hK, h.peek_eq hK⟩

end Keys

/-! ### Operations on what is kept -/

section Kept

variable (h : Excerpt K kept r s)
include h

theorem recount (key : String) (f : Nat → Nat) : Excerpt K kept (r.recount key f) (s.recount key f) where
  channels := h.channels
  entries := by
    rw [filter_recount, Registry.recount, h.entries, List.map_map, List.map_map]
    refine List.map_congr_left fun e _ => ?_
    by_cases hkey : e.key = key <;> simp [Entry.renumber, hkey]
  journal := h.journal
  kept_eq e he := by
    obtain ⟨e₀, h₀, hk, hc, -⟩ := mem_recount he
    rw [hk, hc]
    exact h.kept_eq e₀ h₀

theorem openFor {key : String} (hkept : kept r.channels.length = true) (hK : K key = true) (o : Opening ρ) :
    Excerpt K kept (r.openFor key o) (s.openFor key o) where
  channels := h.channels.concat_kept hkept _
  entries := by
    simp [Registry.openFor, h.entries, hkept, Entry.renumber, h.channels.length_eq]
  journal := by
    simp [Registry.openFor, h.journal, hkept, Happening.renumber, Happening.channel, h.channels.length_eq]
  kept_eq e he := by
    rcases List.mem_append.1 he with he | he
    · exact h.kept_eq e he
    · obtain rfl := List.mem_singleton.1 he
      exact hkept.trans hK.symm

theorem remove {e : Entry} (hkept : kept e.channel = true) :
    Excerpt K kept (r.remove e) (s.remove (e.renumber kept)) where
  channels := by
    rw [remove_eq, remove_eq]
    exact h.channels.modify_kept hkept fun _ => rfl
  entries := by
    simp only [remove_eq, h.entries, List.filter_map, List.filter_filter]
    congr 1
    refine List.filter_congr fun f _ => ?_
    by_cases hkey : f.key = e.key <;> simp [Entry.renumber, hkey]
  journal := by
    simp [remove_eq, h.journal, hkept, Happening.renumber, Happening.channel, Entry.renumber]
  kept_eq f hf := h.kept_eq f (mem_remove.1 hf).1

theorem dropRef {e : Entry} (hkept : kept e.channel = true) :
    Excerpt K kept (r.dropRef e) (s.dropRef (e.renumber kept)) := by
  rw [dropRef_eq, dropRef_eq]
  change Excerpt K kept _ (if e.refs ≤ 1 then s.remove (e.renumber kept) else s.recount e.key (· - 1))
  split
  case isTrue => exact h.remove hkept
  case isFalse => exact h.recount e.key _

theorem push {c : Nat} (hkept : kept c = true) (p : Push ρ) : Excerpt K kept (r.push c p) (s.push (rank kept c) p) := by
  have haccepts := h.accepts_rank hkept
  cases hc : r.accepts c with
  | false =>
    rw [push_of_refuses hc, push_of_refuses (haccepts.trans hc)]
    exact ⟨h.channels, h.entries, h.journal, h.kept_eq⟩
  | true =>
    rw [push_of_accepts hc, push_of_accepts (haccepts.trans hc)]
    exact ⟨h.channels.modify_kept hkept fun _ => rfl, h.entries, h.journal, h.kept_eq⟩

theorem letGo {c : Nat} (hkept : kept c = true) : Excerpt K kept (r.letGo c) (s.letGo (rank kept c)) :=
  ⟨h.channels.modify_kept hkept fun _ => rfl, h.entries, h.journal, h.kept_eq⟩

end Kept

/-! ### Operations on the rest -/

section Omitted

variable (h : Excerpt K kept r s)
include h

theorem recount_omitted {key : String} (hK : K key = false) (f : Nat → Nat) :
    Excerpt K kept (r.recount key f) s where
  channels := h.channels
  entries := by
    rw [filter_recount, h.entries]
    refine congrArg (List.map _) ((List.map_congr_left fun e he => ?_).trans (List.map_id _)).symm
    obtain ⟨hmem, hkept⟩ := List.mem_filter.1 he
    have hne : e.key ≠ key := fun heq => by simp [h.kept_eq e hmem, heq, hK] at hkept
    exact if_neg hne
  journal := h.journal
  kept_eq e he := by
    obtain ⟨e₀, h₀, hk, hc, -⟩ := mem_recount he
    rw [hk, hc]
    exact h.kept_eq e₀ h₀

theorem openFor_omitted {key : String} (hkept : kept r.channels.length = false) (hK : K key = false) (o : Opening ρ) :
    Excerpt K kept (r.openFor key o) s where
  channels := h.channels.concat_omitted hkept _
  entries := by simp [Registry.openFor, h.entries, hkept]
  journal := by simp [Registry.openFor, h.journal, hkept, Happening.channel]
  kept_eq e he := by
    rcases List.mem_append.1 he with he | he
    · exact h.kept_eq e he
    · obtain rfl := List.mem_singleton.1 he
      exact hkept.trans hK.symm

theorem remove_omitted {e : Entry} (hkept : kept e.channel = false) (hK : K e.key = false) :
    Excerpt K kept (r.remove e) s where
  channels := by
    rw [remove_eq]
    exact h.channels.modify_omitted hkept _
  entries := by
    rw [remove_eq, h.entries, List.filter_filter]
    congr 1
    refine List.filter_congr fun f hf => ?_
    by_cases hkey : f.key = e.key
    · simp [h.kept_eq f hf, hkey, hK]
    · simp [hkey]
  journal := by simp [remove_eq, h.journal, hkept, Happening.channel]
  kept_eq f hf := h.kept_eq f (mem_remove.1 hf).1

theorem dropRef_omitted {e : Entry} (hkept : kept e.channel = false) (hK : K e.key = false) :
    Excerpt K kept (r.dropRef e) s := by
  rw [dropRef_eq]
  split
  case isTrue => exact h.remove_omitted hkept hK
  case isFalse => exact h.recount_omitted hK _

theorem push_omitted {c : Nat} (hkept : kept c = false) (p : Push ρ) : Excerpt K kept (r.push c p) s := by
  cases hc : r.accepts c with
  | false =>
    rw [push_of_refuses hc]
    exact ⟨h.channels, h.entries, h.journal, h.kept_eq⟩
  | true =>
    rw [push_of_accepts hc]
    exact ⟨h.channels.modify_omitted hkept _, h.entries, h.journal, h.kept_eq⟩

theorem letGo_omitted {c : Nat} (hkept : kept c = false) : Excerpt K kept (r.letGo c) s :=
  ⟨h.channels.modify_omitted hkept _, h.entries, h.journal, h.kept_eq⟩

end Omitted

/-! ### Any operation -/

theorem foldl_remove (h : Excerpt K kept r s) {es : List Entry} (hes : ∀ e ∈ es, kept e.channel = K e.key) :
    Excerpt K kept (es.foldl Registry.remove r)
      (((es.filter (kept ·.channel)).map (Entry.renumber kept)).foldl Registry.remove s) := by
  induction es generalizing r s with
  | nil => exact h
  | cons e es ih =>
    have hrest : ∀ f ∈ es, kept f.channel = K f.key := fun f hf => hes f (List.mem_cons_of_mem _ hf)
    have hkept := hes e List.mem_cons_self
    cases hc : kept e.channel with
    | true =>
      rw [List.filter_cons_of_pos (by simpa using hc)]
      exact ih (h.remove hc) hrest
    | false =>
      rw [List.filter_cons_of_neg (by simp [hc])]
      exact ih (h.remove_omitted hc (hkept.symm.trans hc)) hrest

theorem clearAll (h : Excerpt K kept r s) : Excerpt K kept r.clearAll s.clearAll := by
  rw [Registry.clearAll, Registry.clearAll, h.entries]
  exact h.foldl_remove h.kept_eq

theorem acquire (h : Excerpt K kept r s) {key : String} (o : Opening ρ)
    (hop : r.entry? key = none → kept r.channels.length = K key) :
    Excerpt K kept (r.acquire key o).1 (if K key then (s.acquire key o).1 else s) := by
  cases hK : K key with
  | true =>
    rw [if_pos rfl]
    cases hk : r.entry? key with
    | some e =>
      have hk' : s.entry? key = some (e.renumber kept) := by rw [h.entry?_eq hK, hk, Option.map_some]
      rw [acquire_of_present hk, acquire_of_present hk']
      exact h.recount key _
    | none =>
      have hk' : s.entry? key = none := by rw [h.entry?_eq hK, hk, Option.map_none]
      rw [acquire_of_absent hk, acquire_of_absent hk']
      exact h.openFor ((hop hk).trans hK) hK o
  | false =>
    rw [if_neg Bool.false_ne_true]
    cases hk : r.entry? key with
    | some e =>
      rw [acquire_of_present hk]
      exact h.recount_omitted hK _
    | none =>
      rw [acquire_of_absent hk]
      exact h.openFor_omitted ((hop hk).trans hK) hK o

theorem giveBack (h : Excerpt K kept r s) {g : Guard} (hg : kept g.receiver.channel = true → K g.key = true) :
    Excerpt K kept (r.giveBack g) (if kept g.receiver.channel then s.giveBack (g.renumber kept) else s) := by
  cases hc : kept g.receiver.channel with
  | true =>
    have hK := hg hc
    have hs : s.entry? (g.renumber kept).key = (r.entry? g.key).map (Entry.renumber kept) := h.entry?_eq hK
    rw [if_pos rfl, Registry.giveBack, Registry.giveBack, hs]
    cases hk : r.entry? g.key with
    | none => exact h
    | some e =>
      have he := h.kept_of_entry? hK hk
      have hsame : (e.renumber kept).channel = (g.renumber kept).receiver.channel ↔ e.channel = g.receiver.channel :=
        rank_inj he hc
      simp only [Option.map_some, hsame]
      split
      case isTrue => exact h.dropRef he
      case isFalse => exact h
  | false =>
    rw [if_neg Bool.false_ne_true, Registry.giveBack]
    cases hk : r.entry? g.key with
    | none => exact h
    | some e =>
      dsimp only
      split
      case isTrue heq =>
        have he : kept e.channel = false := heq ▸ hc
        exact h.dropRef_omitted he ((h.kept_eq e (entry?_spec hk).1).symm.trans he)
      case isFalse => exact h

theorem release (h : Excerpt K kept r s) (key : String) :
    Excerpt K kept (r.release key).1 (if K key then (s.release key).1 else s) := by
  cases hK : K key with
  | true =>
    rw [if_pos rfl, Registry.release, Registry.release, h.entry?_eq hK]
    cases hk : r.entry? key with
    | none => exact h
    | some e => exact h.dropRef (h.kept_of_entry? hK hk)
  | false =>
    rw [if_neg Bool.false_ne_true, Registry.release]
    cases hk : r.entry? key with
    | none => exact h
    | some e =>
      obtain ⟨hmem, rfl⟩ := entry?_spec hk
      exact h.dropRef_omitted ((h.kept_eq e hmem).trans hK) hK

end Excerpt

end Registry

/-- A channel that the operation opens is kept exactly for a key of `K`, and a guard of a kept channel is one of such a
key. -/
structure Deed.Fits (K : String → Bool) (kept : Nat → Bool) (d : Deed ρ) : Prop where
  opens : ∀ key o, d.operation = .acquire key o → d.found.entry? key = none → kept d.found.channels.length = K key
  gives : ∀ g, d.operation = .giveBack g → kept g.receiver.channel = true → K g.key = true

namespace Registry.Excerpt

variable {K : String → Bool} {kept : Nat → Bool} {r s : Registry ρ}

/-! ### Guards and what they show -/

/-- Both hand out the same guard. -/
theorem taken_eq (h : Excerpt K kept r s) {key : String} (hK : K key = true) (o : Opening ρ) :
    (s.acquire key o).2 = (r.acquire key o).2.renumber kept := by
  cases hk : r.entry? key with
  | some e =>
    have hk' : s.entry? key = some (e.renumber kept) := by rw [h.entry?_eq hK, hk, Option.map_some]
    rw [acquire_of_present hk, acquire_of_present hk']
    simp only [Guard.renumber, Receiver.renumber, Entry.renumber, h.versionOf_eq (h.kept_of_entry? hK hk)]
  | none =>
    have hk' : s.entry? key = none := by rw [h.entry?_eq hK, hk, Option.map_none]
    rw [acquire_of_absent hk, acquire_of_absent hk', h.channels.length_eq]
    rfl

/-- The channel of a guard that is handed out is kept exactly for a key of `K`. -/
theorem kept_taken (h : Excerpt K kept r s) {key : String} (o : Opening ρ)
    (hop : r.entry? key = none → kept r.channels.length = K key) :
    kept (r.acquire key o).2.receiver.channel = K key := by
  cases hk : r.entry? key with
  | some e =>
    obtain ⟨hmem, rfl⟩ := entry?_spec hk
    rw [acquire_of_present hk]
    exact h.kept_eq e hmem
  | none =>
    rw [acquire_of_absent hk]
    exact hop hk

theorem poll_receiver (h : Excerpt K kept r s) {x : Receiver} (hx : kept x.channel = true) :
    (x.renumber kept).poll s = ((x.poll r).1.renumber kept, (x.poll r).2) := by
  simp only [Receiver.poll, Receiver.current, Receiver.renumber, h.versionOf_eq hx, h.statusOf_eq hx, h.isGone_eq hx]
  split_ifs <;> rfl

theorem mirrors (h : Excerpt K kept r s) {c : Nat} (hc : kept c = true) : Mirrors kept r s c where
  statusOf := h.statusOf_eq hc
  isLive := h.isLive_eq hc
  poll seen := by
    have hpoll := h.poll_receiver (x := ⟨c, seen⟩) hc
    exact (congrArg Prod.snd hpoll :)
  opened := h.count_opened hc
  cancelled := h.count_cancelled hc

theorem poll_guard (h : Excerpt K kept r s) {g : Guard} (hg : kept g.receiver.channel = true) :
    (g.renumber kept).poll s = ((g.poll r).1.renumber kept, (g.poll r).2) := by
  simp only [Guard.poll, Guard.renumber, h.poll_receiver hg]

theorem poll_updates (h : Excerpt K kept r s) {u : Updates} (hu : kept u.receiver.channel = true) :
    (u.renumber kept).poll s = ((u.poll r).1.renumber kept, (u.poll r).2) := by
  simp only [Updates.poll, Updates.renumber, h.poll_receiver hu]
  split
  case isTrue => rfl
  case isFalse =>
    simp only [Receiver.renumber, Receiver.current, h.versionOf_eq hu, h.statusOf_eq hu]

/-! ### Runs -/

/-- An operation is done to both or to the first alone, and one stays an excerpt of the other. -/
theorem perform (h : Excerpt K kept r s) {op : Operation ρ} (hop : Deed.Fits K kept ⟨r, op⟩) :
    Excerpt K kept (r.perform op) (s.performAll (op.narrow K kept).toList) := by
  cases op with
  | acquire key o =>
    have hacquire := h.acquire o (hop.opens key o rfl)
    simp only [Operation.narrow]
    cases hK : K key <;> simpa [hK, Registry.perform] using hacquire
  | giveBack g =>
    have hgive := h.giveBack (hop.gives g rfl)
    simp only [Operation.narrow]
    cases hc : kept g.receiver.channel <;> simpa [hc, Registry.perform] using hgive
  | release key =>
    have hrelease := h.release key
    simp only [Operation.narrow]
    cases hK : K key <;> simpa [hK, Registry.perform] using hrelease
  | clearAll => exact h.clearAll
  | push c p =>
    simp only [Operation.narrow]
    cases hc : kept c with
    | true => exact h.push hc p
    | false => exact h.push_omitted hc p
  | letGo c =>
    simp only [Operation.narrow]
    cases hc : kept c with
    | true => exact h.letGo hc
    | false => exact h.letGo_omitted hc

theorem performAll (h : Excerpt K kept r s) {ops : List (Operation ρ)} (hops : ∀ d ∈ r.trail ops, d.Fits K kept) :
    Excerpt K kept (r.performAll ops) (s.performAll (ops.filterMap (Operation.narrow K kept))) := by
  induction ops generalizing r s with
  | nil => exact h
  | cons op ops ih =>
    have hnext := ih (h.perform (hops ⟨r, op⟩ List.mem_cons_self)) fun d hd => hops d (List.mem_cons_of_mem _ hd)
    rw [List.filterMap_cons]
    cases hn : op.narrow K kept <;> simpa [hn] using hnext

end Registry.Excerpt

/-! ### What an operation opens and cancels -/

namespace Registry

@[simp] theorem journal_remove (r : Registry ρ) (e : Entry) :
    (r.remove e).journal = r.journal ++ [.cancelled e.channel] := by rw [remove_eq]

theorem journal_foldl_remove (r : Registry ρ) (es : List Entry) :
    (es.foldl remove r).journal = r.journal ++ es.map (.cancelled ·.channel) := by
  induction es generalizing r with
  | nil => exact (List.append_nil _).symm
  | cons e es ih => rw [List.foldl_cons, ih, journal_remove, List.append_assoc]; rfl

/-- The journal only grows. -/
theorem journal_grows (r : Registry ρ) (op : Operation ρ) : r.journal <+: (r.perform op).journal := by
  have hout := r.outcome_perform op
  generalize r.perform op = s at hout ⊢
  cases hout with
  | joined | missedGuard | missedKey | letGo => exact List.prefix_refl _
  | opened => exact List.prefix_append ..
  | @hit _ e =>
    rw [dropRef_eq]
    split
    case isTrue => rw [journal_remove]; exact List.prefix_append ..
    case isFalse => exact List.prefix_refl _
  | cleared => rw [clearAll, journal_foldl_remove]; exact List.prefix_append ..
  | pushed c p => rw [journal_push]

end Registry

namespace Deed

/-- What the operation opened and cancelled. -/
def effect (d : Deed ρ) : List Happening := (d.found.perform d.operation).journal.drop d.found.journal.length

/-- The part of an operation that concerns what is kept, and of what it opened and cancelled. -/
def report (K : String → Bool) (kept : Nat → Bool) (d : Deed ρ) : Option (Operation ρ × List Happening) :=
  (d.operation.narrow K kept).map fun op =>
    (op, (d.effect.filter (kept ·.channel)).map (Happening.renumber kept))

end Deed

namespace Registry.Excerpt

variable {K : String → Bool} {kept : Nat → Bool} {r s : Registry ρ}

/-- What comes to the journal of the one comes to the journal of the other, as far as it is kept. -/
theorem journal_growth (h : Excerpt K kept r s) {r₁ s₁ : Registry ρ} (h₁ : Excerpt K kept r₁ s₁)
    (hgrows : r.journal <+: r₁.journal) :
    s₁.journal.drop s.journal.length =
      ((r₁.journal.drop r.journal.length).filter (kept ·.channel)).map (Happening.renumber kept) := by
  obtain ⟨more, hmore⟩ := hgrows
  have hnext := h₁.journal
  rw [← hmore, List.filter_append, List.map_append, ← h.journal] at hnext
  rw [← hmore, List.drop_left, hnext, List.drop_left]

theorem effect_eq (h : Excerpt K kept r s) {op op' : Operation ρ} (hop : Deed.Fits K kept ⟨r, op⟩)
    (hn : op.narrow K kept = some op') :
    Deed.effect ⟨s, op'⟩ = ((Deed.effect ⟨r, op⟩).filter (kept ·.channel)).map (Happening.renumber kept) := by
  have hnext := h.perform hop
  rw [hn] at hnext
  exact h.journal_growth hnext (r.journal_grows op)

/-- Operation by operation, the same is opened and cancelled. -/
theorem report_trail (h : Excerpt K kept r s) {ops : List (Operation ρ)} (hops : ∀ d ∈ r.trail ops, d.Fits K kept) :
    (s.trail (ops.filterMap (Operation.narrow K kept))).map (fun d => (d.operation, d.effect)) =
      (r.trail ops).filterMap (Deed.report K kept) := by
  induction ops generalizing r s with
  | nil => rfl
  | cons op ops ih =>
    have hop := hops ⟨r, op⟩ List.mem_cons_self
    have hnext := ih (h.perform hop) fun d hd => hops d (List.mem_cons_of_mem _ hd)
    rw [List.filterMap_cons, trail, List.filterMap_cons]
    cases hn : op.narrow K kept with
    | none => simpa [Deed.report, hn] using hnext
    | some op' =>
      have heffect := h.effect_eq hop hn
      simpa [Deed.report, hn, trail, heffect] using hnext

end Registry.Excerpt

end FleetFeed.Feed
