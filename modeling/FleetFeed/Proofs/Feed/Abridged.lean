import FleetFeed.Proofs.Feed.Bindings
import FleetFeed.Proofs.Feed.Guards

/-! A run of which only a part takes place. The steps that concern some keys, or what came after some moment, are taken by
other consumers of another registry, who number what they hold for themselves; the other steps are left out. Step by step
these consumers hold what is kept of what the first ones hold, and their registry is an excerpt of the first. -/
namespace FleetFeed.Feed

variable {ρ : Type}

/-- Which channels, guards, streams and bindings of a run are kept, by their numbers. -/
structure Kept where
  channel : Nat → Bool
  guard : Nat → Bool
  stream : Nat → Bool
  binding : Nat → Bool

/-- The part of a step that concerns the keys of `K` and what is kept. A binding that is pointed at any other key is
pointed at none. -/
def Step.narrow (K : String → Bool) (m : Kept) : Step ρ → Option (Step ρ)
  | .acquire key o => if K key then some (.acquire key o) else none
  | .giveBack i => if m.guard i then some (.giveBack (rank m.guard i)) else none
  | .release key => if K key then some (.release key) else none
  | .clearAll => some .clearAll
  | .push c p => if m.channel c then some (.push (rank m.channel c) p) else none
  | .letGo c => if m.channel c then some (.letGo (rank m.channel c)) else none
  | .pollGuard i => if m.guard i then some (.pollGuard (rank m.guard i)) else none
  | .watch i => if m.guard i then some (.watch (rank m.guard i)) else none
  | .follow i => if m.guard i then some (.follow (rank m.guard i)) else none
  | .pollStream i => if m.stream i then some (.pollStream (rank m.stream i)) else none
  | .bind o => some (.bind o)
  | .setKey i key => if m.binding i then some (.setKey (rank m.binding i) (key.filter K)) else none
  | .pollBinding i => if m.binding i then some (.pollBinding (rank m.binding i)) else none
  | .unbind i => if m.binding i then some (.unbind (rank m.binding i)) else none

theorem omitted_of_ite {α : Type} {k : Bool} {a : α} (h : (if k then some a else none) = none) : k = false := by
  simpa using h

/-! ### What the consumers hold -/

namespace Registry

/-- A channel that is opened on the way has its key at the end. -/
theorem keyOf?_of_opens {r : Registry ρ} {ops : List (Operation ρ)} {d : Deed ρ} (hd : d ∈ r.trail ops) {key : String}
    {o : Opening ρ} (hop : d.operation = .acquire key o) (hk : d.found.entry? key = none) :
    r.channels.length ≤ d.found.channels.length ∧
      (r.performAll ops).keyOf? d.found.channels.length = some key := by
  induction ops generalizing r with
  | nil => exact absurd hd List.not_mem_nil
  | cons op ops ih =>
    rcases List.mem_cons.1 hd with rfl | hd
    · obtain rfl : op = .acquire key o := hop
      refine ⟨Nat.le_refl _, keyOf?_performAll ?_ ops⟩
      rw [perform, acquire_of_absent hk]
      exact r.keyOf?_openFor_self key o
    · obtain ⟨hle, hkey⟩ := ih hd
      exact ⟨Nat.le_trans (r.length_le_perform op) hle, hkey⟩

end Registry

namespace Consumers

/-- The second consumers hold, under numbers of their own, what is kept of what the first hold. -/
structure Holds (m : Kept) (w w' : Consumers ρ) : Prop where
  guards : Selects m.guard (Option.map (Guard.renumber m.channel)) w.guards w'.guards
  receivers : w'.receivers = (w.receivers.filter (m.channel ·.channel)).map (Receiver.renumber m.channel)
  streams : Selects m.stream (Updates.renumber m.channel) w.streams w'.streams
  bindings : Selects m.binding (Option.map (Binding.narrow m.channel)) w.bindings w'.bindings

/-- A guard or a stream is kept exactly if its channel is, and a guard that is kept is one of a key of `K`. A binding that is
kept may go through other keys as well. -/
structure Marks (K : String → Bool) (m : Kept) (w : Consumers ρ) : Prop where
  guard_marks : Marked m.guard (fun k x => ∀ g, x = some g →
    m.channel g.receiver.channel = k ∧ (k = true → K g.key = true)) w.guards
  stream_marks : Marked m.stream (fun k u => m.channel u.receiver.channel = k) w.streams
  binding_marks : Marked m.binding (fun k x => ∀ b g, x = some b → b.guard = some g →
    m.channel g.receiver.channel = (k && K g.key)) w.bindings

/-- The second consumers, and their registry, are what is kept of the first. -/
structure Excerpt (K : String → Bool) (m : Kept) (w w' : Consumers ρ) : Prop extends Holds m w w', Marks K m w where
  registry : Registry.Excerpt K m.channel w.registry w'.registry

/-- What is kept fits what the step makes: a channel that it opens and a guard that it acquires are kept exactly for a key
of `K`, a stream is kept as its channel is, a new binding always. A binding that is not kept does not move any more. -/
structure Fits (K : String → Bool) (m : Kept) (w : Consumers ρ) (s : Step ρ) : Prop where
  channel : ∀ c key, w.registry.channels.length ≤ c → (w.step s).1.registry.keyOf? c = some key → m.channel c = K key
  guard : ∀ key o, s = .acquire key o → m.guard w.guards.length = K key
  stream : ∀ i g, s = .follow i → w.guard? i = some g → m.stream w.streams.length = m.channel g.receiver.channel
  binding : ∀ o, s = .bind o → m.binding w.bindings.length = true
  still : ∀ i key, s = .setKey i key → m.binding i = false → Binding.usable key = none

/-- The second consumers have the guards, streams, receivers and bindings that are kept, and any guard, stream or receiver
of a kept channel shows them what it shows the first. -/
structure Shows (m : Kept) (w w' : Consumers ρ) : Prop where
  guards : w'.guards.length = rank m.guard w.guards.length
  guard : ∀ i, m.guard i = true → w'.guard? (rank m.guard i) = (w.guard? i).map (Guard.renumber m.channel)
  guard_kept : ∀ i g, w.guard? i = some g → m.channel g.receiver.channel = m.guard i
  streams : w'.streams.length = rank m.stream w.streams.length
  stream : ∀ i, m.stream i = true → w'.streams[rank m.stream i]? = (w.streams[i]?).map (Updates.renumber m.channel)
  stream_kept : ∀ i u, w.streams[i]? = some u → m.channel u.receiver.channel = m.stream i
  receivers : w'.receivers = (w.receivers.filter (m.channel ·.channel)).map (Receiver.renumber m.channel)
  bindings : w'.bindings.length = rank m.binding w.bindings.length
  binding : ∀ i, m.binding i = true → w'.binding? (rank m.binding i) = (w.binding? i).map (Binding.narrow m.channel)
  view : ∀ g : Guard, m.channel g.receiver.channel = true →
    (g.renumber m.channel).current w'.registry = g.current w.registry ∧
    (g.renumber m.channel).latest w'.registry = g.latest w.registry ∧
    ((g.renumber m.channel).poll w'.registry).2 = (g.poll w.registry).2
  next : ∀ u : Updates, m.channel u.receiver.channel = true →
    ((u.renumber m.channel).poll w'.registry).2 = (u.poll w.registry).2
  glance : ∀ x : Receiver, m.channel x.channel = true → (x.renumber m.channel).current w'.registry = x.current w.registry

/-- The steps, each with what it answers. -/
def exchanges (w : Consumers ρ) : List (Step ρ) → List (Step ρ × Answer ρ)
  | [] => []
  | s :: steps => (s, (w.step s).2) :: (w.step s).1.exchanges steps

namespace Excerpt

variable {K : String → Bool} {m : Kept} {w w' : Consumers ρ} {s : Step ρ}

section Lookup

variable (h : Excerpt K m w w')
include h

theorem guard?_eq {i : Nat} (hi : m.guard i = true) :
    w'.guard? (rank m.guard i) = (w.guard? i).map (Guard.renumber m.channel) := by
  rw [guard?, h.guards.getElem?_eq i hi, guard?]
  cases w.guards[i]? <;> rfl

theorem binding?_eq {i : Nat} (hi : m.binding i = true) :
    w'.binding? (rank m.binding i) = (w.binding? i).map (Binding.narrow m.channel) := by
  rw [binding?, h.bindings.getElem?_eq i hi, binding?]
  cases w.bindings[i]? <;> rfl

theorem kept_guard {i : Nat} {g : Guard} (hg : w.guard? i = some g) :
    m.channel g.receiver.channel = m.guard i ∧ (m.guard i = true → K g.key = true) :=
  h.guard_marks i _ (Option.join_eq_some_iff.1 hg) g rfl

theorem kept_binding {i : Nat} {b : Binding ρ} {g : Guard} (hb : w.binding? i = some b) (hg : b.guard = some g) :
    m.channel g.receiver.channel = (m.binding i && K g.key) :=
  h.binding_marks i _ (Option.join_eq_some_iff.1 hb) b g rfl hg

theorem key_of_held {g : Guard} (hg : g ∈ w.held) (hc : m.channel g.receiver.channel = true) : K g.key = true := by
  rcases List.mem_append.1 hg with hg | hg
  · obtain ⟨x, hx, rfl⟩ := List.mem_filterMap.1 hg
    obtain ⟨i, hi⟩ := List.mem_iff_getElem?.1 hx
    obtain ⟨hkept, hK⟩ := h.guard_marks i _ hi g rfl
    exact hK (hkept.symm.trans hc)
  · obtain ⟨x, hx, hbg⟩ := List.mem_filterMap.1 hg
    obtain ⟨b, rfl, hb⟩ := Option.bind_eq_some_iff.1 hbg
    obtain ⟨i, hi⟩ := List.mem_iff_getElem?.1 hx
    have hkept := h.binding_marks i _ hi b g rfl hb
    rw [hc] at hkept
    exact (Bool.and_eq_true_iff.1 hkept.symm).2

end Lookup

theorem deed_fits (h : Excerpt K m w w') (hs : Fits K m w s) :
    ∀ d ∈ w.registry.trail (w.operations s), d.Fits K m.channel := by
  intro d hd
  constructor
  · intro key o hop hk
    obtain ⟨hle, hkey⟩ := Registry.keyOf?_of_opens hd hop hk
    rw [← registry_step] at hkey
    exact hs.channel _ key hle hkey
  · intro g hop hc
    exact h.key_of_held (held_of_giveBack hd hop).2 hc

/-- What a binding holds that is not kept is not kept. -/
theorem giveBack_omitted (h : Excerpt K m w w') {i : Nat} {b : Binding ρ} (hi : m.binding i = false)
    (hb : w.binding? i = some b) :
    ((b.guard.map .giveBack).toList : List (Operation ρ)).filterMap (Operation.narrow K m.channel) = [] := by
  cases hg : b.guard with
  | none => rfl
  | some g => simp [Operation.narrow, h.kept_binding hb hg, hi]

theorem kept_of_binding (h : Excerpt K m w w') {i : Nat} {b : Binding ρ} (hi : m.binding i = true)
    (hb : w.binding? i = some b) : ∀ g, b.guard = some g → m.channel g.receiver.channel = K g.key := by
  intro g hg
  rw [h.kept_binding hb hg, hi, Bool.true_and]

/-- A channel that a binding opens on its way is kept exactly for a key of `K`. -/
theorem setKey_fits (h : Excerpt K m w w') {i : Nat} {key : Option String} (hs : Fits K m w (.setKey i key))
    {b : Binding ρ} (hb : w.binding? i = some b) (hne : b.key ≠ Binding.usable key) (k : String)
    (hk : Binding.usable key = some k) (habsent : Registry.entry? (b.letGo w.registry) k = none) :
    m.channel (b.letGo w.registry).channels.length = K k := by
  have hmem : (⟨b.letGo w.registry, .acquire k b.opening⟩ : Deed ρ) ∈ w.registry.trail (w.operations (.setKey i key)) := by
    simp only [operations, hb]
    rw [if_neg hne, hk, Registry.trail_append, ← letGo_eq_performAll]
    exact List.mem_append_right _ (List.mem_singleton_self _)
  exact (h.deed_fits hs _ hmem).opens k b.opening rfl habsent

/-- What is kept of a step does what is kept of what the step does. -/
theorem operations_narrow (h : Excerpt K m w w') (hs : Fits K m w s) :
    w'.history (s.narrow K m).toList = (w.operations s).filterMap (Operation.narrow K m.channel) := by
  cases s with
  | giveBack i =>
    have hguard : ∀ g, w.guard? i = some g → m.channel g.receiver.channel = m.guard i := fun g hg => (h.kept_guard hg).1
    simp only [Step.narrow, operations]
    cases hi : m.guard i with
    | true =>
      simp only [if_true, Option.toList_some, history, operations, h.guard?_eq hi, List.append_nil]
      cases hg : w.guard? i with
      | none => rfl
      | some g => simp [Operation.narrow, hguard g hg, hi]
    | false =>
      cases hg : w.guard? i with
      | none => rfl
      | some g => simp [history, Operation.narrow, hguard g hg, hi]
  | setKey i key =>
    simp only [Step.narrow, operations]
    cases hi : m.binding i with
    | true =>
      simp only [if_true, Option.toList_some, history, operations, h.binding?_eq hi, List.append_nil]
      cases hb : w.binding? i with
      | none => rfl
      | some b => exact Binding.moves_narrow (h.kept_of_binding hi hb) key
    | false =>
      cases hb : w.binding? i with
      | none => rfl
      | some b =>
        have hgive := h.giveBack_omitted hi hb
        rw [hs.still i key rfl hi, if_neg Bool.false_ne_true]
        dsimp only
        by_cases hkey : b.key = none
        · rw [if_pos hkey]
          rfl
        · rw [if_neg hkey, List.filterMap_append, hgive]
          rfl
  | unbind i =>
    simp only [Step.narrow, operations]
    cases hi : m.binding i with
    | true =>
      simp only [if_true, Option.toList_some, history, operations, h.binding?_eq hi, List.append_nil]
      cases hb : w.binding? i with
      | none => rfl
      | some b => exact Binding.giveBack_narrow K m.channel b
    | false =>
      cases hb : w.binding? i with
      | none => rfl
      | some b => exact (h.giveBack_omitted hi hb).symm
  | acquire key o =>
    cases hK : K key <;> simp [Step.narrow, operations, history, Operation.narrow, hK]
  | release key =>
    cases hK : K key <;> simp [Step.narrow, operations, history, Operation.narrow, hK]
  | push c p =>
    cases hc : m.channel c <;> simp [Step.narrow, operations, history, Operation.narrow, hc]
  | letGo c =>
    cases hc : m.channel c <;> simp [Step.narrow, operations, history, Operation.narrow, hc]
  | clearAll => rfl
  | bind o => rfl
  | pollGuard i | watch i | follow i =>
    cases hi : m.guard i <;> simp [Step.narrow, operations, history, hi]
  | pollStream i => cases hi : m.stream i <;> simp [Step.narrow, operations, history, hi]
  | pollBinding i => cases hi : m.binding i <;> simp [Step.narrow, operations, history, hi]

/-! ### Steps and runs -/

theorem registry_narrow (h : Excerpt K m w w') (hs : Fits K m w s) :
    Registry.Excerpt K m.channel (w.step s).1.registry (w'.run (s.narrow K m).toList).registry := by
  rw [registry_step, registry_run, h.operations_narrow hs]
  exact h.registry.performAll (h.deed_fits hs)

/-- What a step makes is marked as what is kept, or is not, has to be. -/
theorem marks_step (h : Excerpt K m w w') (hs : Fits K m w s) : Marks K m (w.step s).1 := by
  refine ⟨fun i x hx g hg => ?_, fun i u hu => ?_, fun i x hx b g hb hg => ?_⟩
  · subst hg
    cases guard_after (Option.join_eq_some_iff.2 hx) with
    | taken key o hi =>
      have hfresh := hs.guard key o rfl
      have hdeed := h.deed_fits hs ⟨w.registry, .acquire key o⟩ (List.mem_singleton_self _)
      rw [hi, Registry.key_acquire, h.registry.kept_taken o (hdeed.opens key o rfl), hfresh]
      exact ⟨rfl, id⟩
    | looked h₀ =>
      rw [Guard.channel_poll]
      exact h.kept_guard h₀
    | kept h₀ => exact h.kept_guard h₀
  · cases stream_after hu with
    | begun hg hi =>
      rw [hi]
      exact (hs.stream _ _ rfl hg).symm
    | looked h₀ =>
      rw [Updates.channel_poll]
      exact h.stream_marks i _ h₀
    | kept h₀ => exact h.stream_marks i u h₀
  · subst hb
    cases binding_after (Option.join_eq_some_iff.2 hx) with
    | made o => exact absurd hg (by simp [Binding.new])
    | @moved b₀ key h₀ =>
      cases hi : m.binding i with
      | true => exact Binding.kept_setKey (h.kept_of_binding hi h₀) h.registry (h.setKey_fits hs h₀) g hg
      | false =>
        -- it is left without a guard
        have hkey := b₀.key_setKey w.registry key
        rw [hs.still i key rfl hi, Binding.key, hg] at hkey
        exact absurd hkey (by simp)
    | looked h₀ =>
      rw [Binding.guard_poll] at hg
      obtain ⟨g₀, hg₀, rfl⟩ := Option.map_eq_some_iff.1 hg
      rw [Guard.channel_poll]
      exact h.kept_binding h₀ hg₀
    | kept h₀ => exact h.kept_binding h₀ hg

/-- A step that both take does to what is held here what it does to what is held there. -/
theorem holds_kept (h : Excerpt K m w w') (hs : Fits K m w s) {s' : Step ρ} (hn : s.narrow K m = some s') :
    Holds m (w.step s).1 (w'.step s').1 := by
  obtain ⟨hguards, hreceivers, hstreams, hbindings⟩ := h.toHolds
  cases s with
  | acquire key o =>
    obtain ⟨hK, ⟨⟩⟩ := Option.ite_none_right_eq_some.1 hn
    have hnext := hguards.concat_kept ((hs.guard key o rfl).trans hK) (some (w.registry.acquire key o).2)
    rw [Option.map_some, ← h.registry.taken_eq hK] at hnext
    exact ⟨hnext, hreceivers, hstreams, hbindings⟩
  | release key | push c p | letGo c =>
    obtain ⟨-, ⟨⟩⟩ := Option.ite_none_right_eq_some.1 hn
    exact ⟨hguards, hreceivers, hstreams, hbindings⟩
  | clearAll =>
    obtain rfl := Option.some.inj hn
    exact ⟨hguards, hreceivers, hstreams, hbindings⟩
  | giveBack i =>
    obtain ⟨hi, ⟨⟩⟩ := Option.ite_none_right_eq_some.1 hn
    simp only [Consumers.step, h.guard?_eq hi]
    cases w.guard? i with
    | none => exact h.toHolds
    | some g => exact ⟨hguards.set_kept hi none, hreceivers, hstreams, hbindings⟩
  | pollGuard i =>
    obtain ⟨hi, ⟨⟩⟩ := Option.ite_none_right_eq_some.1 hn
    simp only [Consumers.step, h.guard?_eq hi]
    cases hg : w.guard? i with
    | none => exact h.toHolds
    | some g =>
      have hpoll := h.registry.poll_guard ((h.kept_guard hg).1.trans hi)
      simp only [Option.map_some, hpoll]
      exact ⟨hguards.set_kept hi _, hreceivers, hstreams, hbindings⟩
  | watch i =>
    obtain ⟨hi, ⟨⟩⟩ := Option.ite_none_right_eq_some.1 hn
    simp only [Consumers.step, h.guard?_eq hi]
    cases hg : w.guard? i with
    | none => exact h.toHolds
    | some g =>
      refine ⟨hguards, ?_, hstreams, hbindings⟩
      simp [Guard.renumber, hreceivers, (h.kept_guard hg).1, hi]
  | follow i =>
    obtain ⟨hi, ⟨⟩⟩ := Option.ite_none_right_eq_some.1 hn
    simp only [Consumers.step, h.guard?_eq hi]
    cases hg : w.guard? i with
    | none => exact h.toHolds
    | some g =>
      have hfresh := (hs.stream i g rfl hg).trans ((h.kept_guard hg).1.trans hi)
      exact ⟨hguards, hreceivers, hstreams.concat_kept hfresh (.of g), hbindings⟩
  | pollStream i =>
    obtain ⟨hi, ⟨⟩⟩ := Option.ite_none_right_eq_some.1 hn
    simp only [Consumers.step, hstreams.getElem?_eq i hi]
    cases hu : w.streams[i]? with
    | none => exact h.toHolds
    | some u =>
      have hpoll := h.registry.poll_updates ((h.stream_marks i u hu).trans hi)
      simp only [Option.map_some, hpoll]
      exact ⟨hguards, hreceivers, hstreams.set_kept hi _, hbindings⟩
  | bind o =>
    obtain rfl := Option.some.inj hn
    exact ⟨hguards, hreceivers, hstreams, hbindings.concat_kept (hs.binding o rfl) (some (.new o))⟩
  | setKey i key =>
    obtain ⟨hi, ⟨⟩⟩ := Option.ite_none_right_eq_some.1 hn
    simp only [Consumers.step, h.binding?_eq hi]
    cases hb : w.binding? i with
    | none => exact h.toHolds
    | some b =>
      have hnext := hbindings.set_kept hi (some (b.setKey w.registry key).1)
      rw [Option.map_some, ← Binding.setKey_narrow (h.kept_of_binding hi hb) h.registry (h.setKey_fits hs hb)] at hnext
      exact ⟨hguards, hreceivers, hstreams, hnext⟩
  | pollBinding i =>
    obtain ⟨hi, ⟨⟩⟩ := Option.ite_none_right_eq_some.1 hn
    simp only [Consumers.step, h.binding?_eq hi]
    cases w.binding? i with
    | none => exact h.toHolds
    | some b =>
      have hnext := hbindings.set_kept hi (some (b.poll w.registry).1)
      rw [Option.map_some, ← Binding.poll_narrow h.registry] at hnext
      exact ⟨hguards, hreceivers, hstreams, hnext⟩
  | unbind i =>
    obtain ⟨hi, ⟨⟩⟩ := Option.ite_none_right_eq_some.1 hn
    simp only [Consumers.step, h.binding?_eq hi]
    cases w.binding? i with
    | none => exact h.toHolds
    | some b => exact ⟨hguards, hreceivers, hstreams, hbindings.set_kept hi none⟩

/-- A step that only the first take does nothing to what is held here. -/
theorem holds_omitted (h : Excerpt K m w w') (hs : Fits K m w s) (hn : s.narrow K m = none) :
    Holds m (w.step s).1 w' := by
  obtain ⟨hguards, hreceivers, hstreams, hbindings⟩ := h.toHolds
  cases s with
  | acquire key o =>
    have hK := omitted_of_ite hn
    exact ⟨hguards.concat_omitted ((hs.guard key o rfl).trans hK) _, hreceivers, hstreams, hbindings⟩
  | release key | push c p | letGo c => exact ⟨hguards, hreceivers, hstreams, hbindings⟩
  | clearAll | bind o => exact absurd hn (by simp [Step.narrow])
  | giveBack i | pollGuard i =>
    have hi := omitted_of_ite hn
    simp only [Consumers.step]
    cases w.guard? i with
    | none => exact h.toHolds
    | some g => exact ⟨hguards.set_omitted hi _, hreceivers, hstreams, hbindings⟩
  | watch i =>
    have hi := omitted_of_ite hn
    simp only [Consumers.step]
    cases hg : w.guard? i with
    | none => exact h.toHolds
    | some g =>
      refine ⟨hguards, ?_, hstreams, hbindings⟩
      simp [hreceivers, (h.kept_guard hg).1, hi]
  | follow i =>
    have hi := omitted_of_ite hn
    simp only [Consumers.step]
    cases hg : w.guard? i with
    | none => exact h.toHolds
    | some g =>
      have hfresh := (hs.stream i g rfl hg).trans ((h.kept_guard hg).1.trans hi)
      exact ⟨hguards, hreceivers, hstreams.concat_omitted hfresh _, hbindings⟩
  | pollStream i =>
    have hi := omitted_of_ite hn
    simp only [Consumers.step]
    cases w.streams[i]? with
    | none => exact h.toHolds
    | some u => exact ⟨hguards, hreceivers, hstreams.set_omitted hi _, hbindings⟩
  | setKey i key | pollBinding i | unbind i =>
    have hi := omitted_of_ite hn
    simp only [Consumers.step]
    cases w.binding? i with
    | none => exact h.toHolds
    | some b => exact ⟨hguards, hreceivers, hstreams, hbindings.set_omitted hi _⟩

/-- A step is taken by both or by the first alone, and the second go on holding what is kept of what the first hold. -/
theorem step (h : Excerpt K m w w') (hs : Fits K m w s) :
    Excerpt K m (w.step s).1 (w'.run (s.narrow K m).toList) := by
  have hregistry := h.registry_narrow hs
  cases hn : s.narrow K m with
  | some s' => exact ⟨h.holds_kept hs hn, h.marks_step hs, hn ▸ hregistry⟩
  | none => exact ⟨h.holds_omitted hs hn, h.marks_step hs, hn ▸ hregistry⟩

/-- If every key counts, a step that is taken by both is answered alike. -/
theorem answer_eq (h : Excerpt K m w w') (hK : ∀ key, K key = true) {s' : Step ρ} (hn : s.narrow K m = some s') :
    (w'.step s').2 = (w.step s).2 := by
  cases s with
  | acquire key o | push c p | letGo c =>
    obtain ⟨-, ⟨⟩⟩ := Option.ite_none_right_eq_some.1 hn
    rfl
  | release key =>
    obtain ⟨-, ⟨⟩⟩ := Option.ite_none_right_eq_some.1 hn
    simp only [Consumers.step, Registry.release, h.registry.entry?_eq (hK key)]
    cases w.registry.entry? key <;> rfl
  | clearAll | bind o =>
    obtain rfl := Option.some.inj hn
    rfl
  | giveBack i | watch i | follow i =>
    obtain ⟨hi, ⟨⟩⟩ := Option.ite_none_right_eq_some.1 hn
    simp only [Consumers.step, h.guard?_eq hi]
    cases w.guard? i <;> rfl
  | pollGuard i =>
    obtain ⟨hi, ⟨⟩⟩ := Option.ite_none_right_eq_some.1 hn
    simp only [Consumers.step, h.guard?_eq hi]
    cases hg : w.guard? i with
    | none => rfl
    | some g => simp only [Option.map_some, h.registry.poll_guard ((h.kept_guard hg).1.trans hi)]
  | pollStream i =>
    obtain ⟨hi, ⟨⟩⟩ := Option.ite_none_right_eq_some.1 hn
    simp only [Consumers.step, h.streams.getElem?_eq i hi]
    cases hu : w.streams[i]? with
    | none => rfl
    | some u => simp only [Option.map_some, h.registry.poll_updates ((h.stream_marks i u hu).trans hi)]
  | setKey i key =>
    obtain ⟨hi, ⟨⟩⟩ := Option.ite_none_right_eq_some.1 hn
    simp only [Consumers.step, h.binding?_eq hi]
    cases hb : w.binding? i with
    | none => rfl
    | some b =>
      have hall : ∀ k : Option String, k.filter K = k := fun k => by cases k <;> simp [Option.filter_some, hK]
      have hkey := Binding.key_narrow (h.kept_of_binding hi hb)
      simp only [Option.map_some, Binding.changed_setKey, hkey, hall]
  | pollBinding i =>
    obtain ⟨hi, ⟨⟩⟩ := Option.ite_none_right_eq_some.1 hn
    simp only [Consumers.step, h.binding?_eq hi]
    cases hb : w.binding? i with
    | none => rfl
    | some b =>
      cases hg : b.guard with
      | none => simp only [Option.map_some, Binding.narrow_of_none hg, Binding.poll, hg]
      | some g =>
        have hkept : m.channel g.receiver.channel = true := by rw [h.kept_of_binding hi hb g hg, hK]
        simp only [Option.map_some, Binding.narrow_of_kept hg hkept, Binding.poll, hg, h.registry.poll_guard hkept]
  | unbind i =>
    obtain ⟨hi, ⟨⟩⟩ := Option.ite_none_right_eq_some.1 hn
    simp only [Consumers.step, h.binding?_eq hi]
    cases w.binding? i <;> rfl

section Runs

variable {steps : List (Step ρ)} (h : Excerpt K m w w')
  (hfits : ∀ before s after, steps = before ++ s :: after → Fits K m (w.run before) s)
include h hfits

theorem run : Excerpt K m (w.run steps) (w'.run (steps.filterMap (Step.narrow K m))) := by
  induction steps generalizing w w' with
  | nil => exact h
  | cons s steps ih =>
    have hnext := ih (h.step (hfits [] s steps rfl)) fun xs s' ys he => hfits (s :: xs) s' ys (by rw [he]; rfl)
    rw [List.filterMap_cons]
    cases hn : s.narrow K m <;> (rw [hn] at hnext; exact hnext)

theorem history_narrow : w'.history (steps.filterMap (Step.narrow K m)) =
    (w.history steps).filterMap (Operation.narrow K m.channel) := by
  induction steps generalizing w w' with
  | nil => rfl
  | cons s steps ih =>
    have hs := hfits [] s steps rfl
    have hnext := ih (h.step hs) fun xs s' ys he => hfits (s :: xs) s' ys (by rw [he]; rfl)
    have hops := h.operations_narrow hs
    rw [List.filterMap_cons, history, List.filterMap_append, ← hops, ← hnext, ← history_append]
    cases s.narrow K m <;> rfl

theorem trail_fits : ∀ d ∈ w.registry.trail (w.history steps), d.Fits K m.channel := by
  induction steps generalizing w w' with
  | nil => exact fun d hd => absurd hd List.not_mem_nil
  | cons s steps ih =>
    have hs := hfits [] s steps rfl
    have hnext := ih (h.step hs) fun xs s' ys he => hfits (s :: xs) s' ys (by rw [he]; rfl)
    intro d hd
    rw [history, Registry.trail_append, ← registry_step] at hd
    rcases List.mem_append.1 hd with hd | hd
    · exact h.deed_fits hs d hd
    · exact hnext d hd

/-- Operation by operation, the second consumers open and cancel what is kept of what the first do. -/
theorem reports_eq : (w'.registry.trail (w'.history (steps.filterMap (Step.narrow K m)))).map
      (fun d => (d.operation, d.effect)) =
    (w.registry.trail (w.history steps)).filterMap (Deed.report K m.channel) := by
  rw [h.history_narrow hfits]
  exact h.registry.report_trail (h.trail_fits hfits)

/-- If every key counts, whatever the second consumers ask is answered as it is to the first. -/
theorem exchanges_eq (hK : ∀ key, K key = true) : w'.exchanges (steps.filterMap (Step.narrow K m)) =
    (w.exchanges steps).filterMap fun x => (x.1.narrow K m).map (·, x.2) := by
  induction steps generalizing w w' with
  | nil => rfl
  | cons s steps ih =>
    have hnext := ih (h.step (hfits [] s steps rfl)) fun xs s' ys he => hfits (s :: xs) s' ys (by rw [he]; rfl)
    rw [List.filterMap_cons, exchanges, List.filterMap_cons]
    cases hn : s.narrow K m with
    | none =>
      rw [hn] at hnext
      exact hnext
    | some s' =>
      rw [hn] at hnext
      simp only [Option.map_some, exchanges, h.answer_eq hK hn]
      exact congrArg _ hnext

end Runs

theorem shows (h : Excerpt K m w w') : Shows m w w' where
  guards := h.guards.length_eq
  guard i hi := h.guard?_eq hi
  guard_kept i g hg := (h.kept_guard hg).1
  streams := h.streams.length_eq
  stream i hi := h.streams.getElem?_eq i hi
  stream_kept i u hu := h.stream_marks i u hu
  receivers := h.receivers
  bindings := h.bindings.length_eq
  binding i hi := h.binding?_eq hi
  view g hg := by
    have hcurrent : (g.renumber m.channel).current w'.registry = g.current w.registry := h.registry.statusOf_eq hg
    exact ⟨hcurrent, congrArg Status.value? hcurrent, by rw [h.registry.poll_guard hg]⟩
  next u hu := by rw [h.registry.poll_updates hu]
  glance x hx := h.registry.statusOf_eq hx

end Excerpt

/-! ### What is kept of a run -/

/-- A stream is kept as its channel is. -/
def keeping (w : Consumers ρ) (steps : List (Step ρ)) (channel guard binding : Nat → Bool) : Kept where
  channel := channel
  guard := guard
  stream i := ((w.run steps).streams[i]?).any (channel ·.receiver.channel)
  binding := binding

/-- A stream stays with its channel. -/
theorem channels_streams_step (w : Consumers ρ) (s : Step ρ) :
    w.streams.map (·.receiver.channel) <+: (w.step s).1.streams.map (·.receiver.channel) := by
  cases s with
  | follow i =>
    simp only [Consumers.step]
    cases w.guard? i with
    | none => exact List.prefix_refl _
    | some g => rw [List.map_append]; exact List.prefix_append ..
  | pollStream i =>
    simp only [Consumers.step]
    cases hu : w.streams[i]? with
    | none => exact List.prefix_refl _
    | some u =>
      have hsame : (w.streams.set i (u.poll w.registry).1).map (·.receiver.channel) = w.streams.map (·.receiver.channel) := by
        obtain ⟨hlt, rfl⟩ := List.getElem?_eq_some_iff.1 hu
        rw [List.map_set, Updates.channel_poll, ← List.map_set, List.set_getElem_self]
      rw [hsame]
  | giveBack i | pollGuard i | watch i => simp only [Consumers.step]; cases w.guard? i <;> exact List.prefix_refl _
  | setKey i _ | pollBinding i | unbind i => simp only [Consumers.step]; cases w.binding? i <;> exact List.prefix_refl _
  | _ => exact List.prefix_refl _

theorem channels_streams_run (w : Consumers ρ) (steps : List (Step ρ)) :
    w.streams.map (·.receiver.channel) <+: (w.run steps).streams.map (·.receiver.channel) := by
  induction steps generalizing w with
  | nil => exact List.prefix_refl _
  | cons s steps ih => exact (w.channels_streams_step s).trans (ih (w.step s).1)

/-- What is kept of the streams, told while they are made. -/
theorem keeping_stream {w : Consumers ρ} (before after : List (Step ρ)) {channel guard binding : Nat → Bool} {i : Nat}
    {u : Updates} (hu : (w.run before).streams[i]? = some u) :
    (w.keeping (before ++ after) channel guard binding).stream i = channel u.receiver.channel := by
  obtain ⟨more, hmore⟩ := (w.run before).channels_streams_run after
  have hget : ((w.run (before ++ after)).streams.map (·.receiver.channel))[i]? = some u.receiver.channel := by
    rw [run_append, ← hmore, List.getElem?_append_left, List.getElem?_map, hu, Option.map_some]
    rw [List.length_map]
    exact (List.getElem?_eq_some_iff.1 hu).1
  rw [List.getElem?_map] at hget
  obtain ⟨v, hv, hchannel⟩ := Option.map_eq_some_iff.1 hget
  simp only [keeping, hv, Option.any_some, hchannel]

theorem keeping_follow {w : Consumers ρ} {before after : List (Step ρ)} {channel guard binding : Nat → Bool} {i : Nat}
    {g : Guard} (hg : (w.run before).guard? i = some g) :
    (w.keeping (before ++ .follow i :: after) channel guard binding).stream (w.run before).streams.length =
      channel g.receiver.channel := by
  have hsteps : before ++ .follow i :: after = (before ++ [.follow i]) ++ after := by simp
  have hget : (w.run (before ++ [.follow i])).streams[(w.run before).streams.length]? = some (.of g) := by
    rw [run_concat, Consumers.step, hg]
    exact List.getElem?_concat_length
  rw [hsteps, keeping_stream _ _ hget]
  rfl

end Consumers

end FleetFeed.Feed
