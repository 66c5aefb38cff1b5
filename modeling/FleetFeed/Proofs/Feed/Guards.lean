import FleetFeed.Proofs.Feed.Lifecycle

/-! Who holds which guard. A guard is held from the acquire that hands it out until it is given back, and never by two;
bindings hold theirs on the way from key to key. All along, its channel is one that was opened for its key. -/
namespace FleetFeed.Feed

variable {ρ : Type}

namespace Registry

/-- The guard was taken from a channel of its key. -/
def Issued (r : Registry ρ) (g : Guard) : Prop := r.keyOf? g.receiver.channel = some g.key

theorem Issued.perform {r : Registry ρ} {g : Guard} (h : r.Issued g) (op : Operation ρ) : (r.perform op).Issued g :=
  keyOf?_perform h op

theorem Issued.performAll {r : Registry ρ} {g : Guard} (h : r.Issued g) (ops : List (Operation ρ)) :
    (r.performAll ops).Issued g :=
  performAll_induction (P := (Issued · g)) h (fun _ op hs => hs.perform op) ops

theorem Sound.issued_acquire {r : Registry ρ} (h : r.Sound) (key : String) (o : Opening ρ) :
    (r.acquire key o).1.Issued (r.acquire key o).2 := by
  cases hk : r.entry? key with
  | some e =>
    obtain ⟨he, hkey⟩ := entry?_spec hk
    rw [acquire_of_present hk, ← hkey]
    exact h.key_eq e he
  | none =>
    rw [acquire_of_absent hk]
    exact r.keyOf?_openFor_self key o

/-- An issued guard finds the entry of its channel if that is in the map at all. -/
theorem Sound.entry?_of_issued {r : Registry ρ} (h : r.Sound) {g : Guard} (hg : r.Issued g) {e : Entry}
    (he : e ∈ r.entries) (hc : e.channel = g.receiver.channel) : r.entry? g.key = some e := by
  have hk := h.key_eq e he
  rw [hc, hg] at hk
  rw [Option.some.inj hk]
  exact h.entry?_of_mem he

end Registry

/-! ### Slots -/

section Slots

variable {α β : Type} (f : β → Option α) (q : α → Bool)

/-- Filling a slot anew changes a count by what was in it and what is. -/
theorem countP_filterMap_set {l : List β} {i : Nat} {x : β} (h : l[i]? = some x) (y : β) :
    ((l.set i y).filterMap f).countP q + (f x).toList.countP q = (l.filterMap f).countP q + (f y).toList.countP q := by
  induction l generalizing i with
  | nil => simp at h
  | cons z l ih =>
    have hcons : ∀ (a : β) (l : List β),
        ((a :: l).filterMap f).countP q = (f a).toList.countP q + (l.filterMap f).countP q := by
      intro a l
      rw [List.filterMap_cons]
      cases f a with
      | none => simp
      | some b => simp [List.countP_cons, Nat.add_comm]
    cases i with
    | zero =>
      obtain rfl : z = x := by simpa using h
      rw [List.set_cons_zero, hcons, hcons]
      omega
    | succ i =>
      have := ih (by simpa using h)
      rw [List.set_cons_succ, hcons, hcons]
      omega

end Slots

namespace Consumers

/-- The guards that are still held, by the consumers themselves and by their bindings. -/
def held (w : Consumers ρ) : List Guard := w.guards.filterMap id ++ w.bindings.filterMap (·.bind Binding.guard)

/-- The guards that some operations hand out. -/
def handedOut (ds : List (Deed ρ)) : List Guard := ds.filterMap fun d => d.found.taken? d.operation

/-- The guards that some operations take back. -/
def takenBack (ds : List (Deed ρ)) : List Guard := ds.filterMap fun d => d.operation.given?

section Count

variable (w : Consumers ρ) {q : Guard → Bool}

theorem count_setGuard {i : Nat} {g : Guard} (h : w.guard? i = some g) (r : Registry ρ) (y : Option Guard) :
    ({ w with registry := r, guards := w.guards.set i y } : Consumers ρ).held.countP q + [g].countP q =
      w.held.countP q + y.toList.countP q := by
  have hget : w.guards[i]? = some (some g) := Option.join_eq_some_iff.1 h
  have := countP_filterMap_set id q hget y
  simp only [held, List.countP_append, id_eq, Option.toList_some] at this ⊢
  omega

theorem count_setBinding {i : Nat} {b : Binding ρ} (h : w.binding? i = some b) (r : Registry ρ) (y : Option (Binding ρ)) :
    ({ w with registry := r, bindings := w.bindings.set i y } : Consumers ρ).held.countP q + b.guard.toList.countP q =
      w.held.countP q + (y.bind Binding.guard).toList.countP q := by
  have hget : w.bindings[i]? = some (some b) := Option.join_eq_some_iff.1 h
  have := countP_filterMap_set (·.bind Binding.guard) q hget y
  simp only [held, List.countP_append, Option.bind_some] at this ⊢
  omega

end Count

theorem handedOut_append (xs ys : List (Deed ρ)) : handedOut (xs ++ ys) = handedOut xs ++ handedOut ys :=
  List.filterMap_append

theorem takenBack_append (xs ys : List (Deed ρ)) : takenBack (xs ++ ys) = takenBack xs ++ takenBack ys :=
  List.filterMap_append

/-- Giving a guard back, if there is one, takes it back and hands out none. -/
theorem trail_giveBack (r : Registry ρ) (g : Option Guard) :
    handedOut (r.trail (g.map .giveBack).toList) = [] ∧ takenBack (r.trail (g.map .giveBack).toList) = g.toList := by
  cases g <;> exact ⟨rfl, rfl⟩

/-- What was held and is handed out is what is held then or was taken back, guard by guard, whatever was seen through it. -/
theorem held_step (w : Consumers ρ) (s : Step ρ) {q : Guard → Bool}
    (hq : ∀ g n, q ⟨g.key, ⟨g.receiver.channel, n⟩⟩ = q g) :
    (w.step s).1.held.countP q + (takenBack (w.registry.trail (w.operations s))).countP q =
      w.held.countP q + (handedOut (w.registry.trail (w.operations s))).countP q := by
  have hpoll : ∀ (g : Guard) (r : Registry ρ), q (g.poll r).1 = q g := by
    intro g r
    simp only [Guard.poll, Receiver.poll]
    split_ifs
    · exact hq g _
    · rfl
    · rfl
  cases s with
  | acquire key o =>
    have hout : handedOut (w.registry.trail [.acquire key o]) = [(w.registry.acquire key o).2] := rfl
    have hback : takenBack (w.registry.trail [.acquire key o]) = [] := rfl
    simp only [step, operations, hout, hback, held, List.filterMap_append, List.countP_append, List.countP_nil]
    simp only [List.filterMap_cons, id_eq, List.filterMap_nil]
    omega
  | giveBack i =>
    simp only [step, operations]
    cases hi : w.guard? i with
    | none => rfl
    | some g => exact w.count_setGuard hi _ none
  | pollGuard i =>
    simp only [step, operations]
    cases hi : w.guard? i with
    | none => rfl
    | some g =>
      have := w.count_setGuard (q := q) hi w.registry (some (g.poll w.registry).1)
      simp only [Option.toList_some, List.countP_singleton, hpoll] at this
      simpa [takenBack, handedOut, Registry.trail] using this
  | watch i => simp only [step, operations]; cases w.guard? i <;> rfl
  | follow i => simp only [step, operations]; cases w.guard? i <;> rfl
  | pollStream i => simp only [step, operations]; cases w.streams[i]? <;> rfl
  | bind o => simp [step, operations, held, takenBack, handedOut, Registry.trail, Binding.new]
  | setKey i key =>
    simp only [step, operations]
    cases hi : w.binding? i with
    | none => rfl
    | some b =>
      simp only [Binding.setKey]
      split
      case isTrue =>
        have := w.count_setBinding (q := q) hi w.registry (some b)
        simpa [takenBack, handedOut, Registry.trail] using this
      case isFalse =>
        have hgive := trail_giveBack w.registry b.guard
        rw [Registry.trail_append, handedOut_append, takenBack_append, hgive.1, hgive.2, ← letGo_eq_performAll]
        cases Binding.usable key with
        | none =>
          have := w.count_setBinding (q := q) hi (b.letGo w.registry) (some { b with guard := none })
          simpa [takenBack, handedOut, Registry.trail] using this
        | some k =>
          have := w.count_setBinding (q := q) hi ((b.letGo w.registry).acquire k b.opening).1
            (some { b with guard := some ((b.letGo w.registry).acquire k b.opening).2 })
          simpa [takenBack, handedOut, Registry.trail, Registry.taken?, Operation.given?] using this
  | pollBinding i =>
    simp only [step, operations]
    cases hi : w.binding? i with
    | none => rfl
    | some b =>
      have := w.count_setBinding (q := q) hi w.registry (some (b.poll w.registry).1)
      have hb : ((b.poll w.registry).1.guard.toList).countP q = b.guard.toList.countP q := by
        cases hg : b.guard with
        | none => simp [Binding.poll, hg]
        | some g => simp [Binding.poll, hg, List.countP_singleton, hpoll]
      simp only [Option.bind_some, hb] at this
      simpa [takenBack, handedOut, Registry.trail] using this
  | unbind i =>
    simp only [step, operations]
    cases hi : w.binding? i with
    | none => rfl
    | some b =>
      have hgive := trail_giveBack w.registry b.guard
      have := w.count_setBinding (q := q) hi (b.letGo w.registry) none
      simp only [Option.bind_some, hgive.1, hgive.2]
      simpa using this
  | _ => rfl

/-! ### Every guard is issued -/

theorem mem_held_of_guard? {w : Consumers ρ} {i : Nat} {g : Guard} (h : w.guard? i = some g) : g ∈ w.held := by
  have hget : w.guards[i]? = some (some g) := Option.join_eq_some_iff.1 h
  exact List.mem_append_left _ (List.mem_filterMap.2 ⟨some g, List.mem_of_getElem? hget, rfl⟩)

theorem mem_held_of_binding? {w : Consumers ρ} {i : Nat} {b : Binding ρ} {g : Guard} (h : w.binding? i = some b)
    (hg : b.guard = some g) : g ∈ w.held := by
  have hget : w.bindings[i]? = some (some b) := Option.join_eq_some_iff.1 h
  exact List.mem_append_right _ (List.mem_filterMap.2 ⟨some b, List.mem_of_getElem? hget, hg⟩)

/-- What is handed out is issued, also after what came behind. -/
theorem issued_of_handedOut {r : Registry ρ} (h : r.Sound) {ops : List (Operation ρ)} {g : Guard}
    (hg : g ∈ handedOut (r.trail ops)) : (r.performAll ops).Issued g := by
  induction ops generalizing r with
  | nil => exact absurd hg List.not_mem_nil
  | cons op ops ih =>
    obtain ⟨d, hd, hd'⟩ := List.mem_filterMap.1 hg
    rcases List.mem_cons.1 hd with rfl | hd
    · cases op with
      | acquire key o =>
        obtain rfl := Option.some.inj hd'
        exact (h.issued_acquire key o).performAll ops
      | _ => exact absurd hd' (by simp [Registry.taken?])
    · exact ih (h.perform op) (List.mem_filterMap.2 ⟨d, hd, hd'⟩)

theorem issued_of_held (steps : List (Step ρ)) : ∀ g ∈ (start.run steps).held, (reached steps).Issued g := by
  induction steps using List.reverseRecOn with
  | nil => exact fun g hg => absurd hg List.not_mem_nil
  | append_singleton steps s ih =>
    intro g hg
    set w : Consumers ρ := start.run steps with hw
    rw [run_concat, ← hw] at hg
    have hreached : reached (steps ++ [s]) = (reached steps).performAll (w.operations s) := by
      rw [reached, run_concat, registry_step]
      rfl
    rw [hreached]
    -- it was held before, or it has just been handed out: somewhere its key and its channel count
    let q : Guard → Bool := fun x => x.key = g.key ∧ x.receiver.channel = g.receiver.channel
    have hkeep : ∀ (r : Registry ρ) (x : Guard), q x = true → r.Issued x → r.Issued g := by
      intro r x hx hr
      obtain ⟨hkey, hc⟩ := of_decide_eq_true hx
      rw [Registry.Issued, ← hkey, ← hc]
      exact hr
    have hcount := held_step w s (q := q) fun _ _ => rfl
    have hpos : 0 < (w.step s).1.held.countP q := List.countP_pos_iff.2 ⟨g, hg, by simp [q]⟩
    rcases Nat.eq_zero_or_pos (w.held.countP q) with hzero | hheld
    · have hnew : 0 < (handedOut (w.registry.trail (w.operations s))).countP q := by omega
      obtain ⟨x, hx, hqx⟩ := List.countP_pos_iff.1 hnew
      exact hkeep _ x hqx (issued_of_handedOut (sound_reached steps) hx)
    · obtain ⟨x, hx, hqx⟩ := List.countP_pos_iff.1 hheld
      exact hkeep _ x hqx ((ih x hx).performAll _)

/-- What is given back is still held at that moment. -/
theorem held_of_giveBack {w : Consumers ρ} {s : Step ρ} {d : Deed ρ} {g : Guard}
    (hd : d ∈ w.registry.trail (w.operations s)) (hg : d.operation = .giveBack g) : d.found = w.registry ∧ g ∈ w.held := by
  have hslot : ∀ x : Option Guard,
      d ∈ w.registry.trail (x.map Operation.giveBack).toList → d.found = w.registry ∧ x = some g := by
    intro x hx
    cases x with
    | none => exact absurd hx List.not_mem_nil
    | some y =>
      obtain rfl := List.mem_singleton.1 hx
      cases hg
      exact ⟨rfl, rfl⟩
  cases s with
  | giveBack i =>
    obtain ⟨hfound, hi⟩ := hslot _ hd
    exact ⟨hfound, mem_held_of_guard? hi⟩
  | unbind i =>
    obtain ⟨hfound, hi⟩ := hslot _ hd
    obtain ⟨b, hb, hbg⟩ := Option.bind_eq_some_iff.1 hi
    exact ⟨hfound, mem_held_of_binding? hb hbg⟩
  | setKey i key =>
    simp only [operations] at hd
    split at hd
    case h_1 b hb =>
      split at hd
      · exact absurd hd List.not_mem_nil
      · rw [Registry.trail_append] at hd
        rcases List.mem_append.1 hd with hd | hd
        · obtain ⟨hfound, hbg⟩ := hslot _ hd
          exact ⟨hfound, mem_held_of_binding? hb hbg⟩
        · cases hk : Binding.usable key with
          | none => rw [hk] at hd; exact absurd hd List.not_mem_nil
          | some k =>
            rw [hk] at hd
            obtain rfl := List.mem_singleton.1 hd
            cases hg
    case h_2 => exact absurd hd List.not_mem_nil
  | acquire | release | clearAll | push | letGo =>
    obtain rfl := List.mem_singleton.1 hd
    cases hg
  | _ => exact absurd hd List.not_mem_nil

theorem trail_concat (steps : List (Step ρ)) (s : Step ρ) :
    trail (steps ++ [s]) = trail steps ++ (reached steps).trail ((start.run steps).operations s) := by
  rw [trail, history_concat, Registry.trail_append, ← reached_eq_performAll]
  rfl

theorem issued_of_giveBack (steps : List (Step ρ)) :
    ∀ d ∈ trail steps, ∀ g, d.operation = .giveBack g → d.found.Issued g := by
  induction steps using List.reverseRecOn with
  | nil => exact fun d hd => absurd hd List.not_mem_nil
  | append_singleton steps s ih =>
    intro d hd g hg
    rw [trail_concat] at hd
    rcases List.mem_append.1 hd with hd | hd
    · exact ih d hd g hg
    · obtain ⟨hfound, hheld⟩ := held_of_giveBack hd hg
      rw [hfound]
      exact issued_of_held steps g hheld

end Consumers

end FleetFeed.Feed
