import FleetFeed.Feed.Consumers
import Mathlib.Data.List.Basic

/-! The slots in which consumers keep their guards and bindings. A slot is filled once, behind all others, and a step
fills no slot but its own anew. -/
namespace FleetFeed.Feed

variable {ρ : Type}

theorem getElem?_concat_of_ne {α : Type} {l : List α} {i : Nat} (h : i ≠ l.length) (x : α) : (l ++ [x])[i]? = l[i]? := by
  rw [List.getElem?_append]
  split
  case isTrue => rfl
  case isFalse hge =>
    rw [List.getElem?_eq_none (Nat.le_of_not_lt hge), List.getElem?_singleton, if_neg (by omega)]

/-- The key of the guard that a step hands out to the consumers themselves. -/
def Step.acquired? : Step ρ → Option String
  | .acquire key _ => some key
  | _ => none

theorem Registry.key_acquire (r : Registry ρ) (key : String) (o : Opening ρ) : (r.acquire key o).2.key = key := by
  unfold acquire
  cases r.entry? key <;> rfl

@[simp] theorem Receiver.channel_poll (x : Receiver) (r : Registry ρ) : (x.poll r).1.channel = x.channel := by
  unfold poll
  split_ifs <;> rfl

@[simp] theorem Guard.channel_poll (g : Guard) (r : Registry ρ) : (g.poll r).1.receiver.channel = g.receiver.channel :=
  g.receiver.channel_poll r

@[simp] theorem Updates.channel_poll (u : Updates) (r : Registry ρ) :
    (u.poll r).1.receiver.channel = u.receiver.channel := by
  unfold poll
  split
  case isTrue => exact u.receiver.channel_poll r
  case isFalse => rfl

namespace Binding

variable {b : Binding ρ} {key : Option String}

theorem setKey_of_same (h : b.key = usable key) (r : Registry ρ) : b.setKey r key = (b, r, false) := if_pos h

/-- A binding that is pointed elsewhere lets go, and acquires in the registry that this leaves. -/
theorem setKey_of_some (h : b.key ≠ usable key) {k : String} (hk : usable key = some k) (r : Registry ρ) :
    b.setKey r key =
      ({ b with guard := some ((b.letGo r).acquire k b.opening).2 }, ((b.letGo r).acquire k b.opening).1, true) := by
  rw [setKey, if_neg h, hk]

theorem setKey_of_none (h : b.key ≠ usable key) (hk : usable key = none) (r : Registry ρ) :
    b.setKey r key = ({ b with guard := none }, b.letGo r, true) := by
  rw [setKey, if_neg h, hk]

theorem key_setKey (b : Binding ρ) (r : Registry ρ) (key : Option String) : (b.setKey r key).1.key = usable key := by
  by_cases hsame : b.key = usable key
  · rw [setKey_of_same hsame, hsame]
  · cases hk : usable key with
    | none => rw [setKey_of_none hsame hk]; rfl
    | some k => rw [setKey_of_some hsame hk]; exact congrArg some (Registry.key_acquire _ k b.opening)

theorem changed_setKey (b : Binding ρ) (r : Registry ρ) (key : Option String) :
    (b.setKey r key).2.2 = !decide (b.key = usable key) := by
  by_cases hsame : b.key = usable key
  · simp [setKey_of_same hsame, hsame]
  · cases hk : usable key with
    | none => simp [setKey_of_none hsame hk, hk ▸ hsame]
    | some k => simp [setKey_of_some hsame hk, hk ▸ hsame]

theorem guard_poll (b : Binding ρ) (r : Registry ρ) : (b.poll r).1.guard = b.guard.map fun g => (g.poll r).1 := by
  unfold poll
  cases hg : b.guard <;> simp [hg]

theorem key_poll (b : Binding ρ) (r : Registry ρ) : (b.poll r).1.key = b.key := by
  unfold poll key
  cases hg : b.guard with
  | none => simp [hg]
  | some g => rfl

end Binding

namespace Consumers

theorem guard?_set (w : Consumers ρ) (r : Registry ρ) {i j : Nat} {g : Guard} (h : w.guard? j = some g)
    (y : Option Guard) :
    ({ w with registry := r, guards := w.guards.set j y } : Consumers ρ).guard? i = if j = i then y else w.guard? i := by
  have hget : w.guards[j]? = some (some g) := Option.join_eq_some_iff.1 h
  have hlt := (List.getElem?_eq_some_iff.1 hget).1
  simp only [guard?, List.getElem?_set, hlt, if_true]
  split <;> rfl

theorem binding?_set (w : Consumers ρ) (r : Registry ρ) {i j : Nat} {b : Binding ρ} (h : w.binding? j = some b)
    (y : Option (Binding ρ)) :
    ({ w with registry := r, bindings := w.bindings.set j y } : Consumers ρ).binding? i =
      if j = i then y else w.binding? i := by
  have hget : w.bindings[j]? = some (some b) := Option.join_eq_some_iff.1 h
  have hlt := (List.getElem?_eq_some_iff.1 hget).1
  simp only [binding?, List.getElem?_set, hlt, if_true]
  split <;> rfl

theorem step_setKey {w : Consumers ρ} {i : Nat} {b : Binding ρ} (h : w.binding? i = some b) (key : Option String) :
    w.step (.setKey i key) =
      ({ w with
        registry := (b.setKey w.registry key).2.1
        bindings := w.bindings.set i (some (b.setKey w.registry key).1) }, .flag (b.setKey w.registry key).2.2) := by
  rw [step, h]

/-- A binding that is pointed where it is already leaves everything as it was. -/
theorem step_setKey_of_same {w : Consumers ρ} {i : Nat} {b : Binding ρ} (h : w.binding? i = some b) {key : Option String}
    (hsame : b.key = Binding.usable key) : w.step (.setKey i key) = (w, .flag false) := by
  have hget : w.bindings[i]? = some (some b) := Option.join_eq_some_iff.1 h
  have hset : w.bindings.set i (some b) = w.bindings := by
    obtain ⟨hlt, heq⟩ := List.getElem?_eq_some_iff.1 hget
    rw [← heq, List.set_getElem_self hlt]
  rw [step_setKey h, Binding.setKey_of_same hsame, hset]

/-! ### What a step leaves in a slot -/

/-- The guard that a step leaves in a slot: it is taken then, or was there, and was moved on if it looked. -/
inductive GuardAfter (w : Consumers ρ) (i : Nat) : Step ρ → Guard → Prop where
  | taken (key : String) (o : Opening ρ) (hi : i = w.guards.length) :
    GuardAfter w i (.acquire key o) (w.registry.acquire key o).2
  | looked {g : Guard} (h : w.guard? i = some g) : GuardAfter w i (.pollGuard i) (g.poll w.registry).1
  | kept {s : Step ρ} {g : Guard} (h : w.guard? i = some g) (hlook : s ≠ .pollGuard i) : GuardAfter w i s g

/-- The stream that a step leaves in a slot. -/
inductive StreamAfter (w : Consumers ρ) (i : Nat) : Step ρ → Updates → Prop where
  | begun {j : Nat} {g : Guard} (h : w.guard? j = some g) (hi : i = w.streams.length) :
    StreamAfter w i (.follow j) (.of g)
  | looked {u : Updates} (h : w.streams[i]? = some u) : StreamAfter w i (.pollStream i) (u.poll w.registry).1
  | kept {s : Step ρ} {u : Updates} (h : w.streams[i]? = some u) (hlook : s ≠ .pollStream i) : StreamAfter w i s u

/-- The binding that a step leaves in a slot. -/
inductive BindingAfter (w : Consumers ρ) (i : Nat) : Step ρ → Binding ρ → Prop where
  | made (o : Opening ρ) (hi : i = w.bindings.length) : BindingAfter w i (.bind o) (.new o)
  | moved {b : Binding ρ} (key : Option String) (h : w.binding? i = some b) :
    BindingAfter w i (.setKey i key) (b.setKey w.registry key).1
  | looked {b : Binding ρ} (h : w.binding? i = some b) : BindingAfter w i (.pollBinding i) (b.poll w.registry).1
  | kept {s : Step ρ} {b : Binding ρ} (h : w.binding? i = some b) (hmove : ∀ key, s ≠ .setKey i key)
    (hlook : s ≠ .pollBinding i) : BindingAfter w i s b

theorem guard_after {w : Consumers ρ} {s : Step ρ} {i : Nat} {g : Guard} (h : (w.step s).1.guard? i = some g) :
    GuardAfter w i s g := by
  cases s with
  | acquire key o =>
    by_cases hi : i = w.guards.length
    · simp only [step, guard?, hi, List.getElem?_concat_length] at h
      obtain rfl := Option.some.inj h
      exact .taken key o hi
    · simp only [step, guard?, getElem?_concat_of_ne hi] at h
      exact .kept h (by simp)
  | giveBack j =>
    simp only [step] at h
    cases hj : w.guard? j with
    | none => rw [hj] at h; exact .kept h (by simp)
    | some g₀ =>
      simp only [hj, w.guard?_set _ hj] at h
      split at h
      · exact absurd h (by simp)
      · exact .kept h (by simp)
  | pollGuard j =>
    simp only [step] at h
    cases hj : w.guard? j with
    | none =>
      rw [hj] at h
      refine .kept h fun heq => ?_
      obtain rfl := Step.pollGuard.inj heq
      exact absurd (hj.symm.trans h) (by simp)
    | some g₀ =>
      simp only [hj, w.guard?_set _ hj] at h
      split at h
      case isTrue hji =>
        subst hji
        obtain rfl := Option.some.inj h
        exact .looked hj
      case isFalse hji => exact .kept h fun heq => hji (Step.pollGuard.inj heq)
  | watch j | follow j =>
    simp only [step] at h
    cases hj : w.guard? j <;> (rw [hj] at h; exact .kept h (by simp))
  | pollStream j =>
    simp only [step] at h
    cases hj : w.streams[j]? <;> (rw [hj] at h; exact .kept h (by simp))
  | setKey j _ | pollBinding j | unbind j =>
    simp only [step] at h
    cases hj : w.binding? j <;> (rw [hj] at h; exact .kept h (by simp))
  | _ => exact .kept h (by simp)

theorem stream_after {w : Consumers ρ} {s : Step ρ} {i : Nat} {u : Updates} (h : (w.step s).1.streams[i]? = some u) :
    StreamAfter w i s u := by
  cases s with
  | follow j =>
    simp only [step] at h
    cases hj : w.guard? j with
    | none => rw [hj] at h; exact .kept h (by simp)
    | some g =>
      rw [hj] at h
      by_cases hi : i = w.streams.length
      · simp only [hi, List.getElem?_concat_length] at h
        obtain rfl := Option.some.inj h
        exact .begun hj hi
      · simp only [getElem?_concat_of_ne hi] at h
        exact .kept h (by simp)
  | pollStream j =>
    simp only [step] at h
    cases hj : w.streams[j]? with
    | none =>
      rw [hj] at h
      refine .kept h fun heq => ?_
      obtain rfl := Step.pollStream.inj heq
      exact absurd (hj.symm.trans h) (by simp)
    | some u₀ =>
      have hlt := (List.getElem?_eq_some_iff.1 hj).1
      simp only [hj, List.getElem?_set, hlt, if_true] at h
      split at h
      case isTrue hji =>
        subst hji
        obtain rfl := Option.some.inj h
        exact .looked hj
      case isFalse hji => exact .kept h fun heq => hji (Step.pollStream.inj heq)
  | giveBack j | pollGuard j | watch j =>
    simp only [step] at h
    cases hj : w.guard? j <;> (rw [hj] at h; exact .kept h (by simp))
  | setKey j _ | pollBinding j | unbind j =>
    simp only [step] at h
    cases hj : w.binding? j <;> (rw [hj] at h; exact .kept h (by simp))
  | _ => exact .kept h (by simp)

theorem binding_after {w : Consumers ρ} {s : Step ρ} {i : Nat} {b : Binding ρ}
    (h : (w.step s).1.binding? i = some b) : BindingAfter w i s b := by
  cases s with
  | bind o =>
    by_cases hi : i = w.bindings.length
    · simp only [step, binding?, hi, List.getElem?_concat_length] at h
      obtain rfl := Option.some.inj h
      exact .made o hi
    · simp only [step, binding?, getElem?_concat_of_ne hi] at h
      exact .kept h (by simp) (by simp)
  | setKey j key =>
    simp only [step] at h
    cases hj : w.binding? j with
    | none =>
      rw [hj] at h
      refine .kept h (fun key' heq => ?_) (by simp)
      obtain ⟨rfl, -⟩ := Step.setKey.inj heq
      exact absurd (hj.symm.trans h) (by simp)
    | some b₀ =>
      simp only [hj, w.binding?_set _ hj] at h
      split at h
      case isTrue hji =>
        subst hji
        obtain rfl := Option.some.inj h
        exact .moved key hj
      case isFalse hji => exact .kept h (fun key' heq => hji (Step.setKey.inj heq).1) (by simp)
  | pollBinding j =>
    simp only [step] at h
    cases hj : w.binding? j with
    | none =>
      rw [hj] at h
      refine .kept h (by simp) fun heq => ?_
      obtain rfl := Step.pollBinding.inj heq
      exact absurd (hj.symm.trans h) (by simp)
    | some b₀ =>
      simp only [hj, w.binding?_set _ hj] at h
      split at h
      case isTrue hji =>
        subst hji
        obtain rfl := Option.some.inj h
        exact .looked hj
      case isFalse hji => exact .kept h (by simp) fun heq => hji (Step.pollBinding.inj heq)
  | unbind j =>
    simp only [step] at h
    cases hj : w.binding? j with
    | none => rw [hj] at h; exact .kept h (by simp) (by simp)
    | some b₀ =>
      simp only [hj, w.binding?_set _ hj] at h
      split at h
      · exact absurd h (by simp)
      · exact .kept h (by simp) (by simp)
  | giveBack j | pollGuard j | watch j | follow j =>
    simp only [step] at h
    cases hj : w.guard? j <;> (rw [hj] at h; exact .kept h (by simp) (by simp))
  | pollStream j =>
    simp only [step] at h
    cases hj : w.streams[j]? <;> (rw [hj] at h; exact .kept h (by simp) (by simp))
  | _ => exact .kept h (by simp) (by simp)

/-! ### Slots are not forgotten -/

/-- What no step makes smaller a run does not. -/
theorem le_run {f : Consumers ρ → Nat} (hf : ∀ w s, f w ≤ f (w.step s).1) (w : Consumers ρ) (steps : List (Step ρ)) :
    f w ≤ f (w.run steps) := by
  induction steps generalizing w with
  | nil => exact Nat.le_refl _
  | cons s steps ih => exact Nat.le_trans (hf w s) (ih (w.step s).1)

/-- A guard gets a slot of its own with the acquire that hands it out, and no slot is forgotten. -/
theorem length_guards_step (w : Consumers ρ) (s : Step ρ) :
    (w.step s).1.guards.length = w.guards.length + s.acquired?.toList.length := by
  cases s with
  | acquire key o => simp [step, Step.acquired?]
  | giveBack j | pollGuard j | watch j | follow j => simp only [step]; cases w.guard? j <;> simp [Step.acquired?]
  | setKey j _ | pollBinding j | unbind j => simp only [step]; cases w.binding? j <;> simp [Step.acquired?]
  | pollStream j => simp only [step]; cases w.streams[j]? <;> simp [Step.acquired?]
  | _ => rfl

theorem length_bindings_le (w : Consumers ρ) (s : Step ρ) : w.bindings.length ≤ (w.step s).1.bindings.length := by
  cases s with
  | bind o => simp [step]
  | setKey j _ | pollBinding j | unbind j => simp only [step]; cases w.binding? j <;> simp
  | giveBack j | pollGuard j | watch j | follow j => simp only [step]; cases w.guard? j <;> simp
  | pollStream j => simp only [step]; cases w.streams[j]? <;> simp
  | _ => exact Nat.le_refl _

end Consumers

end FleetFeed.Feed
