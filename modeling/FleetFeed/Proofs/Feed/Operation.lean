import FleetFeed.Feed.Consumers
import FleetFeed.Proofs.Feed.Effect
import Mathlib.Data.List.Induction

/-! The operations on a registry that a run of its consumers comes down to, each with the registry that it found. A
binding that moves gives its old reference back before it acquires the new one; looking at a channel is no operation.
The registry of a run is what these operations make of the empty one. -/
namespace FleetFeed.Feed

variable {ρ : Type}

/-- What is done to a registry from outside. -/
inductive Operation (ρ : Type) where
  | acquire (key : String) (opening : Opening ρ)
  | giveBack (g : Guard)
  | release (key : String)
  | clearAll
  | push (channel : Nat) (p : Push ρ)
  | letGo (channel : Nat)
  deriving DecidableEq, Repr

/-- The guard that an operation takes back. -/
def Operation.given? : Operation ρ → Option Guard
  | .giveBack g => some g
  | _ => none

/-- The step that does an operation by its name, without a guard or a binding. -/
def Operation.named? : Operation ρ → Option (Step ρ)
  | .release key => some (.release key)
  | .clearAll => some .clearAll
  | .push c p => some (.push c p)
  | .letGo c => some (.letGo c)
  | .acquire .. | .giveBack .. => none

/-- An operation and the registry that it found. -/
structure Deed (ρ : Type) where
  found : Registry ρ
  operation : Operation ρ
  deriving DecidableEq, Repr

namespace Registry

def perform (r : Registry ρ) : Operation ρ → Registry ρ
  | .acquire key o => (r.acquire key o).1
  | .giveBack g => r.giveBack g
  | .release key => (r.release key).1
  | .clearAll => r.clearAll
  | .push c p => r.push c p
  | .letGo c => r.letGo c

def performAll (r : Registry ρ) (ops : List (Operation ρ)) : Registry ρ := ops.foldl perform r

/-- The operations one after the other, each with the registry that it finds. -/
def trail (r : Registry ρ) : List (Operation ρ) → List (Deed ρ)
  | [] => []
  | op :: ops => ⟨r, op⟩ :: (r.perform op).trail ops

@[simp] theorem performAll_nil (r : Registry ρ) : r.performAll [] = r := rfl

@[simp] theorem performAll_cons (r : Registry ρ) (op : Operation ρ) (ops : List (Operation ρ)) :
    r.performAll (op :: ops) = (r.perform op).performAll ops := rfl

theorem performAll_append (r : Registry ρ) (xs ys : List (Operation ρ)) :
    r.performAll (xs ++ ys) = (r.performAll xs).performAll ys := List.foldl_append

theorem trail_append (r : Registry ρ) (xs ys : List (Operation ρ)) :
    r.trail (xs ++ ys) = r.trail xs ++ (r.performAll xs).trail ys := by
  induction xs generalizing r with
  | nil => rfl
  | cons x xs ih => simp only [List.cons_append, trail, ih, performAll_cons]

theorem trail_concat (r : Registry ρ) (ops : List (Operation ρ)) (op : Operation ρ) :
    r.trail (ops ++ [op]) = r.trail ops ++ [⟨r.performAll ops, op⟩] := trail_append r ops [op]

theorem performAll_concat (r : Registry ρ) (ops : List (Operation ρ)) (op : Operation ρ) :
    r.performAll (ops ++ [op]) = (r.performAll ops).perform op := performAll_append r ops [op]

theorem operation_mem_of_trail {r : Registry ρ} {ops : List (Operation ρ)} {d : Deed ρ} (hd : d ∈ r.trail ops) :
    d.operation ∈ ops := by
  induction ops generalizing r with
  | nil => exact absurd hd List.not_mem_nil
  | cons op ops ih =>
    rcases List.mem_cons.1 hd with rfl | hd
    · exact List.mem_cons_self
    · exact List.mem_cons_of_mem _ (ih hd)

/-- What every operation keeps holds after all of them. -/
theorem performAll_induction {P : Registry ρ → Prop} {r : Registry ρ} (h : P r)
    (hstep : ∀ s op, P s → P (s.perform op)) (ops : List (Operation ρ)) : P (r.performAll ops) := by
  induction ops generalizing r with
  | nil => exact h
  | cons op ops ih => exact ih (hstep r op h)

/-! ### Who takes a reference, and who gives one back -/

theorem entry?_spec {r : Registry ρ} {key : String} {e : Entry} (h : r.entry? key = some e) :
    e ∈ r.entries ∧ e.key = key :=
  ⟨List.mem_of_find?_eq_some h, by simpa using List.find?_some h⟩

/-- The guard that an operation hands out. -/
def taken? (r : Registry ρ) : Operation ρ → Option Guard
  | .acquire key o => some (r.acquire key o).2
  | _ => none

/-- The entry that an operation gives a reference back to. -/
def hit? (r : Registry ρ) : Operation ρ → Option Entry
  | .giveBack g => (r.entry? g.key).filter (·.channel = g.receiver.channel)
  | .release key => r.entry? key
  | _ => none

theorem perform_giveBack (r : Registry ρ) (g : Guard) :
    r.perform (.giveBack g) = ((r.hit? (.giveBack g)).map r.dropRef).getD r := by
  simp only [perform, giveBack, hit?]
  cases r.entry? g.key with
  | none => rfl
  | some e => by_cases h : e.channel = g.receiver.channel <;> simp [Option.filter_some, h]

theorem perform_release (r : Registry ρ) (key : String) :
    r.perform (.release key) = ((r.hit? (.release key)).map r.dropRef).getD r := by
  simp only [perform, release, hit?]
  cases r.entry? key <;> rfl

theorem taken?_of_hit {r : Registry ρ} {op : Operation ρ} {e : Entry} (h : r.hit? op = some e) : r.taken? op = none := by
  cases op with
  | acquire key o => exact absurd h (by simp [hit?])
  | _ => rfl

theorem entry?_of_hit {r : Registry ρ} {op : Operation ρ} {e : Entry} (h : r.hit? op = some e) :
    r.entry? e.key = some e := by
  cases op with
  | giveBack g =>
    obtain ⟨hg, -⟩ := Option.filter_eq_some_iff.1 h
    rw [(entry?_spec hg).2]
    exact hg
  | release key =>
    rw [(entry?_spec h).2]
    exact h
  | _ => exact absurd h (by simp [hit?])

theorem perform_of_hit {r : Registry ρ} {op : Operation ρ} {e : Entry} (h : r.hit? op = some e) :
    r.perform op = r.dropRef e := by
  cases op with
  | giveBack g => rw [perform_giveBack, h]; rfl
  | release key => rw [perform_release, h]; rfl
  | _ => exact absurd h (by simp [hit?])

/-- What an operation can make of a registry. -/
inductive Outcome (r : Registry ρ) : Operation ρ → Registry ρ → Prop
  | joined {key : String} {o : Opening ρ} {e : Entry} (h : r.entry? key = some e) :
      Outcome r (.acquire key o) (r.recount key (· + 1))
  | opened {key : String} {o : Opening ρ} (h : r.entry? key = none) : Outcome r (.acquire key o) (r.openFor key o)
  | hit {op : Operation ρ} {e : Entry} (h : r.hit? op = some e) : Outcome r op (r.dropRef e)
  | missedGuard {g : Guard} (h : r.hit? (.giveBack g) = none) : Outcome r (.giveBack g) r
  | missedKey {key : String} (h : r.hit? (.release key) = none) : Outcome r (.release key) r
  | cleared : Outcome r .clearAll r.clearAll
  | pushed (c : Nat) (p : Push ρ) : Outcome r (.push c p) (r.push c p)
  | letGo (c : Nat) : Outcome r (.letGo c) (r.letGo c)

theorem outcome_perform (r : Registry ρ) (op : Operation ρ) : r.Outcome op (r.perform op) := by
  cases op with
  | acquire key o =>
    cases hk : r.entry? key with
    | some e => rw [perform, acquire_of_present hk]; exact .joined hk
    | none => rw [perform, acquire_of_absent hk]; exact .opened hk
  | giveBack g =>
    rw [perform_giveBack]
    cases he : r.hit? (.giveBack g) with
    | none => exact .missedGuard he
    | some e => exact .hit he
  | release key =>
    rw [perform_release]
    cases he : r.hit? (.release key) with
    | none => exact .missedKey he
    | some e => exact .hit he
  | clearAll => exact .cleared
  | push c p => exact .pushed c p
  | letGo c => exact .letGo c

/-! ### What no operation undoes -/

/-- A channel keeps its key. -/
theorem keyOf?_perform {r : Registry ρ} {c : Nat} {k : String} (h : r.keyOf? c = some k) (op : Operation ρ) :
    (r.perform op).keyOf? c = some k := by
  have hout := r.outcome_perform op
  generalize r.perform op = s at hout ⊢
  cases hout with
  | joined | missedGuard | missedKey => exact h
  | opened => exact keyOf?_openFor h _ _
  | hit => exact (r.keyOf?_dropRef _ c).trans h
  | cleared => exact (r.keyOf?_clearAll c).trans h
  | pushed d p => exact (r.keyOf?_push d c p).trans h
  | letGo d => exact (r.keyOf?_onChannel d c (f := ({ · with held := false })) fun _ => rfl).trans h

/-- What happened stays in the journal. -/
theorem journal_subset_perform (r : Registry ρ) (op : Operation ρ) : r.journal ⊆ (r.perform op).journal := by
  have hout := r.outcome_perform op
  generalize r.perform op = s at hout ⊢
  cases hout with
  | joined | missedGuard | missedKey | letGo => exact List.Subset.refl _
  | opened => exact List.subset_append_left ..
  | hit =>
    rw [dropRef_eq]
    split
    case isTrue => exact r.journal_subset_remove _
    case isFalse => exact List.Subset.refl _
  | cleared => exact journal_subset_foldl_remove r r.entries
  | pushed c p => rw [journal_push]; exact List.Subset.refl _

/-- No channel is forgotten. -/
theorem length_le_perform (r : Registry ρ) (op : Operation ρ) : r.channels.length ≤ (r.perform op).channels.length := by
  by_contra hlt
  obtain ⟨ch, hch⟩ : ∃ ch, r.channels[(r.perform op).channels.length]? = some ch :=
    ⟨_, List.getElem?_eq_getElem (by omega)⟩
  have hkey : r.keyOf? (r.perform op).channels.length = some ch.key := by
    rw [keyOf?, hch]
    rfl
  exact absurd (lt_of_keyOf? (keyOf?_perform hkey op)) (Nat.lt_irrefl _)

theorem keyOf?_performAll {r : Registry ρ} {c : Nat} {k : String} (h : r.keyOf? c = some k) (ops : List (Operation ρ)) :
    (r.performAll ops).keyOf? c = some k :=
  performAll_induction (P := fun s => s.keyOf? c = some k) h (fun _ op hs => keyOf?_perform hs op) ops

theorem length_le_performAll (r : Registry ρ) (ops : List (Operation ρ)) :
    r.channels.length ≤ (r.performAll ops).channels.length :=
  performAll_induction (P := fun s => r.channels.length ≤ s.channels.length) (Nat.le_refl _)
    (fun s op h => Nat.le_trans h (s.length_le_perform op)) ops

end Registry

namespace Consumers

/-- What a step does to the registry. -/
def operations (w : Consumers ρ) : Step ρ → List (Operation ρ)
  | .acquire key o => [.acquire key o]
  | .giveBack i => ((w.guard? i).map .giveBack).toList
  | .release key => [.release key]
  | .clearAll => [.clearAll]
  | .push c p => [.push c p]
  | .letGo c => [.letGo c]
  | .setKey i key => match w.binding? i with
    | some b =>
      if b.key = Binding.usable key then []
      else (b.guard.map .giveBack).toList ++ ((Binding.usable key).map (.acquire · b.opening)).toList
    | none => []
  | .unbind i => (((w.binding? i).bind Binding.guard).map .giveBack).toList
  | .pollGuard _ | .watch _ | .follow _ | .pollStream _ | .bind _ | .pollBinding _ => []

/-- All that some steps do to the registry, in order. -/
def history (w : Consumers ρ) : List (Step ρ) → List (Operation ρ)
  | [] => []
  | s :: steps => w.operations s ++ (w.step s).1.history steps

/-- All that a run from the start does to the registry, in order. -/
def trail (steps : List (Step ρ)) : List (Deed ρ) := Registry.empty.trail (start.history steps)

theorem letGo_eq_performAll (b : Binding ρ) (r : Registry ρ) :
    b.letGo r = r.performAll (b.guard.map .giveBack).toList := by
  unfold Binding.letGo
  cases b.guard <;> rfl

theorem registry_step (w : Consumers ρ) (s : Step ρ) :
    (w.step s).1.registry = w.registry.performAll (w.operations s) := by
  cases s with
  | giveBack i => simp only [step, operations]; cases w.guard? i <;> rfl
  | pollGuard i => simp only [step, operations]; cases w.guard? i <;> rfl
  | watch i => simp only [step, operations]; cases w.guard? i <;> rfl
  | follow i => simp only [step, operations]; cases w.guard? i <;> rfl
  | pollStream i => simp only [step, operations]; cases w.streams[i]? <;> rfl
  | pollBinding i => simp only [step, operations]; cases w.binding? i <;> rfl
  | setKey i key =>
    simp only [step, operations]
    cases w.binding? i with
    | none => rfl
    | some b =>
      simp only [Binding.setKey]
      split
      · rfl
      · rw [Registry.performAll_append, ← letGo_eq_performAll]
        cases Binding.usable key <;> rfl
  | unbind i =>
    simp only [step, operations]
    cases w.binding? i with
    | none => rfl
    | some b => exact letGo_eq_performAll b w.registry
  | _ => rfl

theorem run_append (w : Consumers ρ) (xs ys : List (Step ρ)) : w.run (xs ++ ys) = (w.run xs).run ys := List.foldl_append

theorem run_concat (w : Consumers ρ) (steps : List (Step ρ)) (s : Step ρ) :
    w.run (steps ++ [s]) = ((w.run steps).step s).1 := run_append w steps [s]

theorem history_append (w : Consumers ρ) (xs ys : List (Step ρ)) :
    w.history (xs ++ ys) = w.history xs ++ (w.run xs).history ys := by
  induction xs generalizing w with
  | nil => rfl
  | cons x xs ih => simp only [List.cons_append, history, ih, List.append_assoc]; rfl

theorem history_concat (w : Consumers ρ) (steps : List (Step ρ)) (s : Step ρ) :
    w.history (steps ++ [s]) = w.history steps ++ (w.run steps).operations s := by
  rw [history_append, history, history, List.append_nil]

/-- The operations of a run make its registry. -/
theorem registry_run (w : Consumers ρ) (steps : List (Step ρ)) :
    (w.run steps).registry = w.registry.performAll (w.history steps) := by
  induction steps generalizing w with
  | nil => rfl
  | cons s steps ih =>
    rw [history, Registry.performAll_append, ← registry_step]
    exact ih (w.step s).1

/-- The registry that a run from the start reaches. -/
def reached (steps : List (Step ρ)) : Registry ρ := (start.run steps).registry

theorem reached_eq_performAll (steps : List (Step ρ)) :
    reached steps = Registry.empty.performAll (start.history steps) := registry_run start steps

/-- Guards and bindings only acquire and give back. -/
theorem named_mem_history {w : Consumers ρ} {steps : List (Step ρ)} {op : Operation ρ} {s : Step ρ}
    (hs : op.named? = some s) (h : op ∈ w.history steps) : s ∈ steps := by
  have hgive : ∀ x : Option Guard, op ∉ (x.map Operation.giveBack).toList := by
    intro x hx
    obtain ⟨g, -, rfl⟩ := Option.map_eq_some_iff.1 (Option.mem_toList.1 hx)
    exact absurd hs (by simp [Operation.named?])
  have hacquire : ∀ (x : Option String) (o : Opening ρ), op ∉ (x.map (Operation.acquire · o)).toList := by
    intro x o hx
    obtain ⟨key, -, rfl⟩ := Option.map_eq_some_iff.1 (Option.mem_toList.1 hx)
    exact absurd hs (by simp [Operation.named?])
  induction steps generalizing w with
  | nil => exact absurd h List.not_mem_nil
  | cons x steps ih =>
    rcases List.mem_append.1 h with h | h
    · cases x with
      | release key | clearAll | push c p | letGo c =>
        obtain rfl := List.mem_singleton.1 h
        obtain rfl := Option.some.inj hs
        exact List.mem_cons_self
      | acquire key o => exact absurd h (hacquire (some key) o)
      | giveBack i | unbind i => exact absurd h (hgive _)
      | setKey i key =>
        simp only [operations] at h
        split at h
        case h_1 b hb =>
          split at h
          case isTrue => exact absurd h List.not_mem_nil
          case isFalse => exact absurd h fun hmem => (List.mem_append.1 hmem).elim (hgive _) (hacquire _ _)
        case h_2 => exact absurd h List.not_mem_nil
      | _ => exact absurd h List.not_mem_nil
    · exact List.mem_cons_of_mem _ (ih h)

/-- Only a release is one among the operations of a run. -/
theorem release_mem_history {w : Consumers ρ} {steps : List (Step ρ)} {key : String}
    (h : Operation.release key ∈ w.history steps) : Step.release key ∈ steps := named_mem_history rfl h

end Consumers

end FleetFeed.Feed
