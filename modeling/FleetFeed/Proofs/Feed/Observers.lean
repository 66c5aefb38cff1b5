import FleetFeed.Proofs.Feed.CellHistory
import FleetFeed.Proofs.Feed.Views
import FleetFeed.Proofs.Feed.Slots

/-! Who watches a cell, and what a step does to that. An observer joins a channel, looks at it again and again, and is
turned to another one or goes; every other step leaves it alone. Who joins through a guard has seen what the cell held
before the step, which is nothing yet if the step opens it. -/
namespace FleetFeed.Feed

variable {ρ : Type}

/-- Who polls a cell: a guard, a stream of states, or the guard that a binding holds. -/
inductive Observer where
  | guard (guard : Nat)
  | stream (stream : Nat)
  | binding (binding : Nat)
  deriving DecidableEq, Repr

def Observer.isStream : Observer → Bool
  | .stream _ => true
  | _ => false

namespace Answer

def isTrue : Answer ρ → Bool
  | .flag b => b
  | _ => false

end Answer

namespace Observer

/-- The step makes the observer, or turns it to another channel. -/
def joins (w : Consumers ρ) : Observer → Step ρ → Bool
  | .guard i, .acquire _ _ => i = w.guards.length
  | .stream i, .follow j => i = w.streams.length && (w.guard? j).isSome
  | .binding i, .setKey j key => i = j && (w.step (.setKey j key)).2.isTrue
  | _, _ => false

def polls : Observer → Step ρ → Bool
  | .guard i, .pollGuard j => i = j
  | .stream i, .pollStream j => i = j
  | .binding i, .pollBinding j => i = j
  | _, _ => false

end Observer

namespace Consumers

/-- What an observer looks through. A stream has not begun until it was shown the state that it finds. -/
def view? (w : Consumers ρ) : Observer → Option Updates
  | .guard i => (w.guard? i).map fun g => ⟨g.receiver, true⟩
  | .stream i => w.streams[i]?
  | .binding i => ((w.binding? i).bind Binding.guard).map fun g => ⟨g.receiver, true⟩

/-! ### Steps of an observer -/

/-- The step lets the observer look, if it is there. -/
def Watches (w : Consumers ρ) (s : Step ρ) (o : Observer) (u : Updates) : Prop :=
  o.polls s = true ∧ ∃ u₀, w.view? o = some u₀ ∧ u = (u₀.poll w.registry).1 ∧
    (w.step s).2 = .polled (u₀.poll w.registry).2

/-- The step leaves the observer alone. -/
def Leaves (w : Consumers ρ) (s : Step ρ) (o : Observer) (u : Updates) : Prop :=
  o.polls s = false ∧ w.view? o = some u

theorem guard_step {w : Consumers ρ} {s : Step ρ} {i : Nat} {u : Updates}
    (h : (w.step s).1.view? (.guard i) = some u) (hj : (Observer.guard i).joins w s = false) :
    w.Watches s (.guard i) u ∨ w.Leaves s (.guard i) u := by
  obtain ⟨g, hg, rfl⟩ := Option.map_eq_some_iff.1 h
  cases guard_after hg with
  | taken key o hi => exact absurd hj (by simp [Observer.joins, hi])
  | @looked g₀ h₀ =>
    refine .inl ⟨decide_eq_true rfl, ⟨g₀.receiver, true⟩, by rw [view?, h₀]; rfl, rfl, ?_⟩
    simp only [step, h₀]
    rfl
  | kept h₀ hlook =>
    refine .inr ⟨?_, by rw [view?, h₀]; rfl⟩
    cases s with
    | pollGuard j => exact decide_eq_false fun hij => hlook (hij ▸ rfl)
    | _ => rfl

theorem stream_step {w : Consumers ρ} {s : Step ρ} {i : Nat} {u : Updates}
    (h : (w.step s).1.view? (.stream i) = some u) (hj : (Observer.stream i).joins w s = false) :
    w.Watches s (.stream i) u ∨ w.Leaves s (.stream i) u := by
  cases stream_after h with
  | begun hg hi => exact absurd hj (by simp [Observer.joins, hi, hg])
  | @looked u₀ h₀ =>
    refine .inl ⟨decide_eq_true rfl, u₀, h₀, rfl, ?_⟩
    simp only [step, h₀]
  | kept h₀ hlook =>
    refine .inr ⟨?_, h₀⟩
    cases s with
    | pollStream j => exact decide_eq_false fun hij => hlook (hij ▸ rfl)
    | _ => rfl

theorem binding_step {w : Consumers ρ} {s : Step ρ} {i : Nat} {u : Updates}
    (h : (w.step s).1.view? (.binding i) = some u) (hj : (Observer.binding i).joins w s = false) :
    w.Watches s (.binding i) u ∨ w.Leaves s (.binding i) u := by
  obtain ⟨g, hg, rfl⟩ := Option.map_eq_some_iff.1 h
  obtain ⟨b, hb, hbg⟩ := Option.bind_eq_some_iff.1 hg
  cases binding_after hb with
  | made o hi => exact absurd hbg (by simp [Binding.new])
  | @moved b₀ key h₀ =>
    -- the key is the one that the binding has: it stays as it is
    have hchanged : (b₀.setKey w.registry key).2.2 = false := by
      simpa [Observer.joins, step, h₀, Answer.isTrue] using hj
    have hsame : b₀.key = Binding.usable key := by simpa [Binding.changed_setKey] using hchanged
    rw [Binding.setKey_of_same hsame] at hbg
    refine .inr ⟨rfl, ?_⟩
    rw [view?, h₀, Option.bind_some, hbg]
    rfl
  | @looked b₀ h₀ =>
    rw [Binding.guard_poll] at hbg
    obtain ⟨g₀, hg₀, rfl⟩ := Option.map_eq_some_iff.1 hbg
    refine .inl ⟨decide_eq_true rfl, ⟨g₀.receiver, true⟩, by rw [view?, h₀, Option.bind_some, hg₀]; rfl, rfl, ?_⟩
    simp only [step, h₀, Binding.poll, hg₀]
    rfl
  | kept h₀ hmove hlook =>
    refine .inr ⟨?_, by rw [view?, h₀, Option.bind_some, hbg]; rfl⟩
    cases s with
    | pollBinding j => exact decide_eq_false fun hij => hlook (hij ▸ rfl)
    | _ => rfl

/-- An observer that a step does not turn elsewhere looks then, or is left alone. -/
theorem view_step {w : Consumers ρ} {s : Step ρ} {o : Observer} {u : Updates} (h : (w.step s).1.view? o = some u)
    (hj : o.joins w s = false) : w.Watches s o u ∨ w.Leaves s o u := by
  cases o with
  | guard i => exact guard_step h hj
  | stream i => exact stream_step h hj
  | binding i => exact binding_step h hj

/-! ### Joining -/

/-- Who acquires has seen what the cell held before, and finds it open. -/
theorem seen_acquire {r : Registry ρ} (h : r.Sound) (key : String) (o : Opening ρ) :
    (r.acquire key o).2.receiver.seen = r.versionOf (r.acquire key o).2.receiver.channel ∧
      (r.acquire key o).1.Listed (r.acquire key o).2.receiver.channel := by
  refine ⟨?_, ?_⟩
  · cases hk : r.entry? key with
    | some e => rw [Registry.acquire_of_present hk]
    | none =>
      rw [Registry.acquire_of_absent hk, Registry.versionOf, List.getElem?_eq_none (Nat.le_refl _)]
      rfl
  · have hs : (r.acquire key o).1.Sound := h.perform (.acquire key o)
    exact (hs.backs_iff_listed (h.issued_acquire key o)).1 (r.backs_acquire key o)

/-- Giving a guard back writes no cell but the one that it ends. -/
theorem versionOf_letGo_binding {r : Registry ρ} (h : r.Sound) (b : Binding ρ) {c : Nat}
    (hc : .cancelled c ∉ (b.letGo r).journal) : Registry.versionOf (b.letGo r) c = r.versionOf c := by
  unfold Binding.letGo at hc ⊢
  cases hg : b.guard with
  | none => rfl
  | some g =>
    rw [hg] at hc
    have hversion := h.versionOf_perform (.giveBack g) c
    have hlate : (r.calls (.giveBack g)).countP (Call.landsOn c) = 0 := by
      refine Registry.countP_landsOn_of_late (fun x hx => ?_) c
      obtain ⟨_, _, hop, -⟩ | ⟨e, -, -, hlate⟩ | ⟨hop, -⟩ | ⟨hop, -⟩ := Registry.mem_calls hx
      · exact absurd hop (by simp)
      · exact (Registry.late_of_mem_lateCalls hlate).2.2.1
      · exact absurd hop (by simp)
      · exact absurd hop (by simp)
    have hafter : (r.perform (.giveBack g)).journal.count (.cancelled c) = 0 := List.count_eq_zero.2 hc
    have hbefore : r.journal.count (.cancelled c) = 0 :=
      List.count_eq_zero.2 fun hmem => hc (r.journal_subset_perform (.giveBack g) hmem)
    rw [hlate, hafter, hbefore] at hversion
    exact hversion

/-- An observer joins a channel that was opened. A guard has seen what the cell held before the step, and finds it open; a
stream has seen nothing. -/
theorem view_of_joins {steps : List (Step ρ)} {s : Step ρ} {o : Observer} {u : Updates}
    (h : ((start.run steps).step s).1.view? o = some u) (hj : o.joins (start.run steps) s = true) :
    u.receiver.channel < (reached (steps ++ [s])).channels.length ∧
      if o.isStream then u.started = false
      else u.started = true ∧ u.receiver.seen = (reached steps).versionOf u.receiver.channel ∧
        .cancelled u.receiver.channel ∉ (reached steps).journal := by
  have hs := sound_reached steps
  have hs' := sound_reached (steps ++ [s])
  have hafter : reached (steps ++ [s]) = ((start.run steps).step s).1.registry := by rw [reached, run_concat]
  set w : Consumers ρ := start.run steps with hw
  cases o with
  | guard i =>
    cases s with
    | acquire key o =>
      obtain rfl : i = w.guards.length := of_decide_eq_true hj
      obtain ⟨hseen, hlisted⟩ := seen_acquire hs key o
      have hu : u = ⟨(w.registry.acquire key o).2.receiver, true⟩ := by
        simp only [step, view?, guard?, List.getElem?_concat_length] at h
        exact (Option.some.inj h).symm
      have hl : (reached (steps ++ [.acquire key o])).Listed u.receiver.channel := by
        rw [hafter, hu]
        exact hlisted
      have hlt := hs'.lt_of_listed hl
      refine ⟨hlt, by rw [hu], by rw [hu]; exact hseen, fun hmem => ?_⟩
      exact ((hs'.cancelled_mem_iff _).1 (journal_subset_append steps _ hmem)).2 hl
    | _ => exact absurd hj (by simp [Observer.joins])
  | stream i =>
    cases s with
    | follow j =>
      simp only [Observer.joins, Bool.and_eq_true, decide_eq_true_eq] at hj
      obtain ⟨rfl, hsome⟩ := hj
      obtain ⟨g, hg⟩ := Option.isSome_iff_exists.1 hsome
      have hu : u = .of g := by
        simp only [step, hg, view?, List.getElem?_concat_length] at h
        exact (Option.some.inj h).symm
      have hissued := issued_of_held steps g (mem_held_of_guard? hg)
      have hregistry : reached (steps ++ [.follow j]) = reached steps := by
        rw [hafter, step, hg]
        rfl
      rw [hregistry, hu]
      exact ⟨Registry.lt_of_keyOf? hissued, rfl⟩
    | _ => exact absurd hj (by simp [Observer.joins])
  | binding i =>
    cases s with
    | setKey j key =>
      simp only [Observer.joins, Bool.and_eq_true, decide_eq_true_eq] at hj
      obtain ⟨rfl, hchanged⟩ := hj
      cases hb : w.binding? i with
      | none => simp [step, hb, Answer.isTrue] at hchanged
      | some b =>
        have hne : b.key ≠ Binding.usable key := by
          intro hsame
          simp [step, hb, Binding.setKey_of_same hsame, Answer.isTrue] at hchanged
        cases hk : Binding.usable key with
        | none =>
          simp only [step, hb, Binding.setKey_of_none hne hk, view?, w.binding?_set _ hb] at h
          exact absurd h (by simp)
        | some k =>
          have hletGo : (b.letGo w.registry).Sound := by
            rw [letGo_eq_performAll]
            exact hs.performAll _
          obtain ⟨hseen, hlisted⟩ := seen_acquire hletGo k b.opening
          have hu : u = ⟨((b.letGo w.registry).acquire k b.opening).2.receiver, true⟩ := by
            simp only [step, hb, Binding.setKey_of_some hne hk, view?, w.binding?_set _ hb] at h
            exact (Option.some.inj h).symm
          have hregistry : reached (steps ++ [.setKey i key]) = ((b.letGo w.registry).acquire k b.opening).1 := by
            rw [hafter, step, hb]
            simp only [Binding.setKey_of_some hne hk]
          have hl : (reached (steps ++ [.setKey i key])).Listed u.receiver.channel := by
            rw [hregistry, hu]
            exact hlisted
          have hlt := hs'.lt_of_listed hl
          have hopen : .cancelled u.receiver.channel ∉ (reached (steps ++ [.setKey i key])).journal :=
            fun hmem => ((hs'.cancelled_mem_iff _).1 hmem).2 hl
          have hopenThen : .cancelled u.receiver.channel ∉ (b.letGo w.registry).journal := fun hmem =>
            hopen (hregistry ▸ (b.letGo w.registry).journal_subset_perform (.acquire k b.opening) hmem)
          have hversion := versionOf_letGo_binding hs b hopenThen
          refine ⟨hlt, by rw [hu], ?_, fun hmem => hopen (journal_subset_append steps _ hmem)⟩
          rw [← hversion, hu]
          exact hseen
    | _ => exact absurd hj (by simp [Observer.joins])

end Consumers

end FleetFeed.Feed
