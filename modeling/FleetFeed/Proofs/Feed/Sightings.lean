import FleetFeed.Proofs.Feed.Observers

/-! What those who watch a cell are told. An observer is shown the newest state of its cell whenever it looks and there is
one that it was not shown; it looks in vain only if nothing was written since; and it learns that the cell is gone only
after it was shown the end. Its looks are kept with the steps before them, to be held against the states that the cell had
taken by then. -/
namespace FleetFeed.Feed

variable {ρ : Type}

namespace Poll

def shown? : Poll ρ → Option (Status ρ)
  | .ready s => some s
  | _ => none

theorem shown?_eq_some_iff {p : Poll ρ} {s : Status ρ} : p.shown? = some s ↔ p = .ready s := by
  cases p <;> simp [shown?]

end Poll

def Answer.poll? : Answer ρ → Option (Poll ρ)
  | .polled p => some p
  | _ => none

/-- A poll: the steps before it, and what it answered. -/
structure Look (ρ : Type) where
  before : List (Step ρ)
  answer : Poll ρ
  deriving DecidableEq, Repr

/-- What an observer was told since it joined the channel that it looks at now. -/
structure Sight (ρ : Type) where
  /-- The steps before the one that joined. -/
  joined : List (Step ρ)
  looks : List (Look ρ)
  deriving DecidableEq, Repr

namespace Observer

/-- What the observer has been told after one more step. -/
def next (o : Observer) (steps : List (Step ρ)) (y : Sight ρ) (s : Step ρ) : Sight ρ :=
  let w := Consumers.start.run steps
  if o.joins w s then ⟨steps, []⟩
  else if o.polls s then { y with looks := y.looks ++ ((w.step s).2.poll?.map (Look.mk steps)).toList }
  else y

def sightFrom (o : Observer) (done : List (Step ρ)) (y : Sight ρ) : List (Step ρ) → Sight ρ
  | [] => y
  | s :: steps => o.sightFrom (done ++ [s]) (o.next done y s) steps

/-- What the observer has been told after some steps. -/
def sight (o : Observer) (steps : List (Step ρ)) : Sight ρ := o.sightFrom [] ⟨[], []⟩ steps

theorem sight_concat (o : Observer) (steps : List (Step ρ)) (s : Step ρ) :
    o.sight (steps ++ [s]) = o.next steps (o.sight steps) s := by
  have hall : ∀ (xs done : List (Step ρ)) (y : Sight ρ),
      o.sightFrom done y (xs ++ [s]) = o.next (done ++ xs) (o.sightFrom done y xs) s := by
    intro xs
    induction xs with
    | nil => intro done y; rw [List.append_nil]; rfl
    | cons x xs ih => intro done y; rw [List.cons_append, sightFrom, ih, List.append_assoc]; rfl
  exact hall steps [] ⟨[], []⟩

end Observer

/-- What stands behind a part of a list can be put behind a part of that part. -/
theorem sublist_concat_of_prefix {α : Type} {xs l m : List α} {a : α} (hxs : xs.Sublist l) (hl : l <+: m)
    (hlt : l.length < m.length) (ha : m.getLast? = some a) : (xs ++ [a]).Sublist m := by
  obtain ⟨rest, rfl⟩ := hl
  have hrest : rest ≠ [] := by
    rintro rfl
    simp at hlt
  rw [List.getLast?_append_of_ne_nil _ hrest] at ha
  exact hxs.append (List.singleton_sublist.2 (List.mem_of_getLast? ha))

namespace Sight

open Consumers

/-- What the observer had been told when it had looked so often. -/
def upTo (y : Sight ρ) (n : Nat) : Sight ρ := { y with looks := y.looks.take n }

/-- The steps before the last look that showed something, else those before the observer joined. -/
def since (y : Sight ρ) : List (Step ρ) :=
  ((y.looks.filter (·.answer.shown?.isSome)).getLast?.map Look.before).getD y.joined

/-- The states that the observer was shown, in order. -/
def shown (y : Sight ρ) : List (Status ρ) := y.looks.filterMap (·.answer.shown?)

/-- How many states the cell had taken each time that the observer was shown one. -/
def marks (y : Sight ρ) (c : Nat) : List Nat :=
  (y.looks.filter (·.answer.shown?.isSome)).map fun x => (took x.before c).length

/-- What an observer may rely on. The steps that it joined with are not among those before it joined, so who opens a
channel joins it pending. -/
structure Faithful (y : Sight ρ) (o : Observer) (steps : List (Step ρ)) (c : Nat) : Prop where
  /-- Its looks come one after the other, and after it joined. -/
  in_order : (y.joined :: y.looks.map Look.before ++ [steps]).Pairwise (· <+: ·)
  /-- It is shown states that the cell took, in their order. -/
  shown_sublist : y.shown.Sublist (took steps c)
  /-- It is always shown the newest one. -/
  newest : ∀ x ∈ y.looks, ∀ s, x.answer = .ready s → (took x.before c).getLast? = some s
  /-- Between two looks that show something there is a write, so none is shown twice. -/
  increasing : (y.marks c).Pairwise (· < ·)
  /-- A guard is shown only what was written since it joined. -/
  unseen : o.isStream = false → ∀ n ∈ y.marks c, (took y.joined c).length < n
  /-- A stream is shown something at its first look. -/
  begins : o.isStream = true → ∀ x, y.looks.head? = some x → ∃ s, x.answer = .ready s
  /-- A look in vain finds nothing written since the last one that was not, or since the observer joined. -/
  in_vain : ∀ n x, y.looks[n]? = some x → x.answer = .notReady → took x.before c = took (y.upTo n).since c
  /-- A cell is gone only after its end, when nobody can write to it, and the observer was shown the end before. -/
  ended : ∀ n x, y.looks[n]? = some x → x.answer = .gone →
    .cancelled c ∈ (reached x.before).journal ∧
    (∃ d ∈ trail x.before, d.operation = .letGo c ∧ .opened c ∈ d.found.journal) ∧
    ∃ z ∈ (y.upTo n).looks, z.answer = .ready .closed

/-- One more look. -/
def tell (y : Sight ρ) (steps : List (Step ρ)) (p : Poll ρ) : Sight ρ := { y with looks := y.looks ++ [⟨steps, p⟩] }

section Tell

variable (y : Sight ρ) (steps : List (Step ρ)) (p : Poll ρ)

theorem shown_tell : (y.tell steps p).shown = y.shown ++ p.shown?.toList := by
  rw [shown, tell, List.filterMap_append, shown]
  congr 1

theorem since_tell_ready (s : Status ρ) : (y.tell steps (.ready s)).since = steps := by
  simp [since, tell, List.filter_append, Poll.shown?]

theorem marks_tell_ready (s : Status ρ) (c : Nat) :
    (y.tell steps (.ready s)).marks c = y.marks c ++ [(took steps c).length] := by
  simp [marks, tell, List.filter_append, Poll.shown?]

variable {p} in
theorem since_tell_of_none (h : p.shown? = none) : (y.tell steps p).since = y.since := by
  simp [since, tell, List.filter_append, h]

variable {p} in
theorem marks_tell_of_none (h : p.shown? = none) (c : Nat) : (y.tell steps p).marks c = y.marks c := by
  simp [marks, tell, List.filter_append, h]

theorem upTo_tell {n : Nat} (h : n ≤ y.looks.length) : (y.tell steps p).upTo n = y.upTo n := by
  simp only [upTo, tell, List.take_append_of_le_length h]

theorem upTo_length : y.upTo y.looks.length = y := by
  rw [upTo, List.take_length]

/-- A look is the new one, or an earlier one that sees what it saw. -/
theorem getElem?_tell {n : Nat} {x : Look ρ} (h : (y.tell steps p).looks[n]? = some x) :
    (y.looks[n]? = some x ∧ (y.tell steps p).upTo n = y.upTo n) ∨
      x = ⟨steps, p⟩ ∧ (y.tell steps p).upTo n = y := by
  simp only [tell] at h
  by_cases hn : n = y.looks.length
  · subst hn
    rw [List.getElem?_concat_length] at h
    exact .inr ⟨(Option.some.inj h).symm, (y.upTo_tell steps p (Nat.le_refl _)).trans y.upTo_length⟩
  · rw [getElem?_concat_of_ne hn] at h
    have hlt := (List.getElem?_eq_some_iff.1 h).1
    exact .inl ⟨h, y.upTo_tell steps p (Nat.le_of_lt hlt)⟩

end Tell

/-! ### One more step -/

namespace Faithful

variable {y : Sight ρ} {o : Observer} {steps : List (Step ρ)} {c : Nat}

theorem joined_prefix_of_mem (h : y.Faithful o steps c) {xs : List (Step ρ)}
    (hxs : xs ∈ y.looks.map Look.before ++ [steps]) : y.joined <+: xs := by
  have horder := h.in_order
  rw [List.cons_append, List.pairwise_cons] at horder
  exact horder.1 xs hxs

theorem joined_prefix (h : y.Faithful o steps c) : y.joined <+: steps := h.joined_prefix_of_mem (by simp)

theorem joined_prefix_before (h : y.Faithful o steps c) {x : Look ρ} (hx : x ∈ y.looks) : y.joined <+: x.before :=
  h.joined_prefix_of_mem (List.mem_append_left _ (List.mem_map_of_mem hx))

theorem before_prefix (h : y.Faithful o steps c) {x : Look ρ} (hx : x ∈ y.looks) : x.before <+: steps := by
  obtain ⟨-, -, hlast⟩ := List.pairwise_append.1 h.in_order
  exact hlast x.before (List.mem_cons_of_mem _ (List.mem_map_of_mem hx)) steps (List.mem_singleton_self _)

/-- The last look that showed something, or the observer was shown nothing yet. -/
theorem since_cases (y : Sight ρ) :
    (∃ x ∈ y.looks, (∃ s, x.answer = .ready s) ∧ y.since = x.before) ∨ y.shown = [] ∧ y.since = y.joined := by
  cases hlast : (y.looks.filter (·.answer.shown?.isSome)).getLast? with
  | none =>
    refine .inr ⟨?_, by rw [since, hlast]; rfl⟩
    rw [List.getLast?_eq_none_iff, List.filter_eq_nil_iff] at hlast
    rw [shown, List.filterMap_eq_nil_iff]
    intro x hx
    simpa using hlast x hx
  | some x =>
    have hmem := List.mem_of_getLast? hlast
    obtain ⟨hx, hready⟩ := List.mem_filter.1 hmem
    obtain ⟨s, hs⟩ := Option.isSome_iff_exists.1 hready
    exact .inl ⟨x, hx, ⟨s, Poll.shown?_eq_some_iff.1 hs⟩, by rw [since, hlast]; rfl⟩

theorem since_prefix (h : y.Faithful o steps c) : y.since <+: steps := by
  obtain ⟨x, hx, -, hsince⟩ | ⟨-, hsince⟩ := since_cases y
  · rw [hsince]
    exact h.before_prefix hx
  · rw [hsince]
    exact h.joined_prefix

theorem joined_prefix_since (h : y.Faithful o steps c) : y.joined <+: y.since := by
  obtain ⟨x, hx, -, hsince⟩ | ⟨-, hsince⟩ := since_cases y
  · rw [hsince]
    exact h.joined_prefix_before hx
  · exact hsince ▸ List.prefix_refl _

theorem in_order_concat (h : y.Faithful o steps c) (s : Step ρ) :
    (y.joined :: y.looks.map Look.before ++ [steps ++ [s]]).Pairwise (· <+: ·) := by
  obtain ⟨hold, -, hlast⟩ := List.pairwise_append.1 h.in_order
  refine List.pairwise_append.2 ⟨hold, List.pairwise_singleton _ _, fun a ha b hb => ?_⟩
  rw [List.mem_singleton.1 hb]
  exact (hlast a ha steps (List.mem_singleton_self _)).trans (List.prefix_append _ _)

theorem in_order_tell (h : y.Faithful o steps c) (p : Poll ρ) (s : Step ρ) :
    ((y.tell steps p).joined :: (y.tell steps p).looks.map Look.before ++ [steps ++ [s]]).Pairwise (· <+: ·) := by
  have hlooks : (y.tell steps p).joined :: (y.tell steps p).looks.map Look.before =
      y.joined :: y.looks.map Look.before ++ [steps] := by
    simp [tell]
  rw [hlooks]
  refine List.pairwise_append.2 ⟨h.in_order, List.pairwise_singleton _ _, fun a ha b hb => ?_⟩
  rw [List.mem_singleton.1 hb]
  rcases List.mem_append.1 ha with ha | ha
  · exact ((List.pairwise_append.1 h.in_order).2.2 a ha steps (List.mem_singleton_self _)).trans (List.prefix_append _ _)
  · rw [List.mem_singleton.1 ha]
    exact List.prefix_append _ _

theorem tell_ready (h : y.Faithful o steps c) (s : Step ρ) {t : Status ρ} (hlast : (took steps c).getLast? = some t)
    (hshown : (y.shown ++ [t]).Sublist (took steps c)) (hmarks : ∀ n ∈ y.marks c, n < (took steps c).length)
    (hunseen : o.isStream = false → (took y.joined c).length < (took steps c).length) :
    (y.tell steps (.ready t)).Faithful o (steps ++ [s]) c where
  in_order := h.in_order_tell _ s
  shown_sublist := by
    rw [shown_tell]
    exact hshown.trans (took_grows steps [s] c).sublist
  newest x hx t' ht := by
    rcases List.mem_append.1 hx with hx | hx
    · exact h.newest x hx t' ht
    · obtain rfl := List.mem_singleton.1 hx
      rw [hlast, (Poll.ready.inj ht : t = t')]
  increasing := by
    rw [marks_tell_ready, List.pairwise_append]
    refine ⟨h.increasing, List.pairwise_singleton _ _, fun a ha b hb => ?_⟩
    rw [List.mem_singleton.1 hb]
    exact hmarks a ha
  unseen hstream n hn := by
    rw [marks_tell_ready] at hn
    rcases List.mem_append.1 hn with hn | hn
    · exact h.unseen hstream n hn
    · rw [List.mem_singleton.1 hn]
      exact hunseen hstream
  begins hstream x hx := by
    simp only [tell, List.head?_append] at hx
    cases hhead : y.looks.head? with
    | none =>
      rw [hhead] at hx
      obtain rfl := Option.some.inj hx
      exact ⟨t, rfl⟩
    | some z =>
      rw [hhead] at hx
      obtain rfl := Option.some.inj hx
      exact h.begins hstream z hhead
  in_vain n x hx hvain := by
    rcases y.getElem?_tell steps _ hx with ⟨hold, hupTo⟩ | ⟨rfl, -⟩
    · rw [hupTo]
      exact h.in_vain n x hold hvain
    · exact absurd hvain (by simp)
  ended n x hx hgone := by
    rcases y.getElem?_tell steps _ hx with ⟨hold, hupTo⟩ | ⟨rfl, -⟩
    · rw [hupTo]
      exact h.ended n x hold hgone
    · exact absurd hgone (by simp)

theorem tell_unshown (h : y.Faithful o steps c) (s : Step ρ) {p : Poll ρ} (hp : p.shown? = none)
    (hbegun : o.isStream = true → y.looks ≠ []) (hvain : p = .notReady → took steps c = took y.since c)
    (hended : p = .gone → .cancelled c ∈ (reached steps).journal ∧
      (∃ d ∈ trail steps, d.operation = .letGo c ∧ .opened c ∈ d.found.journal) ∧
      ∃ z ∈ y.looks, z.answer = .ready .closed) :
    (y.tell steps p).Faithful o (steps ++ [s]) c where
  in_order := h.in_order_tell _ s
  shown_sublist := by
    rw [shown_tell, hp, Option.toList_none, List.append_nil]
    exact h.shown_sublist.trans (took_grows steps [s] c).sublist
  newest x hx t ht := by
    rcases List.mem_append.1 hx with hx | hx
    · exact h.newest x hx t ht
    · obtain rfl := List.mem_singleton.1 hx
      rw [Poll.shown?_eq_some_iff.2 ht] at hp
      exact absurd hp (by simp)
  increasing := by
    rw [y.marks_tell_of_none steps hp]
    exact h.increasing
  unseen := by
    rw [y.marks_tell_of_none steps hp]
    exact h.unseen
  begins hstream x hx := by
    rw [tell, List.head?_append_of_ne_nil _ (hbegun hstream)] at hx
    exact h.begins hstream x hx
  in_vain n x hx hx' := by
    rcases y.getElem?_tell steps _ hx with ⟨hold, hupTo⟩ | ⟨rfl, hupTo⟩
    · rw [hupTo]
      exact h.in_vain n x hold hx'
    · rw [hupTo]
      exact hvain hx'
  ended n x hx hx' := by
    rcases y.getElem?_tell steps _ hx with ⟨hold, hupTo⟩ | ⟨rfl, hupTo⟩
    · rw [hupTo]
      exact h.ended n x hold hx'
    · rw [hupTo]
      exact hended hx'

end Faithful

/-- What is known of an observer that looks through `u`, besides what it may rely on. -/
structure Tracked (o : Observer) (steps : List (Step ρ)) (u : Updates) (y : Sight ρ) : Prop where
  opened : u.receiver.channel < (reached steps).channels.length
  faithful : y.Faithful o steps u.receiver.channel
  unstarted : u.started = false → o.isStream = true ∧ y.looks = []
  begun : u.started = true → o.isStream = true → y.looks ≠ []
  seen : u.started = true → u.receiver.seen + 1 = (took y.since u.receiver.channel).length
  alive : u.started = true → y.shown = [] → .cancelled u.receiver.channel ∉ (reached y.joined).journal
  recent : ∀ n ∈ y.marks u.receiver.channel, n ≤ (took y.since u.receiver.channel).length
  shown_since : y.shown.Sublist (took y.since u.receiver.channel)

theorem length_channels_le (steps : List (Step ρ)) (s : Step ρ) :
    (reached steps).channels.length ≤ (reached (steps ++ [s])).channels.length := by
  rw [reached_append]
  exact Registry.length_le_performAll ..

namespace Tracked

variable {o : Observer} {steps : List (Step ρ)} {u : Updates} {y : Sight ρ}

theorem leave (h : Tracked o steps u y) (s : Step ρ) : Tracked o (steps ++ [s]) u y where
  opened := Nat.lt_of_lt_of_le h.opened (length_channels_le steps s)
  faithful := {
    h.faithful with
    in_order := h.faithful.in_order_concat s
    shown_sublist := h.faithful.shown_sublist.trans (took_grows steps [s] _).sublist }
  unstarted := h.unstarted
  begun := h.begun
  seen := h.seen
  alive := h.alive
  recent := h.recent
  shown_since := h.shown_since

/-- An observer that has just joined was told nothing yet. -/
theorem join {s : Step ρ} (hopened : u.receiver.channel < (reached (steps ++ [s])).channels.length)
    (hu : if o.isStream then u.started = false
      else u.started = true ∧ u.receiver.seen = (reached steps).versionOf u.receiver.channel ∧
        .cancelled u.receiver.channel ∉ (reached steps).journal) :
    Tracked o (steps ++ [s]) u ⟨steps, []⟩ where
  opened := hopened
  faithful := {
    in_order := by simp
    shown_sublist := List.nil_sublist _
    newest := fun x hx => absurd hx List.not_mem_nil
    increasing := List.Pairwise.nil
    unseen := fun _ n hn => absurd hn List.not_mem_nil
    begins := fun _ x hx => absurd hx (by simp)
    in_vain := fun n x hx => absurd hx (by simp)
    ended := fun n x hx => absurd hx (by simp) }
  unstarted hstarted := by
    refine ⟨?_, rfl⟩
    by_contra hstream
    rw [if_neg hstream, hstarted] at hu
    exact absurd hu.1 Bool.false_ne_true
  begun hstarted hstream := by
    rw [if_pos hstream, hstarted] at hu
    exact absurd hu.symm Bool.false_ne_true
  seen hstarted := by
    split at hu
    case isTrue => exact absurd (hstarted.symm.trans hu) (by simp)
    case isFalse =>
      rw [hu.2.1, ← length_took]
      rfl
  alive hstarted _ := by
    split at hu
    case isTrue => exact absurd (hstarted.symm.trans hu) (by simp)
    case isFalse => exact hu.2.2
  recent n hn := absurd hn List.not_mem_nil
  shown_since := List.nil_sublist _

/-- What the observer was shown last is in the past of its cell. -/
theorem took_since_prefix (h : Tracked o steps u y) :
    took y.since u.receiver.channel <+: took steps u.receiver.channel :=
  took_mono h.faithful.since_prefix _

/-- An observer that has seen the version of its cell was shown all that the cell took. -/
theorem took_since (h : Tracked o steps u y) (hstarted : u.started = true)
    (hseen : u.receiver.seen = (reached steps).versionOf u.receiver.channel) :
    took steps u.receiver.channel = took y.since u.receiver.channel := by
  have hlength : (took y.since u.receiver.channel).length = (took steps u.receiver.channel).length := by
    rw [← h.seen hstarted, hseen, length_took]
  exact (h.took_since_prefix.eq_of_length hlength).symm

/-- An observer is shown the newest state of its cell unless it has seen it. -/
theorem ready (h : Tracked o steps u y) (s : Step ρ)
    (hnew : u.started = true → u.receiver.seen ≠ (reached steps).versionOf u.receiver.channel) :
    Tracked o (steps ++ [s]) ⟨⟨u.receiver.channel, (reached steps).versionOf u.receiver.channel⟩, true⟩
      (y.tell steps (.ready ((reached steps).statusOf u.receiver.channel))) := by
  have hlast : (took steps u.receiver.channel).getLast? = some ((reached steps).statusOf u.receiver.channel) :=
    getLast?_took h.opened
  have hlt : u.started = true →
      (took y.since u.receiver.channel).length < (took steps u.receiver.channel).length := by
    intro hstarted
    refine Nat.lt_of_le_of_ne h.took_since_prefix.length_le fun heq => hnew hstarted ?_
    have hseen := h.seen hstarted
    rw [heq, length_took] at hseen
    exact Nat.succ.inj hseen
  have hshown : (y.shown ++ [(reached steps).statusOf u.receiver.channel]).Sublist (took steps u.receiver.channel) := by
    cases hstarted : u.started with
    | true => exact sublist_concat_of_prefix h.shown_since h.took_since_prefix (hlt hstarted) hlast
    | false =>
      have hnone : y.shown = [] := by rw [shown, (h.unstarted hstarted).2]; rfl
      rw [hnone]
      exact List.singleton_sublist.2 (List.mem_of_getLast? hlast)
  have hmarks : ∀ n ∈ y.marks u.receiver.channel, n < (took steps u.receiver.channel).length := by
    intro n hn
    cases hstarted : u.started with
    | true => exact Nat.lt_of_le_of_lt (h.recent n hn) (hlt hstarted)
    | false =>
      rw [marks, (h.unstarted hstarted).2] at hn
      exact absurd hn List.not_mem_nil
  have hunseen : o.isStream = false →
      (took y.joined u.receiver.channel).length < (took steps u.receiver.channel).length := by
    intro hstream
    have hstarted : u.started = true := by
      by_contra hnot
      have := (h.unstarted (Bool.eq_false_iff.2 hnot)).1
      rw [hstream] at this
      exact Bool.false_ne_true this
    exact Nat.lt_of_le_of_lt (took_mono h.faithful.joined_prefix_since _).length_le (hlt hstarted)
  exact {
    opened := Nat.lt_of_lt_of_le h.opened (length_channels_le steps s)
    faithful := h.faithful.tell_ready s hlast hshown hmarks hunseen
    unstarted := fun hfalse => absurd hfalse (by simp)
    begun := fun _ _ => by simp [tell]
    seen := fun _ => by rw [since_tell_ready, length_took]
    alive := fun _ hnone => by
      rw [shown_tell] at hnone
      exact absurd hnone (by simp [Poll.shown?])
    recent := fun n hn => by
      rw [marks_tell_ready] at hn
      rw [since_tell_ready]
      rcases List.mem_append.1 hn with hn | hn
      · exact Nat.le_of_lt (hmarks n hn)
      · exact Nat.le_of_eq (List.mem_singleton.1 hn)
    shown_since := by
      rw [shown_tell, since_tell_ready]
      exact hshown }

/-- An observer that has seen all is shown nothing, and told whether more can come. -/
theorem unshown (h : Tracked o steps u y) (s : Step ρ) (hstarted : u.started = true) {p : Poll ρ} (hp : p.shown? = none)
    (hseen : u.receiver.seen = (reached steps).versionOf u.receiver.channel)
    (hgone : p = .gone → (reached steps).isGone u.receiver.channel = true) :
    Tracked o (steps ++ [s]) u (y.tell steps p) := by
  have htook := h.took_since hstarted hseen
  refine {
    opened := Nat.lt_of_lt_of_le h.opened (length_channels_le steps s)
    faithful := h.faithful.tell_unshown s hp (h.begun hstarted) (fun _ => htook) fun hpgone => ?_
    unstarted := fun hfalse => absurd (hstarted.symm.trans hfalse) (by simp)
    begun := fun _ _ => by simp [tell]
    seen := fun _ => by rw [y.since_tell_of_none steps hp]; exact h.seen hstarted
    alive := fun _ hnone => h.alive hstarted (List.append_eq_nil_iff.1 (y.shown_tell steps p ▸ hnone)).1
    recent := by
      rw [y.marks_tell_of_none steps hp, y.since_tell_of_none steps hp]
      exact h.recent
    shown_since := by
      rw [shown_tell, hp, y.since_tell_of_none steps hp]
      simpa using h.shown_since }
  -- the last state is the end, so what showed it was a look: the observer joined before
  obtain ⟨hcancelled, hletGo⟩ := ended_of_isGone h.opened (hgone hpgone)
  refine ⟨hcancelled, hletGo, ?_⟩
  have hclosed : (took y.since u.receiver.channel).getLast? = some .closed := by
    rw [← htook, took, if_pos hcancelled, ← List.cons_append, List.getLast?_concat]
  obtain ⟨x, hx, ⟨t, ht⟩, hsince⟩ | ⟨hnone, hsince⟩ := Faithful.since_cases y
  · have hnewest := h.faithful.newest x hx t ht
    rw [← hsince, hclosed] at hnewest
    rw [← Option.some.inj hnewest] at ht
    exact ⟨x, hx, ht⟩
  · rw [hsince] at hclosed
    exact absurd (cancelled_of_closed_mem_took (List.mem_of_getLast? hclosed)) (h.alive hstarted hnone)

/-- A look, whatever it finds. -/
theorem poll (h : Tracked o steps u y) (s : Step ρ) :
    Tracked o (steps ++ [s]) (u.poll (reached steps)).1 (y.tell steps (u.poll (reached steps)).2) := by
  obtain ⟨x, started⟩ := u
  cases started with
  | false => exact h.ready s fun hfalse => absurd hfalse Bool.false_ne_true
  | true =>
    simp only [Updates.poll, Receiver.poll, if_true]
    by_cases hseen : x.seen = (reached steps).versionOf x.channel
    · rw [if_neg (not_not.2 hseen)]
      split
      case isTrue hgone => exact h.unshown s rfl rfl hseen fun _ => hgone
      case isFalse => exact h.unshown s rfl rfl hseen fun hgone => absurd hgone (by simp)
    · rw [if_pos hseen]
      exact h.ready s fun _ => hseen

end Tracked

end Sight

namespace Consumers

theorem tracked_sight (o : Observer) (steps : List (Step ρ)) {u : Updates} (h : (start.run steps).view? o = some u) :
    Sight.Tracked o steps u (o.sight steps) := by
  induction steps using List.reverseRecOn generalizing u with
  | nil => cases o <;> exact absurd h (by simp [run, start, view?, guard?, binding?])
  | append_singleton steps s ih =>
    rw [run_concat] at h
    rw [Observer.sight_concat, Observer.next]
    cases hj : o.joins (start.run steps) s with
    | true =>
      obtain ⟨hopened, hu⟩ := view_of_joins h hj
      exact .join hopened hu
    | false =>
      rw [if_neg Bool.false_ne_true]
      rcases view_step h hj with ⟨hpolls, u₀, h₀, rfl, hanswer⟩ | ⟨hpolls, h₀⟩
      · rw [hpolls, if_pos rfl, hanswer]
        exact (ih h₀).poll s
      · rw [hpolls, if_neg Bool.false_ne_true]
        exact (ih h₀).leave s

/-- Whoever watches a cell, through a guard, a stream or a binding, can rely on what it is told: it is shown the states of
the cell in their order, none twice and always the newest; it looks in vain only when there is nothing new; and it is told
that the cell is gone only after it was shown the end. -/
theorem observers_miss_nothing (steps : List (Step ρ)) (o : Observer) (u : Updates)
    (h : (start.run steps).view? o = some u) : (o.sight steps).Faithful o steps u.receiver.channel :=
  (tracked_sight o steps h).faithful

/-- A channel is opened with a value, watched by its opener, and ended; in the end nobody can write to it. -/
def watched : List (Step Nat) :=
  [.acquire "c1" ⟨[.event 1], []⟩, .pollGuard 0, .pollGuard 0, .push 0 (.event 2), .push 0 (.event 3), .pollGuard 0,
    .release "c1", .push 0 (.event 4), .letGo 0, .pollGuard 0, .pollGuard 0]

theorem watched_told :
    (start.run watched).view? (.guard 0) = some ⟨⟨0, 4⟩, true⟩ ∧
      ((Observer.guard 0).sight watched).shown = [.value 1, .value 3, .closed] ∧
      ((Observer.guard 0).sight watched).shown.Sublist (took watched 0) ∧
      took watched 0 = [.pending, .value 1, .value 2, .value 3, .closed] := by
  have h : (start.run watched).view? (.guard 0) = some ⟨⟨0, 4⟩, true⟩ := by decide
  exact ⟨h, by decide, (observers_miss_nothing watched (.guard 0) _ h).shown_sublist, by decide⟩

end Consumers

end FleetFeed.Feed
