import FleetFeed.Proofs.Feed.Holdings
import Mathlib.Data.Finset.Card
import Mathlib.Data.Set.List

/-! Bindings of one key that all let go of it and take it again. A channel goes with its last reference, so a new one is
opened exactly if there is a moment at which nobody holds the key; a binding that is back before the last one let go keeps
the old channel for all of them. -/
namespace FleetFeed.Feed

variable {ρ : Type}

theorem Registry.entry?_dropRef {r : Registry ρ} {key : String} {e : Entry} (h : r.entry? key = some e) :
    Registry.entry? (r.dropRef e) key = if e.refs ≤ 1 then none else some { e with refs := e.refs - 1 } := by
  obtain ⟨-, rfl⟩ := entry?_spec h
  rw [dropRef_eq]
  split
  case isTrue => exact r.entry?_remove e
  case isFalse => rw [entry?_recount, h, Option.map_some]

theorem Binding.usable_of_usable {key : Option String} {k : String} (h : usable key = some k) : usable (some k) = some k := by
  obtain ⟨-, hk⟩ := Option.filter_eq_some_iff.1 h
  rw [usable, Option.filter_some, if_pos hk]

/-- The binding that a step points somewhere. -/
def Step.moved? : Step ρ → Option Nat
  | .setKey i _ => some i
  | _ => none

namespace Consumers

/-- Some bindings let go of a key and take it again, each of them once and in any order among each other. -/
structure Rebinding (bs : Finset Nat) (key : String) (more : List (Step ρ)) : Prop where
  own : ∀ s ∈ more, ∃ i ∈ bs, s.moved? = some i
  each : ∀ i ∈ bs, more.filter (·.moved? = some i) = [.setKey i none, .setKey i (some key)]

/-- All bindings let go of the key before the first one takes it again. -/
def ClearsFirst (key : String) (more : List (Step ρ)) : Prop :=
  ∃ xs ys : List Nat, more = xs.map (.setKey · none) ++ ys.map (.setKey · (some key))

/-- The binding holds a guard of the channel, which is that of its key, and shows what the channel does. -/
def Attached (w : Consumers ρ) (i : Nat) (key : String) (c : Nat) (s : Status ρ) : Prop :=
  ∃ b g, w.binding? i = some b ∧ b.guard = some g ∧ g.key = key ∧ g.receiver.channel = c ∧ w.registry.Backs g ∧
    b.current w.registry = some s

/-! ### What is still to come -/

/-- The rest of a rebinding: those in `on` hold the key, and those of them in `back` hold it again. -/
structure Due (bs on back : Finset Nat) (key : String) (more : List (Step ρ)) : Prop where
  back_subset : back ⊆ on
  on_subset : on ⊆ bs
  own : ∀ s ∈ more, ∃ i ∈ bs, s.moved? = some i
  each : ∀ i ∈ bs, more.filter (·.moved? = some i) =
    if i ∈ back then [] else if i ∈ on then [.setKey i none, .setKey i (some key)] else [.setKey i (some key)]

variable {bs on back : Finset Nat} {key : String} {s : Step ρ} {more : List (Step ρ)}

theorem Rebinding.due (h : Rebinding bs key more) : Due bs bs ∅ key more where
  back_subset := Finset.empty_subset bs
  on_subset := Finset.Subset.refl bs
  own := h.own
  each i hi := by simpa [hi] using h.each i hi

namespace Due

/-- Nobody is missing in the end. -/
theorem back_of_nil (h : Due (ρ := ρ) bs on back key []) {i : Nat} (hi : i ∈ bs) : i ∈ back := by
  have heach := h.each i hi
  by_contra hback
  rw [if_neg hback] at heach
  split at heach <;> exact absurd heach (by simp)

/-- The next step is that of a binding that is not back: it lets go, or it takes the key again. -/
theorem next (h : Due bs on back key (s :: more)) : ∃ i ∈ bs, i ∉ back ∧
    (i ∈ on ∧ s = .setKey i none ∧ Due bs (on.erase i) back key more ∨
      i ∉ on ∧ s = .setKey i (some key) ∧ Due bs (insert i on) (insert i back) key more) := by
  obtain ⟨i, hi, hs⟩ := h.own s List.mem_cons_self
  have howns : ∀ s ∈ more, ∃ i ∈ bs, s.moved? = some i := fun t ht => h.own t (List.mem_cons_of_mem s ht)
  have heach := h.each i hi
  rw [List.filter_cons_of_pos (by simpa using hs)] at heach
  have hothers : ∀ j ∈ bs, j ≠ i → more.filter (·.moved? = some j) =
      if j ∈ back then [] else if j ∈ on then [.setKey j none, .setKey j (some key)] else [.setKey j (some key)] := by
    intro j hj hne
    rw [← h.each j hj, List.filter_cons_of_neg]
    simpa [hs] using Ne.symm hne
  have hback : i ∉ back := fun hb => absurd heach (by simp [hb])
  rw [if_neg hback] at heach
  refine ⟨i, hi, hback, ?_⟩
  by_cases hon : i ∈ on
  · rw [if_pos hon] at heach
    obtain ⟨rfl, hrest⟩ := List.cons.inj heach
    refine .inl ⟨hon, rfl, fun j hj => ?_, (Finset.erase_subset i on).trans h.on_subset, howns, fun j hj => ?_⟩
    · exact Finset.mem_erase.2 ⟨fun hji => hback (hji ▸ hj), h.back_subset hj⟩
    · by_cases hji : j = i
      · subst hji
        simpa [hback] using hrest
      · simpa [hji] using hothers j hj hji
  · rw [if_neg hon] at heach
    obtain ⟨rfl, hrest⟩ := List.cons.inj heach
    refine .inr ⟨hon, rfl, Finset.insert_subset_insert i h.back_subset, ?_, howns, fun j hj => ?_⟩
    · exact Finset.insert_subset hi h.on_subset
    · by_cases hji : j = i
      · subst hji
        simpa using hrest
      · simpa [hji] using hothers j hj hji

/-- Once all have let go they only come back. -/
theorem clearsFirst_of_none (h : Due bs ∅ ∅ key more) : ClearsFirst key more := by
  have hall : ∀ s ∈ more, s ∈ Set.range fun i : Nat => (.setKey i (some key) : Step ρ) := by
    intro s hs
    obtain ⟨i, hi, hmoved⟩ := h.own s hs
    have hmem : s ∈ more.filter (·.moved? = some i) := List.mem_filter.2 ⟨hs, by simpa using hmoved⟩
    rw [h.each i hi] at hmem
    exact ⟨i, (List.mem_singleton.1 (by simpa using hmem)).symm⟩
  obtain ⟨ys, hys⟩ : more ∈ Set.range (List.map fun i : Nat => (.setKey i (some key) : Step ρ)) := by
    rw [Set.range_list_map]
    exact hall
  exact ⟨[], ys, hys.symm⟩

/-- One that still holds the key has yet to let go of it. -/
theorem clear_mem (h : Due bs on back key more) {i : Nat} (hon : i ∈ on) (hback : i ∉ back) : .setKey i none ∈ more := by
  have heach := h.each i (h.on_subset hon)
  rw [if_neg hback, if_pos hon] at heach
  exact List.mem_of_mem_filter (heach ▸ List.mem_cons_self)

end Due

theorem clearsFirst_cons_clear (i : Nat) : ClearsFirst key (.setKey i none :: more) ↔ ClearsFirst key more := by
  constructor
  · rintro ⟨xs, ys, h⟩
    cases xs with
    | nil => cases ys <;> exact absurd h (by simp)
    | cons x xs => exact ⟨xs, ys, (List.cons.inj h).2⟩
  · rintro ⟨xs, ys, rfl⟩
    exact ⟨i :: xs, ys, rfl⟩

theorem not_clearsFirst_cons_set {i j : Nat} (hj : .setKey j none ∈ more) :
    ¬ ClearsFirst key (.setKey i (some key) :: more) := by
  rintro ⟨xs, ys, h⟩
  cases xs with
  | nil =>
    have hmem : Step.setKey j none ∈ ys.map fun y => (.setKey y (some key) : Step ρ) := by
      rw [List.map_nil, List.nil_append] at h
      exact h ▸ List.mem_cons_of_mem _ hj
    obtain ⟨y, -, hy⟩ := List.mem_map.1 hmem
    exact absurd hy (by simp)
  | cons x xs => exact absurd (List.cons.inj h).1 (by simp)

/-- A single binding cannot be back before it let go. -/
theorem Rebinding.clearsFirst_of_single {i : Nat} (h : Rebinding {i} key more) : ClearsFirst key more := by
  have hall : more.filter (·.moved? = some i) = more := List.filter_eq_self.2 fun s hs => by
    obtain ⟨j, hj, hs⟩ := h.own s hs
    simpa [Finset.mem_singleton.1 hj] using hs
  rw [← hall, h.each i (Finset.mem_singleton_self i)]
  exact ⟨[i], [i], rfl⟩

/-! ### Who shares the channel -/

/-- The bindings in `on` share the channel of the key with `others` more references, and the rest of `bs` hold nothing. There
is no entry if nobody holds the key. -/
structure Shares (bs on : Finset Nat) (others : Nat) (o : Nat → Opening ρ) (key : String) (c : Nat) (w : Consumers ρ) :
    Prop where
  entry : w.registry.entry? key = if on.card + others = 0 then none else some ⟨key, c, on.card + others⟩
  guarded : ∀ i ∈ on, ∃ g, w.binding? i = some ⟨o i, some g⟩ ∧ g.key = key ∧ g.receiver.channel = c
  bare : ∀ i ∈ bs, i ∉ on → w.binding? i = some ⟨o i, none⟩

namespace Shares

variable {others : Nat} {o : Nat → Opening ρ} {c : Nat} {w : Consumers ρ}

/-- A binding that lets go gives one reference back. -/
theorem clear (h : Shares bs on others o key c w) {i : Nat} (hi : i ∈ on) :
    Shares bs (on.erase i) others o key c (w.step (.setKey i none)).1 ∧
      (w.step (.setKey i none)).1.registry = w.registry.dropRef ⟨key, c, on.card + others⟩ := by
  obtain ⟨g, hb, hk, hc⟩ := h.guarded i hi
  have hpos : 0 < on.card := Finset.card_pos.2 ⟨i, hi⟩
  have hentry := h.entry
  rw [if_neg (by omega)] at hentry
  have hne : (⟨o i, some g⟩ : Binding ρ).key ≠ Binding.usable none := by simp [Binding.key, Binding.usable]
  have hgive : (⟨o i, some g⟩ : Binding ρ).letGo w.registry = w.registry.dropRef ⟨key, c, on.card + others⟩ :=
    Registry.giveBack_of_entry? (hk ▸ hentry) hc.symm
  simp only [step_setKey hb, Binding.setKey_of_none hne rfl, hgive]
  refine ⟨⟨?_, fun j hj => ?_, fun j hj hnot => ?_⟩, trivial⟩
  · rw [Registry.entry?_dropRef hentry, Finset.card_erase_of_mem hi]
    dsimp only
    split_ifs with hlast hzero hzero
    · rfl
    · omega
    · omega
    · rw [show on.card + others - 1 = on.card - 1 + others by omega]
  · obtain ⟨hji, hj⟩ := Finset.mem_erase.1 hj
    rw [w.binding?_set _ hb, if_neg (Ne.symm hji)]
    exact h.guarded j hj
  · rw [w.binding?_set _ hb]
    split
    case isTrue hij => rw [hij]
    case isFalse hij => exact h.bare j hj fun hon => hnot (Finset.mem_erase.2 ⟨Ne.symm hij, hon⟩)

/-- A binding that takes the key has the guard that the registry hands out, and is the only change. -/
theorem step_take (h : Shares bs on others o key c w) (hkey : Binding.usable (some key) = some key) {i : Nat}
    (hbs : i ∈ bs) (hi : i ∉ on) :
    (w.step (.setKey i (some key))).1 =
      { w with
        registry := (w.registry.acquire key (o i)).1
        bindings := w.bindings.set i (some ⟨o i, some (w.registry.acquire key (o i)).2⟩) } := by
  have hb := h.bare i hbs hi
  have hne : (⟨o i, none⟩ : Binding ρ).key ≠ Binding.usable (some key) := by simp [Binding.key, hkey]
  rw [step_setKey hb, Binding.setKey_of_some hne hkey]
  rfl

/-- A binding that takes the key joins the channel that is there, or opens one. -/
theorem take (h : Shares bs on others o key c w) (hkey : Binding.usable (some key) = some key) {i : Nat} (hbs : i ∈ bs)
    (hi : i ∉ on) {d : Nat} (hd : (w.registry.acquire key (o i)).2.receiver.channel = d)
    (hold : on.card + others ≠ 0 → d = c)
    (hentry : Registry.entry? (w.registry.acquire key (o i)).1 key = some ⟨key, d, on.card + 1 + others⟩) :
    Shares bs (insert i on) others o key d (w.step (.setKey i (some key))).1 := by
  have hb := h.bare i hbs hi
  rw [h.step_take hkey hbs hi]
  refine ⟨?_, fun j hj => ?_, fun j hj hnot => ?_⟩
  · rw [hentry, Finset.card_insert_of_notMem hi, if_neg (by omega)]
  · rw [w.binding?_set _ hb]
    split
    case isTrue hij => exact ⟨_, by rw [hij], Registry.key_acquire .., hd⟩
    case isFalse hij =>
      have hj := Finset.mem_of_mem_insert_of_ne hj (Ne.symm hij)
      rw [hold (by have := Finset.card_pos.2 ⟨j, hj⟩; omega)]
      exact h.guarded j hj
  · obtain ⟨hji, hj'⟩ := not_or.1 (Finset.mem_insert.not.1 hnot)
    rw [w.binding?_set _ hb, if_neg (Ne.symm hji)]
    exact h.bare j hj hj'

theorem join (h : Shares bs on others o key c w) (hkey : Binding.usable (some key) = some key) {i : Nat} (hbs : i ∈ bs)
    (hi : i ∉ on) (hheld : on.card + others ≠ 0) :
    Shares bs (insert i on) others o key c (w.step (.setKey i (some key))).1 ∧
      (w.step (.setKey i (some key))).1.registry = w.registry.recount key (· + 1) := by
  have hentry := h.entry
  rw [if_neg hheld] at hentry
  have hacquire := Registry.acquire_of_present hentry (o i)
  refine ⟨h.take hkey hbs hi (by rw [hacquire]) (fun _ => rfl) ?_, by rw [h.step_take hkey hbs hi, hacquire]⟩
  rw [hacquire, Registry.entry?_recount, hentry, Option.map_some, Nat.add_right_comm]

theorem openNew (h : Shares bs ∅ 0 o key c w) (hkey : Binding.usable (some key) = some key) {i : Nat} (hbs : i ∈ bs) :
    Shares bs {i} 0 o key w.registry.channels.length (w.step (.setKey i (some key))).1 ∧
      (w.step (.setKey i (some key))).1.registry = w.registry.openFor key (o i) := by
  have hentry : w.registry.entry? key = none := h.entry
  have hacquire := Registry.acquire_of_absent hentry (o i)
  have hi : i ∉ (∅ : Finset Nat) := Finset.notMem_empty i
  refine ⟨h.take hkey hbs hi (by rw [hacquire]) (fun hne => absurd rfl hne) ?_, by rw [h.step_take hkey hbs hi, hacquire]⟩
  rw [hacquire, Registry.entry?_openFor hentry]
  rfl

theorem attached (h : Shares bs on others o key c w) {i : Nat} (hi : i ∈ on) :
    Attached w i key c (w.registry.statusOf c) := by
  obtain ⟨g, hb, hk, hc⟩ := h.guarded i hi
  have hpos := Finset.card_pos.2 ⟨i, hi⟩
  have hentry := h.entry
  rw [if_neg (by omega)] at hentry
  refine ⟨_, g, hb, rfl, hk, hc, by rw [Registry.Backs, hk, hentry, hc]; rfl, ?_⟩
  rw [Binding.current, Option.map_some, Guard.current, Receiver.current, hc]

/-! ### To the end of a rebinding -/

/-- As long as somebody holds the key all the time, its channel stays what it was. -/
theorem stays (h : Shares bs on others o key c w) (hkey : Binding.usable (some key) = some key)
    (hdue : Due bs on back key more) (hheld : others + back.card ≠ 0) :
    (w.run more).registry.channels = w.registry.channels ∧ (w.run more).registry.journal = w.registry.journal ∧
      ∀ i ∈ bs, Attached (w.run more) i key c (w.registry.statusOf c) := by
  induction more generalizing w on back with
  | nil => exact ⟨rfl, rfl, fun i hi => h.attached (hdue.back_subset (hdue.back_of_nil hi))⟩
  | cons s more ih =>
    have hkeep : ∀ {w' : Consumers ρ} {on' back' : Finset Nat}, Shares bs on' others o key c w' → Due bs on' back' key more →
        others + back'.card ≠ 0 → w'.registry.channels = w.registry.channels →
        w'.registry.journal = w.registry.journal →
        (w'.run more).registry.channels = w.registry.channels ∧ (w'.run more).registry.journal = w.registry.journal ∧
          ∀ i ∈ bs, Attached (w'.run more) i key c (w.registry.statusOf c) := by
      intro w' on' back' h' hdue' hheld' hchannels hjournal
      have hstatus : w'.registry.statusOf c = w.registry.statusOf c := by rw [Registry.statusOf, hchannels]; rfl
      rw [← hchannels, ← hjournal, ← hstatus]
      exact ih h' hdue' hheld'
    obtain ⟨i, hbs, hback, ⟨hon, rfl, hdue'⟩ | ⟨hon, rfl, hdue'⟩⟩ := hdue.next
    · -- somebody else holds the key: another reference, or a binding that is back
      have hmany : ¬ on.card + others ≤ 1 := by
        have hcard := Finset.card_le_card (Finset.insert_subset hon hdue.back_subset)
        rw [Finset.card_insert_of_notMem hback] at hcard
        omega
      obtain ⟨h', hregistry⟩ := h.clear hon
      rw [Registry.dropRef_eq, if_neg hmany] at hregistry
      exact hkeep h' hdue' hheld (by rw [hregistry]; rfl) (by rw [hregistry]; rfl)
    · have hcard := Finset.card_le_card hdue.back_subset
      obtain ⟨h', hregistry⟩ := h.join hkey hbs hon (by omega)
      exact hkeep h' hdue' (by rw [Finset.card_insert_of_notMem hback]; omega) (by rw [hregistry]; rfl)
        (by rw [hregistry]; rfl)

/-- Where nobody else holds the key, a new channel is opened exactly if all bindings let go before the first one is back. -/
theorem reconnects_iff (h : Shares bs on 0 o key c w) (hkey : Binding.usable (some key) = some key)
    (hdue : Due bs on ∅ key more) (hon : on.Nonempty) :
    (ClearsFirst key more →
      (w.run more).registry.journal = w.registry.journal ++ [.cancelled c, .opened w.registry.channels.length] ∧
      ∃ j ∈ bs, ∀ i ∈ bs, Attached (w.run more) i key w.registry.channels.length
        (((o j).early.getLast?.map Push.status).getD .pending)) ∧
    (¬ ClearsFirst key more →
      (w.run more).registry.journal = w.registry.journal ∧
      ∀ i ∈ bs, Attached (w.run more) i key c (w.registry.statusOf c)) := by
  induction more generalizing w on with
  | nil =>
    obtain ⟨i, hi⟩ := hon
    exact absurd (hdue.back_of_nil (hdue.on_subset hi)) (Finset.notMem_empty i)
  | cons s more ih =>
    obtain ⟨i, hbs, hback, ⟨hi, rfl, hdue'⟩ | ⟨hi, rfl, hdue'⟩⟩ := hdue.next
    · obtain ⟨h', hregistry⟩ := h.clear hi
      set w' : Consumers ρ := (w.step (.setKey i none)).1 with hw'
      have hrun : w.run (.setKey i none :: more) = w'.run more := rfl
      rw [clearsFirst_cons_clear, hrun]
      rw [Registry.dropRef_eq] at hregistry
      by_cases hlast : on.card + 0 ≤ 1
      · -- it was the last one: the channel goes, and who is first to come back opens another
        rw [if_pos hlast, Registry.remove_eq] at hregistry
        have hnone : on.erase i = ∅ := by
          rw [← Finset.card_eq_zero, Finset.card_erase_of_mem hi]
          omega
        rw [hnone] at h' hdue'
        refine ⟨fun _ => ?_, fun hnot => absurd hdue'.clearsFirst_of_none hnot⟩
        cases more with
        | nil => exact absurd (hdue'.back_of_nil hbs) hback
        | cons s more =>
          obtain ⟨j, hj, -, ⟨hj', -, -⟩ | ⟨-, rfl, hdue''⟩⟩ := hdue'.next
          · exact absurd hj' (Finset.notMem_empty j)
          · obtain ⟨h'', hopened⟩ := h'.openNew hkey hj
            have hlength : w'.registry.channels.length = w.registry.channels.length := by
              rw [hregistry]
              exact List.length_modify ..
            obtain ⟨-, hjournal, hattached⟩ := h''.stays hkey hdue'' (by simp)
            rw [hopened, Registry.statusOf_openFor_self, hlength] at hattached
            refine ⟨?_, j, hj, hattached⟩
            have happend : ((w'.step (.setKey j (some key))).1.run more).registry.journal =
                w'.registry.journal ++ [.opened w'.registry.channels.length] := by rw [hjournal, hopened]; rfl
            refine happend.trans ?_
            rw [hlength, hregistry]
            exact List.append_assoc ..
      · rw [if_neg hlast] at hregistry
        have hnonempty : (on.erase i).Nonempty := by
          rw [← Finset.card_pos, Finset.card_erase_of_mem hi]
          omega
        have hnext := ih h' hdue' hnonempty
        rw [hregistry] at hnext
        exact hnext
    · -- one is back while another still holds the key
      obtain ⟨j, hj⟩ := hon
      have hne : j ≠ i := fun hji => hi (hji ▸ hj)
      have hclear : Step.setKey j none ∈ more :=
        hdue'.clear_mem (Finset.mem_insert_of_mem hj) (by simpa using hne)
      refine ⟨fun hfirst => absurd hfirst (not_clearsFirst_cons_set hclear), fun _ => ?_⟩
      obtain ⟨h', hregistry⟩ := h.join hkey hbs hi (by have := Finset.card_pos.2 ⟨j, hj⟩; omega)
      obtain ⟨-, hjournal, hattached⟩ := h'.stays hkey hdue' (by simp)
      rw [hregistry] at hjournal hattached
      exact ⟨hjournal, hattached⟩

end Shares

/-! ### Every rebinding -/

/-- What bindings of one key that show a failure share. -/
theorem shares_of_failed {steps : List (Step ρ)} {others : Nat} {err : ClassifiedError} (hbs : bs.Nonempty)
    (hbound : ∀ i ∈ bs, ∃ b, (start.run steps).binding? i = some b ∧ b.key = some key ∧
      b.current (reached steps) = some (.failed err))
    (hrefs : (reached steps).refCount key = bs.card + others) :
    ∃ c o, Shares bs bs others o key c (start.run steps) ∧ (reached steps).statusOf c = .failed err ∧
      c < (reached steps).channels.length ∧ Binding.usable (some key) = some key ∧
      ∀ i ∈ bs, ∃ b, (start.run steps).binding? i = some b ∧ b.opening = o i := by
  have hs := sound_reached steps
  have hguard : ∀ i ∈ bs, ∃ b g e, (start.run steps).binding? i = some b ∧ b.guard = some g ∧ g.key = key ∧
      Registry.entry? (reached steps) key = some e ∧ e.channel = g.receiver.channel ∧
      g.current (reached steps) = .failed err := by
    intro i hi
    obtain ⟨b, hb, hk, hcurrent⟩ := hbound i hi
    obtain ⟨g, hg, rfl⟩ := Option.map_eq_some_iff.1 hk
    rw [Binding.current, hg] at hcurrent
    have hfailed := Option.some.inj hcurrent
    have hissued := issued_of_held steps g (mem_held_of_binding? hb hg)
    have hl := (hs.statusOf_ne_closed_iff (Registry.lt_of_keyOf? hissued)).1 (by
      change g.current (reached steps) ≠ _
      simp [hfailed])
    obtain ⟨e, he, hc⟩ := Option.map_eq_some_iff.1 ((hs.backs_iff_listed hissued).2 hl)
    exact ⟨b, g, e, hb, hg, rfl, he, hc, hfailed⟩
  obtain ⟨i, hi⟩ := hbs
  obtain ⟨b, g, e, hb, hg, hk, he, hc, hfailed⟩ := hguard i hi
  obtain ⟨hmem, hkey⟩ := Registry.entry?_spec he
  have hcount : e.refs = bs.card + others := by rw [← hrefs, Registry.refCount, he]; rfl
  have hpos := Finset.card_pos.2 ⟨i, hi⟩
  have husable : Binding.usable (some key) = some key := by
    have hlast := (key_eq_lastKey steps).1 i b hb
    rw [Binding.key, hg, Option.map_some, hk] at hlast
    exact Binding.usable_of_usable hlast.symm
  refine ⟨e.channel, fun i => (((start.run steps).binding? i).map Binding.opening).getD ⟨[], []⟩,
    ⟨?_, ?_, ?_⟩, ?_, ?_, husable, ?_⟩
  · have hentry : e = ⟨key, e.channel, bs.card + others⟩ := by rw [← hcount, ← hkey]
    rw [if_neg (by omega)]
    exact he.trans (congrArg some hentry)
  · intro j hj
    obtain ⟨b', g', e', hb', hg', hk', he', hc', -⟩ := hguard j hj
    obtain rfl := Option.some.inj (he.symm.trans he')
    refine ⟨g', ?_, hk', hc'.symm⟩
    rw [hb', ← hg']
    rfl
  · exact fun j hj hnot => absurd hj hnot
  · rw [hc]
    exact hfailed
  · exact hs.lt_of_listed (List.mem_map_of_mem hmem)
  · intro j hj
    obtain ⟨b', _, _, hb', -⟩ := hguard j hj
    exact ⟨b', hb', by simp [hb']⟩

/-- Some bindings hold a key whose channel has failed, with `others` more references, and each lets go of it once and then
takes it again. If there are no others and all let go before the first is back, as a single one does, the channel is
cancelled and another is opened, to which all are attached in the end; it shows what opening it brought. If not, nothing is
opened, and in the end all are attached to the failed channel and show its error. -/
theorem rebinding_reconnects_iff_all_let_go (steps : List (Step ρ)) (bs : Finset Nat) (hbs : bs.Nonempty) (key : String)
    (others : Nat) (err : ClassifiedError)
    (hbound : ∀ i ∈ bs, ∃ b, (start.run steps).binding? i = some b ∧ b.key = some key ∧
      b.current (reached steps) = some (.failed err))
    (hrefs : (reached steps).refCount key = bs.card + others) (more : List (Step ρ)) (hmore : Rebinding bs key more) :
    let after := start.run (steps ++ more)
    let new := (reached steps).channels.length
    (bs.card = 1 → ClearsFirst key more) ∧
    ∃ c, Registry.entry? (reached steps) key = some ⟨key, c, bs.card + others⟩ ∧ c ≠ new ∧
      (others = 0 → ClearsFirst key more →
        after.registry.journal = (reached steps).journal ++ [.cancelled c, .opened new] ∧
        ∃ j ∈ bs, ∃ b, (start.run steps).binding? j = some b ∧
          ∀ i ∈ bs, Attached after i key new ((b.opening.early.getLast?.map Push.status).getD .pending)) ∧
      (others ≠ 0 ∨ ¬ ClearsFirst key more →
        after.registry.journal = (reached steps).journal ∧ ∀ i ∈ bs, Attached after i key c (.failed err)) := by
  intro after new
  obtain ⟨c, o, h, hfailed, hlt, hkey, hopening⟩ := shares_of_failed hbs hbound hrefs
  have hafter : after = (start.run steps).run more := run_append start steps more
  refine ⟨fun hone => ?_, c, ?_, Nat.ne_of_lt hlt, fun hothers hfirst => ?_, fun hnot => ?_⟩
  · obtain ⟨i, rfl⟩ := Finset.card_eq_one.1 hone
    exact hmore.clearsFirst_of_single
  · have hpos := Finset.card_pos.2 hbs
    have hentry := h.entry
    rw [if_neg (by omega)] at hentry
    exact hentry
  · subst hothers
    obtain ⟨hjournal, j, hj, hattached⟩ := (h.reconnects_iff hkey hmore.due hbs).1 hfirst
    obtain ⟨b, hb, ho⟩ := hopening j hj
    rw [hafter]
    exact ⟨hjournal, j, hj, b, hb, ho ▸ hattached⟩
  · rw [hafter, ← hfailed]
    by_cases hothers : others = 0
    · subst hothers
      exact (h.reconnects_iff hkey hmore.due hbs).2 (hnot.resolve_left (not_not.2 rfl))
    · exact (h.stays hkey hmore.due (by omega)).2

/-- Two bindings share a channel that breaks off. -/
def broken : List (Step Nat) :=
  [.bind ⟨[], []⟩, .bind ⟨[], []⟩, .setKey 0 (some "c1"), .setKey 1 (some "c1"), .push 0 (.error (.websocket "gone")), .letGo 0]

theorem broken_reconnects :
    let more : List (Step Nat) := [.setKey 0 none, .setKey 1 none, .setKey 1 (some "c1"), .setKey 0 (some "c1")]
    Rebinding {0, 1} "c1" more ∧ ClearsFirst "c1" more ∧ ∀ i ∈ ({0, 1} : Finset Nat),
      Attached (start.run (broken ++ more)) i "c1" 1 .pending := by
  intro more
  have hmore : Rebinding {0, 1} "c1" more := ⟨by decide, by decide⟩
  have hfirst : ClearsFirst "c1" more := ⟨[0, 1], [1, 0], rfl⟩
  have hbound : ∀ i ∈ ({0, 1} : Finset Nat), ∃ b, (start.run broken).binding? i = some b ∧ b.key = some "c1" ∧
      b.current (reached broken) = some (.failed (.websocket "gone")) := by
    intro i hi
    obtain rfl | rfl : i = 0 ∨ i = 1 := by simpa using hi
    · exact ⟨⟨⟨[], []⟩, some ⟨"c1", ⟨0, 0⟩⟩⟩, by decide, by decide, by decide⟩
    · exact ⟨⟨⟨[], []⟩, some ⟨"c1", ⟨0, 0⟩⟩⟩, by decide, by decide, by decide⟩
  obtain ⟨-, c, -, -, hopened, -⟩ := rebinding_reconnects_iff_all_let_go broken {0, 1} (by decide) "c1" 0 _ hbound
    (by decide) more hmore
  obtain ⟨-, j, hj, b, hb, hattached⟩ := hopened rfl hfirst
  refine ⟨hmore, hfirst, ?_⟩
  obtain rfl | rfl : j = 0 ∨ j = 1 := by simpa using hj
  all_goals
    obtain rfl : b = _ := Option.some.inj (hb.symm.trans (by rfl))
    exact hattached

/-- Two bindings share a channel that broke off, and the first is back before the second lets go: nothing is opened, and
both show the old error. -/
theorem broken_stays_broken :
    let more : List (Step Nat) := [.setKey 0 none, .setKey 0 (some "c1"), .setKey 1 none, .setKey 1 (some "c1")]
    let shows (w : Consumers Nat) (i : Nat) := (w.binding? i).bind Binding.key = some "c1" ∧
      ((w.binding? i).bind (·.current w.registry)) = some (.failed (.websocket "gone"))
    Rebinding {0, 1} "c1" more ∧ (reached broken).refCount "c1" = 2 ∧
      (∀ i ∈ ({0, 1} : Finset Nat), shows (start.run broken) i) ∧
      (reached (broken ++ more)).journal = (reached broken).journal ∧
      ∀ i ∈ ({0, 1} : Finset Nat), shows (start.run (broken ++ more)) i := by
  intro more shows
  exact ⟨⟨by decide, by decide⟩, by decide, by decide, by decide, by decide⟩

end Consumers

end FleetFeed.Feed
