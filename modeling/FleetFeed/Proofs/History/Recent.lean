import FleetFeed.History.Series
import Mathlib.Data.List.DropRight

/-! What a series shows. A window holds the last samples of all that were pushed since it was cleared, and a series clears its window
when the container changes, so it shows the last samples of the longest stretch at the end of its past that is of one container
(`series_shows_recent_past`). -/
namespace FleetFeed.History

open Event

/-! ### Windows -/

namespace Window

variable {α : Type} {w : Window α} {past : List α}

/-- The window holds the last samples of a past, as many as it has room for. -/
structure Holds (w : Window α) (past : List α) : Prop where
  room : 0 < w.capacity
  samples : w.samples = past.rtake w.capacity

theorem length_rtake (past : List α) (n : Nat) : (past.rtake n).length = min n past.length := by
  rw [List.rtake, List.length_drop]
  omega

theorem holds_new (capacity : Nat) : (new capacity : Window α).Holds [] where
  room := Nat.le_max_right capacity 1
  samples := (List.rtake_nil _).symm

theorem Holds.clear (h : w.Holds past) : w.clear.Holds [] := ⟨h.room, (List.rtake_nil _).symm⟩

theorem Holds.length (h : w.Holds past) : w.length = min w.capacity past.length := by
  rw [Window.length, h.samples, length_rtake]

theorem Holds.latest (h : w.Holds past) : w.latest = past.getLast? := by
  obtain ⟨n, hn⟩ := Nat.exists_eq_add_of_lt h.room
  cases past using List.reverseRecOn with
  | nil => rw [Window.latest, h.samples, List.rtake_nil]
  | append_singleton past a => rw [Window.latest, h.samples, hn, List.rtake_concat_succ, List.getLast?_concat, List.getLast?_concat]

/-- A full window makes room for a sample by letting go of the first that it holds. -/
theorem Holds.push (h : w.Holds past) (a : α) : (w.push a).Holds (past ++ [a]) := by
  obtain ⟨n, hn⟩ := Nat.exists_eq_add_of_lt h.room
  rw [Nat.zero_add] at hn
  refine ⟨h.room, ?_⟩
  have hkept : (if w.samples.length = w.capacity then w.samples.drop 1 else w.samples) = past.rtake n := by
    rw [h.samples, length_rtake, hn]
    split_ifs with hfull
    · rw [List.rtake, List.drop_drop, List.rtake]
      congr 1
      omega
    · rw [List.rtake, List.rtake]
      congr 1
      omega
  calc (w.push a).samples = past.rtake n ++ [a] := congrArg (· ++ [a]) hkept
    _ = (past ++ [a]).rtake w.capacity := by rw [hn, List.rtake_concat_succ]

end Window

/-! ### The current container -/

/-- All these are of the container of the last sample. -/
def OfLast (samples these : List StatsEvent) : Prop := ∀ e ∈ these, ∀ last ∈ samples.getLast?, e.containerId = last.containerId

/-- The longest stretch at the end of the samples that is of the container of the last. -/
structure IsCurrent (samples run : List StatsEvent) : Prop where
  suffix : run <:+ samples
  ofLast : OfLast samples run
  longest : ∀ other, other <:+ samples → OfLast samples other → other <:+ run

variable {samples run : List StatsEvent} {e last : StatsEvent}

theorem isCurrent_nil : IsCurrent [] [] := ⟨List.suffix_rfl, fun _ h => absurd h List.not_mem_nil, fun _ h _ => h⟩

theorem ofLast_concat {these : List StatsEvent} : OfLast (samples ++ [e]) these ↔ ∀ f ∈ these, f.containerId = e.containerId := by
  simp only [OfLast, List.getLast?_concat, Option.mem_some_iff, forall_eq']

theorem IsCurrent.getLast? (h : IsCurrent samples run) : run.getLast? = samples.getLast? := by
  cases hlast : samples.getLast? with
  | none =>
    obtain rfl := List.getLast?_eq_none_iff.1 hlast
    rw [List.suffix_nil.1 h.suffix, List.getLast?_nil]
  | some last =>
    have halone : OfLast samples [last] := by simp [OfLast, hlast]
    exact List.singleton_suffix_iff_getLast?_eq_some.1
      (h.longest [last] (List.singleton_suffix_iff_getLast?_eq_some.2 hlast) halone)

/-- One more sample of the same container. -/
theorem IsCurrent.goesOn (h : IsCurrent samples run) (hlast : ∀ last ∈ samples.getLast?, last.containerId = e.containerId) :
    IsCurrent (samples ++ [e]) (run ++ [e]) := by
  refine ⟨List.suffix_append_self_iff.2 h.suffix, ofLast_concat.2 fun f hf => ?_, fun other hother hof => ?_⟩
  · rcases List.mem_append.1 hf with hf | hf
    · have hne : samples ≠ [] := List.ne_nil_of_mem (h.suffix.mem hf)
      have hmem := List.getLast_mem_getLast? hne
      rw [h.ofLast f hf _ hmem, hlast _ hmem]
    · rw [List.mem_singleton.1 hf]
  · rcases List.suffix_concat_iff.1 hother with rfl | ⟨these, rfl, hthese⟩
    · exact List.nil_suffix
    · refine List.suffix_append_self_iff.2 (h.longest these hthese fun f hf last hmem => ?_)
      rw [ofLast_concat.1 hof f (List.mem_append_left _ hf), hlast last hmem]

/-- A sample of another container begins anew. -/
theorem isCurrent_changed (hlast : last ∈ samples.getLast?) (hne : last.containerId ≠ e.containerId) :
    IsCurrent (samples ++ [e]) [e] := by
  refine ⟨List.suffix_append _ _, ofLast_concat.2 fun f hf => by rw [List.mem_singleton.1 hf], fun other hother hof => ?_⟩
  rcases List.suffix_concat_iff.1 hother with rfl | ⟨these, rfl, hthese⟩
  · exact List.nil_suffix
  · cases these using List.reverseRecOn with
    | nil => exact List.suffix_rfl
    | append_singleton these f =>
      have hf : samples.getLast? = some f := by
        rw [← List.singleton_suffix_iff_getLast?_eq_some]
        exact (List.suffix_append these [f]).trans hthese
      have hsame : f = last := Option.some.inj (hf.symm.trans hlast)
      exact absurd (ofLast_concat.1 hof f (by simp)) (hsame ▸ hne)

/-! ### Series -/

namespace Series

variable {s : Series}

/-- The window of the series holds the samples of the current container. -/
structure Shows (s : Series) (capacity : Nat) (samples run : List StatsEvent) : Prop where
  capacity : s.window.capacity = max capacity 1
  current : IsCurrent samples run
  holds : s.window.Holds run

theorem shows_new (capacity : Nat) : (Series.new capacity).Shows capacity [] [] := ⟨rfl, isCurrent_nil, Window.holds_new capacity⟩

theorem Shows.latest {capacity : Nat} (h : s.Shows capacity samples run) : s.latest = samples.getLast? :=
  h.holds.latest.trans h.current.getLast?

theorem Shows.record {capacity : Nat} (h : s.Shows capacity samples run) (e : StatsEvent) :
    ∃ run, (s.record e).Shows capacity (samples ++ [e]) run := by
  have hlatest : s.window.latest = samples.getLast? := h.latest
  cases hlast : samples.getLast? with
  | none =>
    have hrecord : s.record e = ⟨s.window.push e⟩ := by rw [Series.record, hlatest, hlast]
    rw [hrecord]
    exact ⟨_, h.capacity, h.current.goesOn (by simp [hlast]), h.holds.push e⟩
  | some last =>
    by_cases hsame : last.containerId = e.containerId
    · have hrecord : s.record e = ⟨s.window.push e⟩ := by simp only [Series.record, hlatest, hlast, if_pos hsame]
      rw [hrecord]
      exact ⟨_, h.capacity, h.current.goesOn (by simpa [hlast] using hsame), h.holds.push e⟩
    · have hrecord : s.record e = ⟨s.window.clear.push e⟩ := by simp only [Series.record, hlatest, hlast, if_neg hsame]
      rw [hrecord]
      exact ⟨_, h.capacity, isCurrent_changed hlast hsame, h.holds.clear.push e⟩

theorem exists_shows (capacity : Nat) (samples : List StatsEvent) :
    ∃ run, (samples.foldl record (.new capacity)).Shows capacity samples run := by
  induction samples using List.reverseRecOn with
  | nil => exact ⟨[], shows_new capacity⟩
  | append_singleton samples e ih =>
    obtain ⟨run, h⟩ := ih
    rw [List.foldl_concat]
    exact h.record e

/-- Whatever was recorded, a series shows the last samples of its current container, as many as it has room for. -/
theorem series_shows_recent_past (capacity : Nat) (samples : List StatsEvent) :
    ∃ run, IsCurrent samples run ∧
      let shown := run.rtake (max capacity 1)
      let s := samples.foldl record (.new capacity)
      s.window.samples = shown ∧ s.cpu = shown.map (·.cpuPercent) ∧ s.memory = shown.map (·.memoryPercent) ∧
      s.length = shown.length ∧ s.length = min (max capacity 1) run.length ∧
      s.latest = shown.getLast? ∧ s.latest = samples.getLast? := by
  obtain ⟨run, h⟩ := exists_shows capacity samples
  have hsamples := h.holds.samples
  rw [h.capacity] at hsamples
  have hlength := h.holds.length
  rw [h.capacity] at hlength
  refine ⟨run, h.current, hsamples, congrArg (List.map _) hsamples, congrArg (List.map _) hsamples,
    congrArg List.length hsamples, hlength, congrArg List.getLast? hsamples, h.latest⟩

end Series

end FleetFeed.History
