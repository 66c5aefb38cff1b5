import FleetFeed.Proofs.Event.MergedKeys
import FleetFeed.Proofs.Feed.HubGuards

/-! Channels for several containers. Who asks for the logs of a set of containers shares the channel of whoever asked for the
same set, in whatever order and however often each was named. -/
namespace FleetFeed.Feed

open Event

/-- The containers that are really asked for. -/
def wanted (ids : List String) : List String := ids.filter fun id => !Text.allBlank id

/-- No container that is asked for has a comma in its name. -/
def CommaFree (ids : List String) : Prop := ∀ id ∈ wanted ids, ',' ∉ id.toList

/-- The same containers are asked for. -/
def SameContainers (xs ys : List String) : Prop := ∀ id, id ∈ wanted xs ↔ id ∈ wanted ys

theorem keyed_containers {ids : List String} (h : wanted ids ≠ []) :
    keyed (.containers ids) = some (.containers (wanted ids), mergedKey (wanted ids)) :=
  if_neg fun hempty => h (List.isEmpty_iff.1 hempty)

/-- Merged logs are keyed by the containers that are asked for. -/
theorem keyed_multiLog {t₀ t : Target} {key : String} (hk : keyed t₀ = some (t, key)) (hc : t.topic = .multiLog) :
    ∃ ids, t₀ = .containers ids ∧ wanted ids ≠ [] ∧ t = .containers (wanted ids) ∧ key = mergedKey (wanted ids) := by
  cases t₀ with
  | one c k => cases c <;> simp [keyed] at hk <;> simp [← hk.1, Target.topic] at hc
  | containers ids =>
    by_cases h : wanted ids = []
    · exact absurd hk (by simp [keyed, ← wanted.eq_1, h])
    · rw [keyed_containers h] at hk
      obtain ⟨rfl, rfl⟩ := Prod.mk.inj (Option.some.inj hk)
      exact ⟨ids, rfl, h, rfl, rfl⟩

namespace Audience

/-- Who asks for `t` next gets a guard of the same channel. -/
def Joins (a : Audience) (t : Target) (c : Topic) (g : Guard) : Prop :=
  ∃ g', (a.step (.acquire t)).1.guard? a.guards.length = some (c, g') ∧ g'.receiver.channel = g.receiver.channel

/-- Guards of one channel were taken for one key. -/
theorem key_eq_of_joins (url : Url) (steps : List HubStep) {i : Nat} {c : Topic} {g : Guard} {t t' : Target} {key : String}
    (hg : ((of (.new url)).run steps).guard? i = some (c, g)) (hk : keyed t = some (t', key))
    (hjoins : ((of (.new url)).run steps).Joins t c g) : g.key = key := by
  obtain ⟨g', hg', hchannel⟩ := hjoins
  have hissued := ((of (.new url)).run steps).follows_step (.acquire t) c |>.keyOf? (issued_run url steps hg)
  have hissued' := issued_run url (steps ++ [.acquire t]) (run_concat .. ▸ hg')
  rw [run_concat] at hissued'
  rw [guard?_acquire _ hk] at hg'
  obtain ⟨-, hacquired⟩ := Prod.mk.inj (Option.some.inj hg')
  have hkey : g'.key = key := hacquired ▸ Registry.key_acquire ..
  rw [Registry.Issued, hchannel, hkey] at hissued'
  exact Option.some.inj (hissued.symm.trans hissued')

/-- Who asks for the containers of a guard that its entry backs shares its channel, and nothing is opened. -/
theorem joins_of_same (url : Url) (steps : List HubStep) {g : Guard} {xs ys : List String}
    (hb : (((of (.new url)).run steps).hub.registry .multiLog).Backs g) (hkey : g.key = mergedKey (wanted xs))
    (hys : wanted ys ≠ []) (hsame : SameContainers xs ys) :
    let a := (of (.new url)).run steps
    a.Joins (.containers ys) .multiLog g ∧
      ((a.step (.acquire (.containers ys))).1.hub.registry .multiLog).journal = (a.hub.registry .multiLog).journal := by
  intro a
  obtain ⟨e, he, hchannel⟩ := Option.map_eq_some_iff.1 hb
  obtain ⟨hmem, hkey'⟩ := Registry.entry?_spec he
  have hkeyed : keyed (.containers ys) = some (.containers (wanted ys), e.key) := by
    rw [keyed_containers hys, hkey', hkey, mergedKey_eq_of_mem_iff hsame]
  obtain ⟨g', hg', -, hchannel', -, -, hjournal⟩ := acquire_joins (sound_run url steps .multiLog) hmem hkeyed rfl
  exact ⟨⟨g', hg', hchannel'.trans hchannel⟩, hjournal⟩

/-- A channel of merged logs asks for the containers of one who asked for its key. -/
theorem asks_containers (url : Url) (steps : List HubStep) {n : Nat} {key : String}
    (hkey : (((of (.new url)).run steps).hub.registry .multiLog).keyOf? n = some key) :
    ∃ ids, .acquire (.containers ids) ∈ steps ∧ wanted ids ≠ [] ∧ key = mergedKey (wanted ids) ∧
      (((of (.new url)).run steps).hub.boards .multiLog).Asks n (.containers (wanted ids)) := by
  obtain ⟨t₀, t, hmem, hk, hc, hasks⟩ := asks_run url steps hkey
  obtain ⟨ids, rfl, hids, rfl, hkey⟩ := keyed_multiLog hk hc
  exact ⟨ids, hmem, hids, hkey, hasks⟩

/-- Whoever asks for containers is handed a guard under their key. Its channel asks for the containers of a list that was
asked for with that key: for the same ones, if no name in the two lists has a comma. As long as the guard is held, a list that
shares its channel has the same key, and asks for the same containers if no name in the two lists has a comma. A list that asks
for the same containers shares it, and nothing is opened, unless the hub was cleared after the guard was taken; the hub lets
nobody release merged logs by their key. -/
theorem merged_logs_serve_their_set (url : Url) (before later : List HubStep) (xs : List String) (hxs : wanted xs ≠ []) :
    let earlier := before ++ [.acquire (.containers xs)]
    let i := ((of (.new url)).run before).guards.length
    let a := (of (.new url)).run (earlier ++ later)
    (∃ g, ((of (.new url)).run earlier).guard? i = some (.multiLog, g)) ∧
    ∀ c g, a.guard? i = some (c, g) →
      c = .multiLog ∧ g.key = mergedKey (wanted xs) ∧
      (∃ ids, .acquire (.containers ids) ∈ earlier ∧ g.key = mergedKey (wanted ids) ∧
        (a.hub.boards c).Asks g.receiver.channel (.containers (wanted ids)) ∧
        (CommaFree xs → CommaFree ids → SameContainers xs ids)) ∧
      ∀ ys, wanted ys ≠ [] →
        (a.Joins (.containers ys) c g →
          g.key = mergedKey (wanted ys) ∧ (CommaFree xs → CommaFree ys → SameContainers xs ys)) ∧
        (.clearAll ∉ later → (∀ key, .release .multiLog key ∉ earlier ++ later) → SameContainers xs ys →
          a.Joins (.containers ys) c g ∧
          ((a.step (.acquire (.containers ys))).1.hub.registry c).journal = (a.hub.registry c).journal) := by
  intro earlier i a
  have hkeyed := keyed_containers hxs
  refine ⟨⟨_, by rw [run_concat]; exact guard?_acquire _ hkeyed⟩, fun c g hg => ?_⟩
  obtain ⟨rfl, hkey, g₀, hfirst, hback, hkey₀, hchannel⟩ := guard_of_acquire url before later hkeyed hg
  refine ⟨rfl, hkey, ?_, fun ys hys => ⟨fun hjoins => ?_, fun hclear hunnamed hsame => ?_⟩⟩
  · -- the channel is the one of the acquire, and asks for what it was opened for
    have hissued := issued_run url _ hfirst
    rw [Registry.Issued, hchannel, hkey₀] at hissued
    obtain ⟨ids, hmem, hids, heq, hasks⟩ := asks_containers url earlier hissued
    exact ⟨ids, hmem, hkey.trans heq, asks_later hasks later, fun hx hy => mem_iff_of_mergedKey_eq hxs hids hx hy heq⟩
  · have heq := key_eq_of_joins url _ hg (keyed_containers hys) hjoins
    exact ⟨heq, fun hx hy => mem_iff_of_mergedKey_eq hxs hys hx hy (hkey.symm.trans heq)⟩
  · exact joins_of_same url _ (backs_later hunnamed hclear hfirst hback hg) hkey hys hsame

/-- A container with a comma in its name is asked for, then two others, and then these in another order, with a blank one between
them: the channel of the two asks for just them, and is shared. -/
theorem shuffled_set_is_shared :
    let before : List HubStep := [.acquire (.containers ["a,c"])]
    let xs := ["b", "a"]
    let ys := ["a", " ", "b"]
    let a := (of (.new Link.somewhere)).run (before ++ [.acquire (.containers xs)])
    wanted xs ≠ [] ∧ wanted ys ≠ [] ∧ SameContainers xs ys ∧ ∃ g, a.guard? 1 = some (.multiLog, g) ∧ g.key = "a,b" ∧
      (a.hub.boards .multiLog).Asks g.receiver.channel (.containers xs) ∧ a.Joins (.containers ys) .multiLog g := by
  intro before xs ys a
  have hxs : wanted xs ≠ [] := by decide
  have hys : wanted ys ≠ [] := by decide
  have hx : wanted xs = ["b", "a"] := by decide
  have hy : wanted ys = ["a", "b"] := by decide
  have hsame : SameContainers xs ys := by
    intro id
    rw [hx, hy, List.mem_pair, List.mem_pair, or_comm]
  obtain ⟨⟨g, hg⟩, hheld⟩ := merged_logs_serve_their_set Link.somewhere before [] xs hxs
  obtain ⟨-, hkey, ⟨ids, hids, hkey', hasks, -⟩, hshares⟩ := hheld _ g hg
  obtain ⟨hjoins, -⟩ := (hshares ys hys).2 List.not_mem_nil (by simp [before]) hsame
  have hpair : mergedKey (wanted xs) = "a,b" := by
    rw [mergedKey_eq_of_mem_iff hsame, hy, mergedKey_of_pairwise (by decide)]
    decide
  have hother : mergedKey (wanted ["a,c"]) = "a,c" := by decide +kernel
  -- the other list has another key
  obtain rfl | rfl : ids = ["a,c"] ∨ ids = xs := by simpa [before] using hids
  · rw [hkey, hpair, hother] at hkey'
    exact absurd hkey' (by decide)
  · exact ⟨hxs, hys, hsame, g, hg, hkey.trans hpair, hasks, hjoins⟩

/-- The hub is cleared while a guard is held, and who asks for the same container gets a channel of its own. A container with
a comma in its name shares the channel of two others. -/
theorem merged_logs_can_miss_their_set :
    (wanted ["c1"] ≠ [] ∧ ∃ g,
      ((of (.new Link.somewhere)).run [.acquire (.containers ["c1"]), .clearAll]).guard? 0 = some (.multiLog, g) ∧
      ¬ ((of (.new Link.somewhere)).run [.acquire (.containers ["c1"]), .clearAll]).Joins (.containers ["c1"]) .multiLog g) ∧
    ¬ SameContainers ["a,b"] ["a", "b"] ∧ ∃ g,
      ((of (.new Link.somewhere)).run [.acquire (.containers ["a,b"])]).guard? 0 = some (.multiLog, g) ∧
      ((of (.new Link.somewhere)).run [.acquire (.containers ["a,b"])]).Joins (.containers ["a", "b"]) .multiLog g := by
  have hcleared : ((of (.new Link.somewhere)).run [.acquire (.containers ["c1"]), .clearAll]).guard? 0 =
      some (.multiLog, ⟨"c1", 0, 0⟩) := by decide +kernel
  have hanew : (((of (.new Link.somewhere)).run [.acquire (.containers ["c1"]), .clearAll]).step
      (.acquire (.containers ["c1"]))).1.guard? 1 = some (.multiLog, ⟨"c1", 1, 0⟩) := by decide +kernel
  have hsingle : ((of (.new Link.somewhere)).run [.acquire (.containers ["a,b"])]).guard? 0 =
      some (.multiLog, ⟨"a,b", 0, 0⟩) := by decide +kernel
  have hpair : keyed (.containers ["a", "b"]) = some (.containers ["a", "b"], "a,b") := by
    have hwanted : wanted ["a", "b"] = ["a", "b"] := by decide
    have hkey : mergedKey ["a", "b"] = "a,b" := by
      rw [mergedKey_of_pairwise (by decide)]
      decide
    rw [keyed_containers (by decide), hwanted, hkey]
  have hshared : (((of (.new Link.somewhere)).run [.acquire (.containers ["a,b"])]).step
      (.acquire (.containers ["a", "b"]))).1.guard? 1 = some (.multiLog, ⟨"a,b", 0, 0⟩) :=
    (guard?_acquire _ hpair).trans (by decide +kernel)
  refine ⟨⟨by decide, _, hcleared, fun hjoins => ?_⟩, fun hsame => ?_, _, hsingle, _, hshared, rfl⟩
  · obtain ⟨g', hg', hchannel⟩ := hjoins
    obtain ⟨-, rfl⟩ := Prod.mk.inj (Option.some.inj (hanew.symm.trans hg'))
    exact absurd hchannel (by decide)
  · exact absurd ((hsame "a").2 (by decide)) (by decide)

end Audience

end FleetFeed.Feed
