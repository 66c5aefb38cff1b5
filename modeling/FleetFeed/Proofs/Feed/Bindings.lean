import FleetFeed.Proofs.Feed.Excerpt

/-! A binding of which a part is kept: what it holds at some keys, and nothing while it is at others. It is pointed at each
key in turn as far as that is one of the kept ones, moves whenever the whole binding moves to or from such a key, and holds
there what is kept of what the whole binding holds. -/
namespace FleetFeed.Feed

variable {ρ : Type}

namespace Binding

/-- The binding without a guard that is not kept. -/
def narrow (kept : Nat → Bool) (b : Binding ρ) : Binding ρ :=
  { b with guard := (b.guard.filter (kept ·.receiver.channel)).map (Guard.renumber kept) }

theorem usable_filter (K : String → Bool) (key : Option String) : usable (key.filter K) = (usable key).filter K := by
  rw [usable, usable, Option.filter_filter, Option.filter_filter]
  congr 1
  funext k
  exact Bool.and_comm ..

section Narrow

variable {K : String → Bool} {kept : Nat → Bool} {r s : Registry ρ} {b : Binding ρ}

theorem narrow_of_kept {g : Guard} (hg : b.guard = some g) (hc : kept g.receiver.channel = true) :
    b.narrow kept = { b with guard := some (g.renumber kept) } := by
  rw [narrow, hg, Option.filter_some, if_pos hc, Option.map_some]

theorem narrow_of_omitted {g : Guard} (hg : b.guard = some g) (hc : kept g.receiver.channel = false) :
    b.narrow kept = { b with guard := none } := by
  rw [narrow, hg, Option.filter_some, if_neg (by simp [hc]), Option.map_none]

theorem narrow_of_none (hg : b.guard = none) : b.narrow kept = { b with guard := none } := by
  rw [narrow, hg, Option.filter_none, Option.map_none]

theorem giveBack_narrow (K : String → Bool) (kept : Nat → Bool) (b : Binding ρ) :
    (((b.narrow kept).guard.map .giveBack).toList : List (Operation ρ)) =
      (b.guard.map .giveBack).toList.filterMap (Operation.narrow K kept) := by
  cases hg : b.guard with
  | none => rw [narrow_of_none hg]; rfl
  | some g =>
    cases hc : kept g.receiver.channel with
    | true => rw [narrow_of_kept hg hc]; simp [Operation.narrow, hc]
    | false => rw [narrow_of_omitted hg hc]; simp [Operation.narrow, hc]

variable (hb : ∀ g, b.guard = some g → kept g.receiver.channel = K g.key)
include hb

theorem key_narrow : (b.narrow kept).key = b.key.filter K := by
  unfold key
  cases hg : b.guard with
  | none => rw [narrow_of_none hg]; rfl
  | some g =>
    have hK := hb g hg
    rw [Option.map_some, Option.filter_some, ← hK]
    cases hc : kept g.receiver.channel with
    | true => rw [narrow_of_kept hg hc]; rfl
    | false => rw [narrow_of_omitted hg hc]; rfl

/-- What holds another key holds nothing here. -/
theorem narrow_of_key (hk : b.key.filter K = none) : b.narrow kept = { b with guard := none } := by
  have hkey := key_narrow hb
  rw [hk, key, Option.map_eq_none_iff] at hkey
  rw [← hkey]
  rfl

/-- A binding that stays, or moves among the other keys, is seen to stay; any other move is seen as one. -/
theorem moves_narrow (key : Option String) :
    (if (b.narrow kept).key = usable (key.filter K) then []
      else (((b.narrow kept).guard.map .giveBack).toList : List (Operation ρ)) ++
        ((usable (key.filter K)).map (.acquire · b.opening)).toList) =
      (if b.key = usable key then []
        else ((b.guard.map .giveBack).toList : List (Operation ρ)) ++
          ((usable key).map (.acquire · b.opening)).toList).filterMap (Operation.narrow K kept) := by
  have hacquire : (((usable (key.filter K)).map (.acquire · b.opening)).toList : List (Operation ρ)) =
      ((usable key).map (.acquire · b.opening)).toList.filterMap (Operation.narrow K kept) := by
    rw [usable_filter]
    cases usable key with
    | none => rfl
    | some k => cases hK : K k <;> simp [Operation.narrow, Option.filter_some, hK]
  rw [key_narrow hb, usable_filter]
  by_cases hsame : b.key = usable key
  · rw [if_pos hsame, if_pos (by rw [hsame])]
    rfl
  · rw [if_neg hsame, List.filterMap_append, ← giveBack_narrow, ← hacquire, usable_filter]
    split
    case isFalse => rfl
    case isTrue hsame' =>
      cases hk : (usable key).filter K with
      | none => rw [narrow_of_key hb (hsame'.trans hk)]; rfl
      | some k =>
        have hkey := (Option.filter_eq_some_iff.1 (hsame'.trans hk)).1
        exact absurd (hkey.trans (Option.filter_eq_some_iff.1 hk).1.symm) hsame

variable (h : Registry.Excerpt K kept r s)
include h

theorem letGo_narrow : Registry.Excerpt K kept (b.letGo r) ((b.narrow kept).letGo s) := by
  unfold letGo
  cases hg : b.guard with
  | none => rw [narrow_of_none hg]; exact h
  | some g =>
    have hgive := h.giveBack (g := g) fun hc => (hb g hg).symm.trans hc
    cases hc : kept g.receiver.channel with
    | true => rw [narrow_of_kept hg hc]; simpa [hc] using hgive
    | false => rw [narrow_of_omitted hg hc]; simpa [hc] using hgive

/-- The guard that a binding takes at a key is kept exactly if the key is one of `K`. -/
theorem kept_setKey {key : Option String} (hop : b.key ≠ usable key → ∀ k, usable key = some k →
      Registry.entry? (b.letGo r) k = none → kept (b.letGo r).channels.length = K k) :
    ∀ g, (b.setKey r key).1.guard = some g → kept g.receiver.channel = K g.key := by
  intro g hg
  by_cases hsame : b.key = usable key
  · rw [setKey_of_same hsame] at hg
    exact hb g hg
  · cases hk : usable key with
    | none =>
      rw [setKey_of_none hsame hk] at hg
      exact absurd hg (by simp)
    | some k =>
      rw [setKey_of_some hsame hk] at hg
      obtain rfl := Option.some.inj hg
      rw [Registry.key_acquire]
      exact (letGo_narrow hb h).kept_taken b.opening (hop hsame k hk)

/-- Pointed at a key as far as it is one of `K`, what is kept of a binding becomes what is kept of the binding then. -/
theorem setKey_narrow {key : Option String} (hop : b.key ≠ usable key → ∀ k, usable key = some k →
      Registry.entry? (b.letGo r) k = none → kept (b.letGo r).channels.length = K k) :
    ((b.narrow kept).setKey s (key.filter K)).1 = (b.setKey r key).1.narrow kept := by
  have hkey := key_narrow hb
  have husable := usable_filter K key
  have hafter := kept_setKey hb h hop
  by_cases hsame : b.key = usable key
  · have hsame' : (b.narrow kept).key = usable (key.filter K) := by rw [hkey, husable, hsame]
    rw [setKey_of_same hsame, setKey_of_same hsame']
  · cases hk : (usable key).filter K with
    | none =>
      -- the binding moves among the other keys, or to none, and holds nothing here afterwards
      have hgone : (b.setKey r key).1.key.filter K = none := by rw [key_setKey, hk]
      have hopening : (b.setKey r key).1.opening = b.opening := by
        cases hu : usable key with
        | none => rw [setKey_of_none hsame hu]
        | some k => rw [setKey_of_some hsame hu]
      rw [narrow_of_key hafter hgone, hopening]
      by_cases hsame' : (b.narrow kept).key = usable (key.filter K)
      · have hnone : b.key.filter K = none := hkey.symm.trans (hsame'.trans (husable.trans hk))
        rw [setKey_of_same hsame', narrow_of_key hb hnone]
      · rw [setKey_of_none hsame' (husable.trans hk)]
        rfl
    | some k =>
      obtain ⟨hu, hK⟩ := Option.filter_eq_some_iff.1 hk
      have hne : (b.narrow kept).key ≠ usable (key.filter K) := by
        intro hsame'
        rw [hkey, husable, hk] at hsame'
        exact hsame ((Option.filter_eq_some_iff.1 hsame').1.trans hu.symm)
      have hletGo := letGo_narrow hb h
      have htaken := hletGo.kept_taken b.opening (hop hsame k hu)
      rw [setKey_of_some hsame hu, setKey_of_some hne (husable.trans hk),
        narrow_of_kept (b := { b with guard := some _ }) rfl (htaken.trans hK), ← hletGo.taken_eq hK]
      rfl

omit hb in
theorem poll_narrow : ((b.narrow kept).poll s).1 = (b.poll r).1.narrow kept := by
  cases hg : b.guard with
  | none => rw [narrow_of_none hg]; simp [poll, hg, narrow]
  | some g =>
    have hpoll : b.poll r = ({ b with guard := some (g.poll r).1 }, (g.poll r).2) := by rw [poll, hg]
    have hchannel := g.channel_poll r
    rw [hpoll]
    cases hc : kept g.receiver.channel with
    | true =>
      rw [narrow_of_kept hg hc, narrow_of_kept (b := { b with guard := some _ }) rfl (hchannel ▸ hc), poll]
      simp only [h.poll_guard hc]
    | false =>
      rw [narrow_of_omitted hg hc, narrow_of_omitted (b := { b with guard := some _ }) rfl (hchannel ▸ hc)]
      rfl

end Narrow

end Binding

end FleetFeed.Feed
