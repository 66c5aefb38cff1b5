import FleetFeed.Config.Tail
import FleetFeed.Proofs.Toml.Spelling

/-! One setting, given by a variable or by a document. What either makes of it is said by `byVariable` and `byDocument`, and they are
the same but for an empty URL, which only a variable passes over, and a window of nothing, which only a document widens
(`sources_agree_unless_neutral`). Every value that both can hold has a spelling of both kinds. -/
namespace FleetFeed.Config

/-- The environment in which one variable is set, or is not, and the others are as they were. -/
def Environment.put (env : Environment) (name : String) (value : Option String) : Environment :=
  fun other => if other = name then value else env other

theorem Environment.put_self (env : Environment) (name : String) (value : Option String) :
    env.put name value name = value := if_pos rfl

theorem Environment.put_of_ne {name other : String} (h : other ≠ name) (env : Environment) (value : Option String) :
    env.put name value other = env other := if_neg h

/-- A setting that can be given both ways, with its value. -/
inductive Setting where
  | endpoint (v : String)
  | pageLocation (v : String)
  | containerId (v : String)
  | devServerPort (n : Nat)
  | backendPort (n : Nat)
  | statsWindow (n : Nat)
  deriving DecidableEq, Repr

namespace Setting

/-- The variable that gives it. -/
def variableName : Setting → String
  | .endpoint _ => "FLEETWATCH_ENDPOINT"
  | .pageLocation _ => "FLEETWATCH_PAGE_LOCATION"
  | .containerId _ => "FLEET_TAIL_CONTAINER"
  | .devServerPort _ => "FLEETWATCH_DEV_PORT"
  | .backendPort _ => "FLEETWATCH_BACKEND_PORT"
  | .statsWindow _ => "FLEET_TAIL_WINDOW"

/-- The table of a document in which it stands, its name there, and its value. -/
def entry : Setting → Option String × String × Toml.Value
  | .endpoint v => (some "backend", "endpoint", .str v)
  | .pageLocation v => (some "backend", "page_location", .str v)
  | .containerId v => (none, "container_id", .str v)
  | .devServerPort n => (some "backend", "dev_server_port", .int n)
  | .backendPort n => (some "backend", "backend_port", .int n)
  | .statsWindow n => (none, "stats_window", .int n)

/-- What a document says that gives this setting and nothing else. -/
def members (s : Setting) : List (String × Toml.Value) := match s.entry with
  | (some table, name, v) => [(table, .table [(name, v)])]
  | (none, name, v) => [(name, v)]

/-- A value that both can hold. -/
def Fits : Setting → Prop
  | .devServerPort n | .backendPort n => n < 65536
  | .statsWindow n => n < 9223372036854775808
  | _ => True

/-- The texts of a variable that say the value. -/
def Spelt (text : String) : Setting → Prop
  | .endpoint v | .pageLocation v | .containerId v => text = v
  | .devServerPort n | .backendPort n => number? 16 text = some n
  | .statsWindow n => number? 64 text = some n

/-- The values that are taken for none, or for another, in one of the two ways. -/
def Neutral : Setting → Prop
  | .endpoint v | .pageLocation v => v = ""
  | .statsWindow n => n = 0
  | _ => False

/-- What a variable makes of settings that it does not yet give. -/
def byVariable : Setting → TailConfig → TailConfig
  | .endpoint v, c => { c with client.endpoint := nonEmpty (some v) }
  | .pageLocation v, c => { c with client.pageLocation := nonEmpty (some v) }
  | .containerId v, c => { c with containerId := nonBlank (some v) }
  | .devServerPort n, c => { c with client.devServerPort := n }
  | .backendPort n, c => { c with client.backendPort := n }
  | .statsWindow n, c => { c with statsWindow := n }

/-- What a document makes of settings. -/
def byDocument : Setting → TailConfig → TailConfig
  | .endpoint v, c => { c with client.endpoint := some v }
  | .pageLocation v, c => { c with client.pageLocation := some v }
  | .containerId v, c => { c with containerId := (nonBlank (some v)).or c.containerId }
  | .devServerPort n, c => { c with client.devServerPort := n }
  | .backendPort n, c => { c with client.backendPort := n }
  | .statsWindow n, c => { c with statsWindow := max 1 n }

variable {s : Setting}

theorem ofEnvironment_put (env : Environment) {text : String} (h : s.Spelt text) :
    TailConfig.ofEnvironment (env.put s.variableName (some text)) =
      s.byVariable (.ofEnvironment (env.put s.variableName none)) := by
  unfold TailConfig.ofEnvironment ClientConfig.ofEnvironment
  cases s <;> unfold Spelt at h <;>
    simp only [variableName, Environment.put_self, Environment.put_of_ne, byVariable, ne_eq, String.reduceEq, not_false_eq_true, h,
      Option.bind_some, Option.getD_some]

theorem natural?_eq {bits n : Nat} (h : n < Nat.pow 2 bits) : natural? bits (.int n) = some n := by
  have hn : (0 : Int) ≤ n ∧ (n : Int) < Nat.pow 2 bits := ⟨Int.natCast_nonneg n, Int.ofNat_lt.2 h⟩
  exact if_pos hn

theorem exists_ofMembers? (h : s.Fits) :
    ∃ o, TailOverlay.ofMembers? s.members = some o ∧ ∀ c, o.apply c = s.byDocument c := by
  cases s with
  | endpoint v => exact ⟨⟨none, none, none, some ⟨some v, none, none, none⟩⟩, rfl, fun c => rfl⟩
  | pageLocation v => exact ⟨⟨none, none, none, some ⟨none, some v, none, none⟩⟩, rfl, fun c => rfl⟩
  | containerId v => exact ⟨⟨some v, none, none, none⟩, rfl, fun c => rfl⟩
  | devServerPort n =>
    have hn : natural? 16 (.int n) = some n := natural?_eq h
    refine ⟨⟨none, none, none, some ⟨none, none, some n, none⟩⟩, ?_, fun c => rfl⟩
    simp [TailOverlay.ofMembers?, BackendOverlay.ofToml?, member?, members, entry, List.lookup_cons, hn]
  | backendPort n =>
    have hn : natural? 16 (.int n) = some n := natural?_eq h
    refine ⟨⟨none, none, none, some ⟨none, none, none, some n⟩⟩, ?_, fun c => rfl⟩
    simp [TailOverlay.ofMembers?, BackendOverlay.ofToml?, member?, members, entry, List.lookup_cons, hn]
  | statsWindow n =>
    have hn : natural? 64 (.int n) = some n := natural?_eq (Nat.lt_trans h (by decide))
    refine ⟨⟨none, some n, none, none⟩, ?_, fun c => rfl⟩
    simp [TailOverlay.ofMembers?, member?, members, entry, List.lookup_cons, hn]

theorem parse?_empty : Toml.parse? "" = some [] := by decide +kernel

/-- A document that says nothing leaves the environment as it is. -/
theorem ofText?_of_empty (env : Environment) {blank : String} (h : Toml.parse? blank = some []) :
    TailConfig.ofText? env blank = some (.ofEnvironment env) := by
  unfold TailConfig.ofText? TailOverlay.ofText?
  rw [h]
  rfl

theorem ofText?_of_members (env : Environment) {doc : String} (hfits : s.Fits) (h : Toml.parse? doc = some s.members) :
    TailConfig.ofText? env doc = some (s.byDocument (.ofEnvironment env)) := by
  obtain ⟨o, ho, happly⟩ := exists_ofMembers? hfits
  have hread : TailOverlay.ofText? doc = some o := by
    unfold TailOverlay.ofText?
    rw [h]
    exact ho
  unfold TailConfig.ofText?
  rw [hread, Option.map_some, happly]

theorem byVariable_eq_byDocument_iff {c : TailConfig} (hc : ∀ v, s = .containerId v → c.containerId = none) :
    s.byVariable c = s.byDocument c ↔ ¬ s.Neutral := by
  cases s with
  | endpoint v => simp [byVariable, byDocument, Neutral, nonEmpty]
  | pageLocation v => simp [byVariable, byDocument, Neutral, nonEmpty]
  | containerId v => simp [byVariable, byDocument, Neutral, hc v rfl]
  | devServerPort n => simp [byVariable, byDocument, Neutral]
  | backendPort n => simp [byVariable, byDocument, Neutral]
  | statsWindow n =>
    simp [byVariable, byDocument, Neutral]
    omega

/-! ### Every value can be given -/

theorem number?_repr {bits n : Nat} (h : n < Nat.pow 2 bits) : number? bits (Nat.repr n) = some n := by
  have hdigits : ∀ c ∈ Nat.toDigits 10 n, '0' ≤ c ∧ c ≤ '9' := fun c hc => by
    simpa [Toml.isDigit] using Toml.isDigit_of_mem hc
  unfold number?
  rw [Nat.toList_repr]
  split
  · next heq => exact absurd heq (Toml.toDigits_ne (by decide) _)
  · have hnumber : ((Nat.toDigits 10 n).isEmpty || !((Nat.toDigits 10 n).all fun c => decide ('0' ≤ c ∧ c ≤ '9'))) = false := by
      simpa [Nat.toDigits_ne_nil] using hdigits
    simp only [hnumber, Bool.false_eq_true, if_false, Toml.foldl_toDigits, h, if_true]

theorem exists_spelt (h : s.Fits) : ∃ text, s.Spelt text := by
  cases s with
  | endpoint v => exact ⟨v, rfl⟩
  | pageLocation v => exact ⟨v, rfl⟩
  | containerId v => exact ⟨v, rfl⟩
  | devServerPort n => exact ⟨_, number?_repr h⟩
  | backendPort n => exact ⟨_, number?_repr h⟩
  | statsWindow n => exact ⟨_, number?_repr (Nat.lt_trans h (by decide))⟩

theorem exists_document (h : s.Fits) : ∃ doc, Toml.parse? doc = some s.members := by
  have hport {n : Nat} (hn : n < 65536) : Toml.Reader.Gives (Nat.toDigits 10 n) (.int n) :=
    Toml.Reader.gives_toDigits (Nat.lt_trans hn (by decide))
  have hbackend : Toml.IsBare "backend" := rfl
  cases s with
  | endpoint v => exact ⟨_, Toml.parse?_table hbackend rfl (Toml.Reader.gives_quoted v)⟩
  | pageLocation v => exact ⟨_, Toml.parse?_table hbackend rfl (Toml.Reader.gives_quoted v)⟩
  | containerId v => exact ⟨_, Toml.parse?_assignment rfl (Toml.Reader.gives_quoted v)⟩
  | devServerPort n => exact ⟨_, Toml.parse?_table hbackend rfl (hport h)⟩
  | backendPort n => exact ⟨_, Toml.parse?_table hbackend rfl (hport h)⟩
  | statsWindow n => exact ⟨_, Toml.parse?_assignment rfl (Toml.Reader.gives_toDigits h)⟩

/-- A setting is the same whether a variable or a document gives it, all else being equal, but for an empty URL and a window of
nothing. -/
theorem sources_agree_unless_neutral (s : Setting) (h : s.Fits) (env : Environment) :
    (∃ text, s.Spelt text) ∧ (∃ doc, Toml.parse? doc = some s.members) ∧
    ∀ text blank doc, s.Spelt text → Toml.parse? blank = some [] → Toml.parse? doc = some s.members →
      let base := TailConfig.ofEnvironment (env.put s.variableName none)
      TailConfig.ofText? (env.put s.variableName (some text)) blank = some (s.byVariable base) ∧
      TailConfig.ofText? (env.put s.variableName none) doc = some (s.byDocument base) ∧
      (s.byVariable base = s.byDocument base ↔ ¬ s.Neutral) := by
  refine ⟨exists_spelt h, exists_document h, fun text blank doc htext hblank hdoc => ⟨?_, ?_, ?_⟩⟩
  · rw [ofText?_of_empty _ hblank, ofEnvironment_put env htext]
  · exact ofText?_of_members _ h hdoc
  · refine byVariable_eq_byDocument_iff ?_
    rintro v rfl
    unfold TailConfig.ofEnvironment
    rw [variableName, Environment.put_self]
    rfl

/-- A window in another spelling, and beside a remark. -/
theorem window_given_either_way :
    (statsWindow 30).Fits ∧ (statsWindow 30).Spelt "+30" ∧ Toml.parse? "" = some [] ∧
      Toml.parse? "stats_window = 30 # samples" = some (statsWindow 30).members ∧
      TailConfig.ofText? (Environment.put (fun _ => none) "FLEET_TAIL_WINDOW" (some "+30")) "" =
        TailConfig.ofText? (Environment.put (fun _ => none) "FLEET_TAIL_WINDOW" none) "stats_window = 30 # samples" := by
  have hfits : (statsWindow 30).Fits := by
    unfold Fits
    decide
  have hdoc : Toml.parse? "stats_window = 30 # samples" = some (statsWindow 30).members := by decide +kernel
  have hspelt : (statsWindow 30).Spelt "+30" := by
    unfold Spelt
    decide
  obtain ⟨hvariable, hdocument, hagree⟩ :=
    (sources_agree_unless_neutral (.statsWindow 30) hfits fun _ => none).2.2 "+30" "" _ hspelt parse?_empty hdoc
  have hsame := hagree.2 (by unfold Neutral; decide)
  exact ⟨hfits, hspelt, parse?_empty, hdoc, by rw [← hsame] at hdocument; exact hvariable.trans hdocument.symm⟩

/-- A window of nothing becomes one of a single sample only in a document, and an empty endpoint counts as none only in a
variable. -/
theorem zero_and_empty_differ :
    (∃ a b, TailConfig.ofText? (Environment.put (fun _ => none) "FLEET_TAIL_WINDOW" (some "0")) "" = some a ∧
      TailConfig.ofText? (fun _ => none) "stats_window = 0" = some b ∧ a.statsWindow = 0 ∧ b.statsWindow = 1) ∧
    ∃ a b, TailConfig.ofText? (Environment.put (fun _ => none) "FLEETWATCH_ENDPOINT" (some "")) "" = some a ∧
      TailConfig.ofText? (fun _ => none) "[backend]\nendpoint = \"\"" = some b ∧ a.client.endpoint = none ∧
      b.client.endpoint = some "" := by
  have hzero : Toml.parse? "stats_window = 0" = some (statsWindow 0).members := by decide +kernel
  have hempty : Toml.parse? "[backend]\nendpoint = \"\"" = some (endpoint "").members := by decide +kernel
  have hfits : (statsWindow 0).Fits := by
    unfold Fits
    decide
  exact ⟨⟨_, _, ofText?_of_empty _ parse?_empty, ofText?_of_members _ hfits hzero, rfl, rfl⟩,
    _, _, ofText?_of_empty _ parse?_empty, ofText?_of_members (s := endpoint "") _ trivial hempty, rfl, rfl⟩

end Setting

end FleetFeed.Config
