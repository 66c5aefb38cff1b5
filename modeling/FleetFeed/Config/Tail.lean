import FleetFeed.Config.Client
import FleetFeed.History.Window
import FleetFeed.Text.Blank
import FleetFeed.Toml.Document

/-! The settings of a tail: the backend, the container that is followed and how its records are shown. A document replaces
what the environment says setting by setting, but counts only as a whole. -/
namespace FleetFeed.Config

structure TailConfig where
  client : ClientConfig
  /-- The container to follow; the first one of the fleet where none is given. -/
  containerId : Option String
  /-- How many samples the picture of the load shows. -/
  statsWindow : Nat
  showGroupedLines : Bool
  deriving DecidableEq, Repr

/-- A blank text is no text. -/
def nonBlank (s : Option String) : Option String := s.filter fun s => !Text.allBlank s

/-- What a document says of the backend. -/
structure BackendOverlay where
  endpoint : Option String
  pageLocation : Option String
  devServerPort : Option Nat
  backendPort : Option Nat
  deriving DecidableEq, Repr

/-- What a document says. -/
structure TailOverlay where
  containerId : Option String
  statsWindow : Option Nat
  showGroupedLines : Option Bool
  backend : Option BackendOverlay
  deriving DecidableEq, Repr

/-! ### Reading a document -/

def string? : Toml.Value → Option String
  | .str s => some s
  | _ => none

def flag? : Toml.Value → Option Bool
  | .bool b => some b
  | _ => none

/-- A natural number of at most `bits` bits. -/
def natural? (bits : Nat) : Toml.Value → Option Nat
  | .int n => if 0 ≤ n ∧ n < Nat.pow 2 bits then some n.toNat else none
  | _ => none

/-- A member of a table. One that is not given is no fault; one of another kind is. -/
def member? {α : Type} (read : Toml.Value → Option α) (members : List (String × Toml.Value)) (name : String) :
    Option (Option α) := match members.lookup name with
  | some v => (read v).map some
  | none => some none

namespace BackendOverlay

/-- A table, or a list that gives every setting in order. A point in time says nothing. -/
def ofToml? : Toml.Value → Option BackendOverlay
  | .table ms => do
    return ⟨← member? string? ms "endpoint", ← member? string? ms "page_location", ← member? (natural? 16) ms "dev_server_port",
      ← member? (natural? 16) ms "backend_port"⟩
  | .arr (endpoint :: page :: dev :: backend :: _) => do
    return ⟨some (← string? endpoint), some (← string? page), some (← natural? 16 dev), some (← natural? 16 backend)⟩
  | .datetime => some ⟨none, none, none, none⟩
  | _ => none

def apply (b : BackendOverlay) (c : ClientConfig) : ClientConfig where
  endpoint := b.endpoint.or c.endpoint
  pageLocation := b.pageLocation.or c.pageLocation
  devServerPort := b.devServerPort.getD c.devServerPort
  backendPort := b.backendPort.getD c.backendPort

end BackendOverlay

namespace TailOverlay

/-- The settings of a document; a single one of the wrong kind makes all of them unusable. -/
def ofMembers? (ms : List (String × Toml.Value)) : Option TailOverlay := do
  return ⟨← member? string? ms "container_id", ← member? (natural? 64) ms "stats_window", ← member? flag? ms "show_grouped_lines",
    ← member? BackendOverlay.ofToml? ms "backend"⟩

def ofText? (text : String) : Option TailOverlay := do ofMembers? (← Toml.parse? text)

def apply (o : TailOverlay) (c : TailConfig) : TailConfig where
  client := (o.backend.map (·.apply c.client)).getD c.client
  containerId := (nonBlank o.containerId).or c.containerId
  statsWindow := (o.statsWindow.map (max 1)).getD c.statsWindow
  showGroupedLines := o.showGroupedLines.getD c.showGroupedLines

end TailOverlay

namespace TailConfig

def ofEnvironment (env : Environment) : TailConfig where
  client := .ofEnvironment env
  containerId := nonBlank (env "FLEET_TAIL_CONTAINER")
  statsWindow := ((env "FLEET_TAIL_WINDOW").bind (number? 64)).getD History.Window.defaultCapacity
  showGroupedLines := true

/-- The settings of the environment under those of a document. -/
def ofText? (env : Environment) (text : String) : Option TailConfig :=
  (TailOverlay.ofText? text).map (·.apply (ofEnvironment env))

/-- The settings where the document is a file, given by its bytes. One that is missing or cannot be read counts for nothing. -/
def load (env : Environment) (file : Option ByteArray) : TailConfig :=
  ((file.bind String.fromUTF8?).bind (ofText? env)).getD (ofEnvironment env)

/-- The variable that names the file, and its name where the variable is not set. -/
def fileName (env : Environment) : String := (env "FLEET_TAIL_CONFIG").getD "fleet_tail.toml"

end TailConfig

end FleetFeed.Config
