import FleetFeed.Error.Classified
import FleetFeed.Url.Parse

/-! Where the backend is: the settings, and the two URLs that follow from them. -/
namespace FleetFeed.Config

/-- The value of each variable that is set. -/
abbrev Environment := String → Option String

/-- A natural number of at most `bits` bits in decimal digits, a plus sign before it allowed. -/
def number? (bits : Nat) (s : String) : Option Nat :=
  let digits := match s.toList with
    | '+' :: rest => rest
    | cs => cs
  if digits.isEmpty || !(digits.all fun c => decide ('0' ≤ c ∧ c ≤ '9')) then none
  else
    let n := digits.foldl (fun n c => n * 10 + (c.toNat - 48)) 0
    if n < Nat.pow 2 bits then some n else none

def defaultDevServerPort : Nat := 5173

def defaultBackendPort : Nat := 8080

def httpPath : String := "/graphql"

def socketPath : String := "/ws"

structure ClientConfig where
  /-- The backend, where it is given. -/
  endpoint : Option String
  /-- The page on which the dashboard is shown. -/
  pageLocation : Option String
  devServerPort : Nat
  backendPort : Nat
  deriving DecidableEq, Repr

/-- An empty value is no value. -/
def nonEmpty (s : Option String) : Option String := s.filter fun s => !s.isEmpty

namespace ClientConfig

def ofEnvironment (env : Environment) : ClientConfig where
  endpoint := nonEmpty (env "FLEETWATCH_ENDPOINT")
  pageLocation := nonEmpty (env "FLEETWATCH_PAGE_LOCATION")
  devServerPort := ((env "FLEETWATCH_DEV_PORT").bind (number? 16)).getD defaultDevServerPort
  backendPort := ((env "FLEETWATCH_BACKEND_PORT").bind (number? 16)).getD defaultBackendPort

/-- The backend at a given place, whatever the environment says. -/
def atEndpoint (endpoint : String) : ClientConfig := ⟨some endpoint, none, defaultDevServerPort, defaultBackendPort⟩

def readUrl (text : String) : Except ClassifiedError Url := match Url.parse? text with
  | some u => .ok u
  | none => .error (.transport ("Invalid URL " ++ text))

/-- The backend on this machine. -/
def localOrigin (port : Nat) : Except ClassifiedError Url := readUrl ("http://localhost:" ++ Nat.repr port)

/-- A given endpoint wins as it is; then the page, which stands for the local backend where a development server shows it;
then the local backend. -/
def origin (c : ClientConfig) : Except ClassifiedError Url :=
  match c.endpoint, c.pageLocation with
  | some endpoint, _ => readUrl endpoint
  | none, some page => do
    let page ← readUrl page
    if page.port? = some c.devServerPort then localOrigin c.backendPort
    else return ((page.withPath "").withoutQuery).withoutFragment
  | none, none => localOrigin c.backendPort

end ClientConfig

structure Endpoints where
  http : Url
  ws : Url
  deriving DecidableEq, Repr

def Endpoints.ofOrigin (origin : Url) : Except ClassifiedError Endpoints :=
  let scheme := if origin.scheme = "https" ∨ origin.scheme = "wss" then "wss" else "ws"
  match (origin.withPath socketPath).withScheme? scheme with
  | some ws => .ok ⟨origin.withPath httpPath, ws⟩
  | none => .error (.plain ("Cannot derive WebSocket URL from " ++ origin.write) none)

def ClientConfig.resolve (c : ClientConfig) : Except ClassifiedError Endpoints := do Endpoints.ofOrigin (← c.origin)

end FleetFeed.Config
