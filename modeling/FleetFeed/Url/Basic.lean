import FleetFeed.Url.Host
import FleetFeed.Url.Path

/-! URLs: their parts, their text, and the replacement of parts. -/
namespace FleetFeed

namespace Url

/-- Who is addressed, and where. -/
structure Authority where
  /-- User name and password as they are written, percent-coded. -/
  username : String
  password : String
  host : Host
  /-- None for the default port of the scheme. -/
  port : Option Nat
  deriving DecidableEq, Repr

end Url

open Url in
structure Url where
  scheme : String
  authority : Option Authority
  path : Path
  query : Option String
  fragment : Option String
  deriving DecidableEq, Repr

namespace Url

def host? (u : Url) : Option Host := u.authority.map Authority.host

/-- The host has a name or an address. -/
def hasHost (u : Url) : Bool := match u.host? with
  | none | some (.name "") => false
  | some _ => true

def port? (u : Url) : Option Nat := u.authority.bind Authority.port

/-- The port that is used: the one that is written, else that of the scheme. -/
def effectivePort? (u : Url) : Option Nat := u.port?.or (defaultPort? u.scheme)

/-! ### Text -/

def Authority.write (a : Authority) : String :=
  let user := if a.password.isEmpty then a.username else a.username ++ ":" ++ a.password
  (if user.isEmpty then "" else user ++ "@") ++ a.host.write ++ (match a.port with
    | some p => ":" ++ Nat.repr p
    | none => "")

def after (mark : String) : Option String → String
  | some s => mark ++ s
  | none => ""

def write (u : Url) : String :=
  u.scheme ++ ":" ++ (match u.authority with
    | some a => "//" ++ a.write
    | none => "") ++ u.path.write ++ after "?" u.query ++ after "#" u.fragment

/-! ### Other parts -/

def withPath (u : Url) (path : String) : Url := match u.path with
  | .rooted dotted _ => { u with path := .rooted dotted (pathOf u.scheme path.toList) }
  | .plain _ => { u with path := .ofPlain path.toList }

def withoutQuery (u : Url) : Url := { u with query := none }

def withoutFragment (u : Url) : Url := { u with fragment := none }

/-- Changes the scheme for another known one, where both are known and the host is given; a port that is then the default
is no longer written. -/
def withScheme? (u : Url) (scheme : String) : Option Url :=
  if isSpecial scheme && isSpecial u.scheme && !isFile scheme && u.hasHost then
    some { u with scheme := scheme, authority := u.authority.map fun a =>
      { a with port := if a.port = defaultPort? scheme then none else a.port } }
  else none

end Url

end FleetFeed
