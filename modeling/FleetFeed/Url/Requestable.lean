import FleetFeed.Url.Basic

/-! URLs that a socket can be asked for. A request line needs an authority and is stricter about its characters than a URL;
without slashes before it, the whole URL is taken for one. -/
namespace FleetFeed.Url

def maxRequestLength : Nat := 65534

def maxRequestScheme : Nat := 64

/-- How many colons may stand in a row of an authority: those of an address of eight groups and its port. -/
def maxColons : Nat := 8

/-- What was met since the last part of an authority began. -/
structure AuthorityScan where
  colons : Nat
  percent : Bool
  opened : Bool
  closed : Bool
  deriving DecidableEq, Repr

namespace AuthorityScan

def start : AuthorityScan := ⟨0, false, false, false⟩

/-- A character that may stand anywhere in an authority. -/
def isFree (c : Char) : Bool :=
  c.isAlphanum || ['!', '$', '&', '\'', '(', ')', '*', '+', ',', '-', '.', ';', '=', '_', '~'].contains c

def step (s : AuthorityScan) (c : Char) : Option AuthorityScan :=
  if c = ':' then if s.colons < maxColons then some { s with colons := s.colons + 1 } else none
  else if c = '[' then if s.percent || s.opened then none else some { s with opened := true }
  else if c = ']' then if s.opened && !s.closed then some ⟨0, false, true, true⟩ else none
  else if c = '@' then some { s with colons := 0, percent := false }
  else if c = '%' then some { s with percent := true }
  else if isFree c then some s
  else none

/-- Of a name and a port at most one colon is left, and no percent sign; brackets come in pairs. -/
def accepts (s : AuthorityScan) : Bool := s.opened == s.closed && s.colons ≤ 1 && !s.percent

end AuthorityScan

def isRequestAuthority (cs : List Char) : Bool :=
  !cs.isEmpty && cs.getLast? != some '@' && ((cs.foldlM AuthorityScan.step .start).map AuthorityScan.accepts).getD false

/-- A request line can be made of the URL. -/
def isRequestable (u : Url) : Bool :=
  u.write.length ≤ maxRequestLength && (match u.authority with
    | some a => u.scheme.length ≤ maxRequestScheme && isRequestAuthority a.write.toList
    | none => isRequestAuthority u.write.toList)

end FleetFeed.Url
