import FleetFeed.Url.Basic

/-! Reading URLs. Blanks around a URL and line ends and tabs within it count for nothing. -/
namespace FleetFeed.Url

/-- A text without the blanks and control characters around it. -/
def trim (text : String) : List Char :=
  let edge (c : Char) := decide (c.toNat ≤ 32)
  ((text.toList.dropWhile edge).reverse.dropWhile edge).reverse

/-- The text before a mark, and after it where there is one. -/
def cut (mark : Char) (cs : List Char) : List Char × Option (List Char) :=
  let before := cs.takeWhile (· != mark)
  match cs.drop before.length with
  | _ :: rest => (before, some rest)
  | [] => (before, none)

/-- The texts before and after the last `@`. -/
def cutUser (cs : List Char) : Option (List Char) × List Char :=
  let host := (cs.reverse.takeWhile (· != '@')).reverse
  if host.length = cs.length then (none, cs) else (some (cs.take (cs.length - host.length - 1)), host)

/-- The length of a host: it ends at a colon outside brackets. -/
def hostLength (inside : Bool) : List Char → Nat
  | [] => 0
  | c :: rest =>
    if c == ':' && !inside then 0
    else 1 + hostLength (if c == '[' then true else if c == ']' then false else inside) rest

/-- A port up to a backslash; none is the default. -/
def readPort? (scheme : String) (cs : List Char) : Option (Option Nat × List Char) :=
  let ds := cs.takeWhile isDigit
  let rest := cs.drop ds.length
  let n := ds.foldl (fun n c => n * 10 + (c.toNat - 48)) 0
  if (rest.isEmpty || rest.head? == some '\\') && n < 65536 then
    some (if ds.isEmpty || some n == defaultPort? scheme then none else some n, rest)
  else none

/-- An authority; `more` says that something follows it. Also what of its text belongs to the path. -/
def authority? (scheme : String) (more : Bool) (cs : List Char) : Option (Authority × List Char) := do
  let (user, rest) := cutUser cs
  if user = some [] ∧ rest.isEmpty ∧ more then none
  else
    let (name, secret) := cut ':' (user.getD [])
    let n := hostLength false rest
    let (hostText, tail) := (rest.take n, rest.drop n)
    let username := String.ofList (escape EscapeSet.userinfo name)
    let password := String.ofList (escape EscapeSet.userinfo (secret.getD []))
    if hostText.isEmpty ∧ (isSpecial scheme ∨ !tail.isEmpty ∨ !username.isEmpty ∨ !password.isEmpty) then none
    else
      let host ← if isSpecial scheme then Host.parse? hostText else Host.parseFree? hostText
      match tail with
      | _ :: digits =>
        let (port, tail) ← readPort? scheme digits
        return (⟨username, password, host, port⟩, tail)
      | [] => return (⟨username, password, host, none⟩, [])

def nowhere : Authority := ⟨"", "", .name "", none⟩

def isSlash (c : Char) : Bool := c == '/' || c == '\\'

/-- The authority and path of a URL in the file scheme, from a text that still has its line marks. A drive is no host, the
local host is none, and a path that starts with a drive takes none. -/
def file? (cs : List Char) : Option (Authority × List String) :=
  let place (u : Authority) (text : List Char) := some (u, segmentsOf "file" text)
  match cs.dropWhile isLineMark with
  | [] => place nowhere cs
  | a :: rest =>
    if !isSlash a then place nowhere cs
    else match rest.dropWhile isLineMark with
    | [] => place nowhere rest
    | b :: text =>
      if !isSlash b then place nowhere rest
      else
        let name := text.takeWhile (!isSlash ·)
        let path := text.drop name.length
        let name := withoutLineMarks name
        if isDrive name then place nowhere text
        else if name.isEmpty then place nowhere path
        else do
          let host ← Host.parse? name
          if host = .name "localhost" then place nowhere path
          else place (if (walk "file" (path.drop 1)).hasDrive then nowhere else { nowhere with host := host }) (path.drop 1)

/-- The authority and path of a URL; `more` says that something follows them. -/
def place? (scheme : String) (more : Bool) (text : List Char) : Option (Option Authority × Path) :=
  if isFile scheme then (file? text).map fun (a, p) => (some a, .rooted false p)
  else
    let cs := withoutLineMarks text
    if isSpecial scheme then do
      let cs := cs.dropWhile isSlash
      let name := cs.takeWhile (!isSlash ·)
      let path := cs.drop name.length
      let (a, _) ← authority? scheme (more || !path.isEmpty) name
      return (some a, .rooted false (pathOf scheme path))
    else match cs with
      | '/' :: '/' :: cs => do
        let name := cs.takeWhile (· != '/')
        let path := cs.drop name.length
        let (a, tail) ← authority? scheme (more || !path.isEmpty) name
        return (some a, .rooted false (pathOf scheme (tail ++ path)))
      | '/' :: cs => some (none, .withoutAuthority (segmentsOf scheme cs))
      | cs => some (none, .ofPlain cs)

def parse? (text : String) : Option Url := do
  let (name, rest) := cut ':' (trim text)
  let scheme ← scheme? (withoutLineMarks name)
  let (rest, fragment) := cut '#' (← rest)
  let (rest, query) := cut '?' rest
  let (authority, path) ← place? scheme (query.isSome || fragment.isSome) rest
  let querySet := if isSpecial scheme then EscapeSet.specialQuery else EscapeSet.query
  let coded (set : EscapeSet) (cs : List Char) := String.ofList (escape set (withoutLineMarks cs))
  return ⟨scheme, authority, path, query.map (coded querySet), fragment.map (coded EscapeSet.fragment)⟩

end FleetFeed.Url
