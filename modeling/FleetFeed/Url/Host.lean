import FleetFeed.Url.Domain

/-! Hosts: names and addresses. -/
namespace FleetFeed.Url

inductive Host where
  /-- A domain, or any name in a scheme of its own; it may be empty. -/
  | name (s : String)
  | ipv4 (address : Nat)
  /-- Eight numbers of 16 bits. -/
  | ipv6 (pieces : List Nat)
  deriving DecidableEq, Repr

namespace Host

/-! ### Addresses of four bytes -/

private def numberOf? (base : Nat) (digits : List Char) : Option Nat := do
  let ds ← digits.mapM hexValue?
  if ds.all (· < base) then some (ds.foldl (fun n d => n * base + d) 0) else none

/-- A number in decimal, in octal after a zero, or in hexadecimal after `0x`. -/
def number? : List Char → Option Nat
  | [] => none
  | '0' :: 'x' :: ds | '0' :: 'X' :: ds => numberOf? 16 ds
  | '0' :: d :: ds => numberOf? 8 (d :: ds)
  | ds => numberOf? 10 ds

private def dropLastEmpty (parts : List (List Char)) : List (List Char) :=
  if parts.getLast? = some [] then parts.dropLast else parts

/-- A name that ends in a number has to be an address. -/
def endsInNumber (domain : List Char) : Bool :=
  let parts := splitAt (· == '.') domain
  let parts := if parts.getLast? = some [] then (if parts.length = 1 then [] else parts.dropLast) else parts
  match parts.getLast? with
  | some last => (!last.isEmpty && last.all fun c => decide ('0' ≤ c ∧ c ≤ '9')) || (number? last).isSome
  | none => false

/-- One to four numbers; the last one fills the bytes that are left. -/
def ipv4? (domain : List Char) : Option Nat := do
  let numbers ← (dropLastEmpty (splitAt (· == '.') domain)).mapM number?
  let last ← numbers.getLast?
  let front := numbers.dropLast
  let room := Nat.pow 256 (4 - front.length)
  if front.length ≤ 3 ∧ (front.all (· ≤ 255)) ∧ last < room then
    some (front.foldl (fun n b => n * 256 + b) 0 * room + last)
  else none

def writeIpv4 (a : Nat) : String :=
  ".".intercalate ([a / 16777216, a / 65536 % 256, a / 256 % 256, a % 256].map Nat.repr)

/-! ### Addresses of eight pieces -/

private def piece? (digits : List Char) : Option Nat :=
  if digits.isEmpty || 4 < digits.length then none else numberOf? 16 digits

private def byte? (digits : List Char) : Option Nat :=
  if digits.isEmpty || (1 < digits.length && digits.head? == some '0') then none
  else (numberOf? 10 digits).filter (· ≤ 255)

/-- The two pieces of an address of four bytes. -/
private def dotted? (text : List Char) : Option (List Nat) := do
  match ← (splitAt (· == '.') text).mapM byte? with
  | [a, b, c, d] => some [a * 256 + b, c * 256 + d]
  | _ => none

private def pieces? (final : Bool) (text : List Char) : Option (List Nat) :=
  if text.isEmpty then some [] else
    let parts := splitAt (· == ':') text
    match parts.getLast? with
    | some last =>
      if final && last.contains '.' then do return (← parts.dropLast.mapM piece?) ++ (← dotted? last) else parts.mapM piece?
    | none => none

/-- The text before and after the first two colons in a row. -/
private def splitGap? : List Char → Option (List Char × List Char)
  | ':' :: ':' :: rest => some ([], rest)
  | c :: rest => (splitGap? rest).map fun (a, b) => (c :: a, b)
  | [] => none

def ipv6? (text : List Char) : Option (List Nat) :=
  match splitGap? text with
  | some (before, after) => do
    let a ← pieces? false before
    let b ← pieces? true after
    if a.length + b.length ≤ 7 then some (a ++ List.replicate (8 - a.length - b.length) 0 ++ b) else none
  | none => do
    let a ← pieces? true text
    if a.length = 8 then some a else none

private def hexText (n : Nat) : String := String.ofList (Nat.toDigits 16 n)

private def zeroRun (pieces : List Nat) (start : Nat) : Nat := ((pieces.drop start).takeWhile (· == 0)).length

/-- The longest run of zeros is left out, the first of several, and only where it is longer than one. -/
def writeIpv6 (pieces : List Nat) : String :=
  let longest := ((List.range pieces.length).map (zeroRun pieces)).foldl max 0
  let join (ps : List Nat) := ":".intercalate (ps.map hexText)
  if longest < 2 then join pieces
  else match (List.range pieces.length).find? fun i => zeroRun pieces i == longest with
    | some i => join (pieces.take i) ++ "::" ++ join (pieces.drop (i + longest))
    | none => join pieces

def write : Host → String
  | .name s => s
  | .ipv4 a => writeIpv4 a
  | .ipv6 ps => "[" ++ writeIpv6 ps ++ "]"

/-! ### Reading -/

def bracketed? (text : List Char) : Option Host := match text with
  | '[' :: rest => if rest.getLast? = some ']' then (ipv6? rest.dropLast).map .ipv6 else none
  | _ => none

/-- A host of a scheme that is known: an address or a domain. -/
def parse? (text : List Char) : Option Host :=
  if text.head? = some '[' then bracketed? text
  else do
    let name ← String.fromUTF8? ⟨(unescape text).toArray⟩
    let domain ← Domain.toAscii? name.toList
    if domain.isEmpty then none
    else if endsInNumber domain then (ipv4? domain).map .ipv4
    else some (.name (String.ofList domain))

private def barred (c : Char) : Bool :=
  c ∈ ['\x00', '\t', '\n', '\r', ' ', '#', '/', ':', '<', '>', '?', '@', '[', '\\', ']', '^', '|']

/-- A host of any other scheme: a name as it is, or an address of eight pieces. -/
def parseFree? (text : List Char) : Option Host :=
  if text.head? = some '[' then bracketed? text
  else if text.any barred then none
  else some (.name (String.ofList (escape EscapeSet.control text)))

end Host

end FleetFeed.Url
