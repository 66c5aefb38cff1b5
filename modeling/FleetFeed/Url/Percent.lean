/-! Percent-coding of the parts of a URL. -/
namespace FleetFeed.Url

/-- The ASCII characters that a part of a URL does not hold as they are; all others beyond ASCII it never holds. -/
abbrev EscapeSet := Char → Bool

namespace EscapeSet

def control : EscapeSet := fun c => c.toNat < 32 || c.toNat == 127

def fragment : EscapeSet := fun c => control c || c ∈ [' ', '"', '<', '>', '`']

def query : EscapeSet := fun c => control c || c ∈ [' ', '"', '#', '<', '>']

def specialQuery : EscapeSet := fun c => query c || c == '\''

def path : EscapeSet := fun c => fragment c || c ∈ ['#', '?', '{', '}']

def userinfo : EscapeSet := fun c => path c || c ∈ ['/', ':', ';', '=', '@', '[', '\\', ']', '^', '|']

end EscapeSet

private def upperHex (n : Nat) : Char := if n < 10 then Char.ofNat (48 + n) else Char.ofNat (55 + n)

def escapeByte (b : UInt8) : List Char := ['%', upperHex (b.toNat / 16), upperHex (b.toNat % 16)]

def utf8 (c : Char) : List UInt8 := (String.singleton c).toUTF8.toList

def escapeChar (set : EscapeSet) (c : Char) : List Char :=
  if c.toNat < 128 ∧ !set c then [c] else (utf8 c).flatMap escapeByte

def escape (set : EscapeSet) (cs : List Char) : List Char := cs.flatMap (escapeChar set)

def hexValue? (c : Char) : Option Nat :=
  if '0' ≤ c ∧ c ≤ '9' then some (c.toNat - 48)
  else if 'a' ≤ c ∧ c ≤ 'f' then some (c.toNat - 87)
  else if 'A' ≤ c ∧ c ≤ 'F' then some (c.toNat - 55)
  else none

/-- The bytes of a text in which a percent sign and two hexadecimal digits stand for a byte. -/
def unescape : List Char → List UInt8
  | [] => []
  | '%' :: a :: b :: rest => match hexValue? a, hexValue? b with
    | some x, some y => UInt8.ofNat (x * 16 + y) :: unescape rest
    | _, _ => utf8 '%' ++ unescape (a :: b :: rest)
  | c :: rest => utf8 c ++ unescape rest

end FleetFeed.Url
