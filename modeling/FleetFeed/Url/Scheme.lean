/-! Schemes of URLs, in lower case. -/
namespace FleetFeed.Url

def isLetter (c : Char) : Bool := ('a' ≤ c && c ≤ 'z') || ('A' ≤ c && c ≤ 'Z')

def isDigit (c : Char) : Bool := '0' ≤ c && c ≤ '9'

def inScheme (c : Char) : Bool := isLetter c || isDigit c || c == '+' || c == '-' || c == '.'

/-- The scheme that a name stands for. -/
def scheme? (name : List Char) : Option String :=
  if name.head?.any isLetter && name.all inScheme then some (String.ofList (name.map Char.toLower)) else none

def defaultPort? (scheme : String) : Option Nat :=
  [("http", 80), ("https", 443), ("ws", 80), ("wss", 443), ("ftp", 21)].lookup scheme

def isFile (scheme : String) : Bool := scheme == "file"

/-- Schemes whose URLs always have an authority. -/
def isSpecial (scheme : String) : Bool := isFile scheme || (defaultPort? scheme).isSome

end FleetFeed.Url
