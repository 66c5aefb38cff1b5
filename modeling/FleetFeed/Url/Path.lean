import FleetFeed.Url.Domain
import FleetFeed.Url.Scheme

/-! Paths of URLs. Segments of dots go up or stay, and in the file scheme a path may start with a drive. -/
namespace FleetFeed.Url

inductive Path where
  /-- Segments, each after a slash. A dot before all of them keeps two slashes from being taken for the start of an
  authority. -/
  | rooted (dotted : Bool) (segments : List String)
  /-- A text without structure. -/
  | plain (text : String)
  deriving DecidableEq, Repr

def Path.write : Path → String
  | .rooted dotted segments => (if dotted then "/." else "") ++ String.join (segments.map ("/" ++ ·))
  | .plain text => text

/-- The path of a URL that has no authority. -/
def Path.withoutAuthority (segments : List String) : Path :=
  .rooted (decide (1 < segments.length) && segments.head? == some "") segments

/-- A text without structure that does not start with a slash, even where it is given one. -/
def Path.ofPlain : List Char → Path
  | '/' :: rest => .plain (String.ofList ("%2F".toList ++ escape EscapeSet.control rest))
  | cs => .plain (String.ofList (escape EscapeSet.control cs))

/-! ### Segments -/

def isSingleDot (s : String) : Bool := s == "." || s == "%2e" || s == "%2E"

def isDoubleDot (s : String) : Bool :=
  s ∈ ["..", ".%2e", ".%2E", "%2e.", "%2E.", "%2e%2e", "%2e%2E", "%2E%2e", "%2E%2E"]

/-- The name of a drive: a letter and a colon, for which a bar may stand. -/
def isDrive : List Char → Bool
  | [a, b] => isLetter a && (b == ':' || b == '|')
  | _ => false

/-- The name of a drive, alone or with a backslash after it. -/
def startsWithDrive (cs : List Char) : Bool := isDrive cs || (isDrive (cs.take 2) && cs[2]? == some '\\')

/-- Goes up one level, but not above a drive. -/
def shorten (segments : List String) : List String :=
  if segments.getLast?.any fun s => startsWithDrive s.toList then segments else segments.dropLast

/-- Line ends and tabs, which count for nothing within a URL. -/
def isLineMark (c : Char) : Bool := c == '\t' || c == '\n' || c == '\r'

def withoutLineMarks (cs : List Char) : List Char := cs.filter (!isLineMark ·)

/-- The letter of a drive and what stands after it in the same segment, where line marks keep the two apart. -/
def cutDrive? (raw : List Char) : Option (Char × List Char) := match raw.dropWhile isLineMark with
  | a :: rest => match rest.dropWhile isLineMark with
    | ':' :: c :: rest =>
      let rest := withoutLineMarks rest
      if isLetter a && isLineMark c && !rest.isEmpty then some (a, rest) else none
    | _ => none
  | [] => none

/-- A path as far as it is read. -/
structure Walk where
  segments : List String
  /-- The first segment names a drive, and did so alone. -/
  hasDrive : Bool

/-- Adds one segment; `final` says that no slash follows it. The name of a drive counts only at the start of a path in the
file scheme. -/
def Walk.add (file : Bool) (w : Walk) (raw : List Char) (final : Bool) : Walk :=
  let text := withoutLineMarks raw
  let s := String.ofList (escape EscapeSet.path text)
  let pending := if final then [""] else []
  if isDoubleDot s then { w with segments := shorten w.segments ++ pending }
  else if isSingleDot s then { w with segments := w.segments ++ pending }
  else if file && w.segments.isEmpty then match cutDrive? raw, text with
    | some (a, rest), _ => { w with segments := [String.ofList [a, ':'], String.ofList (escape EscapeSet.path rest)] }
    | none, a :: _ => if isDrive text then ⟨[String.ofList [a, ':']], true⟩ else { w with segments := [s] }
    | none, [] => { w with segments := [s] }
  else { w with segments := w.segments ++ [s] }

def Walk.addAll (file : Bool) (w : Walk) : List (List Char) → Walk
  | [] => w
  | [s] => w.add file s true
  | s :: rest => addAll file (w.add file s false) rest

/-- Reads a path after its first slash. -/
def walk (scheme : String) (cs : List Char) : Walk :=
  .addAll (isFile scheme) ⟨[], false⟩ (splitAt (fun c => c == '/' || (isSpecial scheme && c == '\\')) cs)

/-- In the file scheme slashes at the start count as one. -/
def trimSegments (segments : List String) : List String :=
  let kept := segments.dropWhile String.isEmpty
  if kept.isEmpty then [""] else kept

/-- The segments of a path after its first slash. -/
def segmentsOf (scheme : String) (cs : List Char) : List String :=
  let segments := (walk scheme cs).segments
  if isFile scheme then trimSegments segments else segments

/-- The path of a URL with an authority. A known scheme has a slash at least. -/
def pathOf (scheme : String) (cs : List Char) : List String := match cs with
  | [] => if isSpecial scheme then [""] else []
  | c :: rest =>
    if c == '/' || (isSpecial scheme && c == '\\') then segmentsOf scheme rest else segmentsOf scheme cs

end FleetFeed.Url
