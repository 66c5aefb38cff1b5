/-! The small parts of a TOML document: blanks, comments, strings and keys. A reader gives what it read and what follows
it, or nothing. -/
namespace FleetFeed.Toml

def isSpace (c : Char) : Bool := c == ' ' || c == '\t'

def skipSpaces (cs : List Char) : List Char := cs.dropWhile isSpace

/-- A character that may stand in a comment or a text: no control character but the tab. -/
def isPlain (c : Char) : Bool := c == '\t' || (32 ≤ c.toNat && c.toNat != 127)

def newline? : List Char → Option (List Char)
  | '\n' :: rest | '\r' :: '\n' :: rest => some rest
  | _ => none

/-- Skips a comment where there is one. -/
def comment? : List Char → Option (List Char)
  | '#' :: rest =>
    let rest := rest.dropWhile isPlain
    if rest.isEmpty || (newline? rest).isSome then some rest else none
  | cs => some cs

/-- The end of a line, or of the document. -/
def lineEnd? (cs : List Char) : Option (List Char) := do
  let cs ← comment? (skipSpaces cs)
  if cs.isEmpty then some [] else newline? cs

/-- Skips blanks, comments and line ends; the fuel is the length of the text. -/
def skipLines? : Nat → List Char → Option (List Char)
  | 0, cs => some cs
  | fuel + 1, cs => do
    let cs ← comment? (skipSpaces cs)
    match newline? cs with
    | some rest => skipLines? fuel rest
    | none => some cs

/-! ### Strings -/

def hexNumber? (digits : List Char) : Option Nat :=
  digits.foldlM (fun n c =>
    if '0' ≤ c ∧ c ≤ '9' then some (n * 16 + (c.toNat - 48))
    else if 'a' ≤ c ∧ c ≤ 'f' then some (n * 16 + (c.toNat - 87))
    else if 'A' ≤ c ∧ c ≤ 'F' then some (n * 16 + (c.toNat - 55))
    else none) 0

def scalar? (digits : List Char) : Option Char := do
  let n ← hexNumber? digits
  if h : n.isValidChar then some (Char.ofNatAux n h) else none

/-- The character of an escape after its backslash. -/
def escape? : List Char → Option (Char × List Char)
  | 'b' :: rest => some ('\x08', rest)
  | 't' :: rest => some ('\t', rest)
  | 'n' :: rest => some ('\n', rest)
  | 'f' :: rest => some ('\x0c', rest)
  | 'r' :: rest => some ('\r', rest)
  | '"' :: rest => some ('"', rest)
  | '\\' :: rest => some ('\\', rest)
  | 'u' :: rest => if rest.length < 4 then none else do return (← scalar? (rest.take 4), rest.drop 4)
  | 'U' :: rest => if rest.length < 8 then none else do return (← scalar? (rest.take 8), rest.drop 8)
  | _ => none

/-- The rest of a string on one line; `raw` strings have no escapes. The fuel is the length of the text. -/
def line? (quote : Char) (raw : Bool) : Nat → List Char → Option (List Char × List Char)
  | 0, _ | _, [] => none
  | fuel + 1, c :: rest =>
    if c == quote then some ([], rest)
    else if c == '\\' && !raw then do
      let (e, rest) ← escape? rest
      let (cs, rest) ← line? quote raw fuel rest
      return (e :: cs, rest)
    else if isPlain c then do
      let (cs, rest) ← line? quote raw fuel rest
      return (c :: cs, rest)
    else none

/-- Blanks and line ends after a backslash at the end of a line. -/
private def continuation? (cs : List Char) : Option (List Char) := do
  let rest ← newline? (skipSpaces cs)
  let rec skip : Nat → List Char → List Char
    | 0, cs => cs
    | fuel + 1, cs => match newline? (skipSpaces cs) with
      | some rest => skip fuel rest
      | none => skipSpaces cs
  return skip rest.length rest

/-- The rest of a string of several lines. Up to two quotes may stand before the three that close it. -/
def lines? (quote : Char) (raw : Bool) : Nat → List Char → Option (List Char × List Char)
  | 0, _ | _, [] => none
  | fuel + 1, c :: rest =>
    if c == quote then
      let run := 1 + (rest.takeWhile (· == quote)).length
      if run < 3 then do
        let (cs, rest) ← lines? quote raw fuel rest
        return (c :: cs, rest)
      else if run ≤ 5 then some (List.replicate (run - 3) quote, rest.drop (run - 1))
      else none
    else if c == '\\' && !raw then
      match continuation? rest with
      | some rest => lines? quote raw fuel rest
      | none => do
        let (e, rest) ← escape? rest
        let (cs, rest) ← lines? quote raw fuel rest
        return (e :: cs, rest)
    else match newline? (c :: rest) with
      | some rest => do
        let (cs, rest) ← lines? quote raw fuel rest
        return ('\n' :: cs, rest)
      | none =>
        if isPlain c then do
          let (cs, rest) ← lines? quote raw fuel rest
          return (c :: cs, rest)
        else none

private def skipNewline (cs : List Char) : List Char := (newline? cs).getD cs

/-- A string of any of the four kinds. -/
def string? (cs : List Char) : Option (String × List Char) := do
  let (text, rest) ← match cs with
    | '"' :: '"' :: '"' :: rest => let rest := skipNewline rest; lines? '"' false rest.length rest
    | '\'' :: '\'' :: '\'' :: rest => let rest := skipNewline rest; lines? '\'' true rest.length rest
    | '"' :: rest => line? '"' false rest.length rest
    | '\'' :: rest => line? '\'' true rest.length rest
    | _ => none
  return (String.ofList text, rest)

/-! ### Keys -/

def inBareKey (c : Char) : Bool := c.isAlphanum || c == '_' || c == '-'

def simpleKey? (cs : List Char) : Option (String × List Char) := match cs with
  | '"' :: rest => do let (k, rest) ← line? '"' false rest.length rest; return (String.ofList k, rest)
  | '\'' :: rest => do let (k, rest) ← line? '\'' true rest.length rest; return (String.ofList k, rest)
  | cs =>
    let k := cs.takeWhile inBareKey
    if k.isEmpty then none else some (String.ofList k, cs.drop k.length)

def keyPath? : Nat → List Char → Option (List String × List Char)
  | 0, _ => none
  | fuel + 1, cs => do
    let (k, rest) ← simpleKey? (skipSpaces cs)
    match skipSpaces rest with
    | '.' :: rest => do
      let (ks, rest) ← keyPath? fuel rest
      return (k :: ks, rest)
    | rest => return ([k], rest)

/-- How many parts a key may have, and how deep values may nest. -/
def maxDepth : Nat := 79

/-- A key, its parts between dots; blanks around it are skipped. -/
def key? (cs : List Char) : Option (List String × List Char) := do
  let (ks, rest) ← keyPath? (cs.length + 1) cs
  if ks.length ≤ maxDepth then return (ks, rest) else none

end FleetFeed.Toml
