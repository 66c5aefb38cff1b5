import FleetFeed.Text.Mark
import FleetFeed.Text.Printable

/-! A text in quotes as error messages show it: a character that would not be seen is named by its code point. -/
namespace FleetFeed.Text

private def hexDigits (n : Nat) : String := String.ofList (Nat.toDigits 16 n)

def escapeVisible (c : Char) : String :=
  match c with
  | '"' => "\\\""
  | '\\' => "\\\\"
  | '\n' => "\\n"
  | '\r' => "\\r"
  | '\t' => "\\t"
  | '\x00' => "\\0"
  | c => if isExtending c || !isVisible c then "\\u\x7b" ++ hexDigits c.toNat ++ "\x7d" else String.singleton c

def quoted (s : String) : String := "\"" ++ String.join (s.toList.map escapeVisible) ++ "\""

end FleetFeed.Text
