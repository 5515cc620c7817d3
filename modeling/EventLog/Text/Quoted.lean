import EventLog.Text.Unprinted

/-!
# Quoted text

Text shown inside a message or a record description stands in double quotes. The quote, the
backslash and four controls have two-character escapes; a character without a printed form is
written by its code point in hexadecimal. Everything else stands for itself, the apostrophe too.
-/

namespace EventLog.Text

/-- A number in lower-case hexadecimal, without padding. -/
def hex (n : Nat) : String := String.ofList (Nat.toDigits 16 n)

/-- How a character is written between the quotes. -/
def escape (c : Char) : String :=
  match c with
  | '\x00' => "\\0"
  | '\t' => "\\t"
  | '\r' => "\\r"
  | '\n' => "\\n"
  | '"' => "\\\""
  | '\\' => "\\\\"
  | _ => if isUnprinted c then "\\u\x7b" ++ hex c.toNat ++ "\x7d" else c.toString

/-- The text in double quotes. -/
def quoted (text : String) : String :=
  "\"" ++ String.join (text.toList.map escape) ++ "\""

end EventLog.Text
