import EventLog.Config.Number

/-!
# Reading documents from JSON text

`Document.ofJson?` reads a whole text, or nothing if it is not well formed.
-/

namespace EventLog.Config.Json

/-- Leaves out the blanks at the start. -/
def skip (text : List Char) : List Char :=
  text.dropWhile fun c => c = ' ' || c = '\t' || c = '\n' || c = '\r'

/-- The value of a hexadecimal digit. -/
def hexDigit? (c : Char) : Option Nat :=
  if c.isDigit then some (c.toNat - '0'.toNat)
  else if 'a' ≤ c ∧ c ≤ 'f' then some (c.toNat - 'a'.toNat + 10)
  else if 'A' ≤ c ∧ c ≤ 'F' then some (c.toNat - 'A'.toNat + 10)
  else none

/-- A unit of sixteen bits in four hexadecimal digits. -/
def unit? (text : List Char) : Option (Nat × List Char) := do
  let digits ← (text.take 4).mapM hexDigit?
  if digits.length = 4 then some (digits.foldl (16 * · + ·) 0, text.drop 4) else none

/-- The character after the `u` of an escape: one unit, or two that form a pair. -/
def unicode? (text : List Char) : Option (Char × List Char) := do
  let (high, rest) ← unit? text
  if 0xD800 ≤ high ∧ high < 0xDC00 then
    match rest with
    | '\\' :: 'u' :: more =>
      let (low, rest) ← unit? more
      if 0xDC00 ≤ low ∧ low < 0xE000 then
        some (Char.ofNat (0x10000 + (high - 0xD800) * 0x400 + (low - 0xDC00)), rest)
      else none
    | _ => none
  else if 0xDC00 ≤ high ∧ high < 0xE000 then none
  else some (Char.ofNat high, rest)

/-- The character after a backslash. -/
def escaped? : List Char → Option (Char × List Char)
  | 'u' :: rest => unicode? rest
  | 'n' :: rest => some ('\n', rest)
  | 't' :: rest => some ('\t', rest)
  | 'r' :: rest => some ('\r', rest)
  | 'b' :: rest => some ('\x08', rest)
  | 'f' :: rest => some ('\x0c', rest)
  | '"' :: rest => some ('"', rest)
  | '\\' :: rest => some ('\\', rest)
  | '/' :: rest => some ('/', rest)
  | _ => none

/-- The text up to the closing quote. The characters read so far are in reverse. -/
def string? (fuel : Nat) (read : List Char) (text : List Char) : Option (String × List Char) :=
  match fuel, text with
  | 0, _ => none
  | _, [] => none
  | fuel + 1, c :: rest =>
    if c = '"' then some (String.ofList read.reverse, rest)
    else if c = '\\' then
      match escaped? rest with
      | some (d, rest) => string? fuel (d :: read) rest
      | none => none
    else if c.toNat < 0x20 then none
    else string? fuel (c :: read) rest

/-- The word, if the text starts with it, and the rest. -/
def word? (word : String) (value : Document) (text : List Char) : Option (Document × List Char) :=
  if word.toList.isPrefixOf text then some (value, text.drop word.length) else none

mutual

/-- One document, and the text after it. -/
def value? (fuel : Nat) (text : List Char) : Option (Document × List Char) :=
  match fuel with
  | 0 => none
  | fuel + 1 =>
    match skip text with
    | [] => none
    | c :: rest =>
      if c = '"' then (string? (rest.length + 1) [] rest).map fun (s, rest) => (.str s, rest)
      else if c = '[' then
        match skip rest with
        | ']' :: rest => some (.seq [], rest)
        | _ => elements? fuel [] rest
      else if c = '\x7b' then
        match skip rest with
        | '\x7d' :: rest => some (.map [], rest)
        | _ => fields? fuel [] rest
      else if c = 't' then word? "true" (.bool true) (c :: rest)
      else if c = 'f' then word? "false" (.bool false) (c :: rest)
      else if c = 'n' then word? "null" .null (c :: rest)
      else Document.ofNumber? (c :: rest)

/-- The elements up to the closing bracket. Those read so far are in reverse. -/
def elements? (fuel : Nat) (read : List Document) (text : List Char) :
    Option (Document × List Char) :=
  match fuel with
  | 0 => none
  | fuel + 1 =>
    match value? fuel text with
    | none => none
    | some (value, rest) =>
      match skip rest with
      | ',' :: rest => elements? fuel (value :: read) rest
      | ']' :: rest => some (.seq (value :: read).reverse, rest)
      | _ => none

/-- The fields up to the closing brace. Those read so far are in reverse. -/
def fields? (fuel : Nat) (read : List (String × Document)) (text : List Char) :
    Option (Document × List Char) :=
  match fuel with
  | 0 => none
  | fuel + 1 =>
    match skip text with
    | '"' :: rest =>
      match string? (rest.length + 1) [] rest with
      | none => none
      | some (key, rest) =>
        match skip rest with
        | ':' :: rest =>
          match value? fuel rest with
          | none => none
          | some (value, rest) =>
            match skip rest with
            | ',' :: rest => fields? fuel ((key, value) :: read) rest
            | '\x7d' :: rest => some (Document.ofFields ((key, value) :: read).reverse, rest)
            | _ => none
        | _ => none
    | _ => none

end

end EventLog.Config.Json

namespace EventLog.Config

/-- The document that a JSON text holds, if it holds exactly one. -/
def Document.ofJson? (text : String) : Option Document :=
  let chars := text.toList
  match Json.value? (2 * chars.length + 2) chars with
  | some (value, rest) => if Json.skip rest = [] then some value else none
  | none => none

end EventLog.Config
