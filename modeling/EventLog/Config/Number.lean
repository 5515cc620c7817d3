import EventLog.Config.Document

/-!
# Reading numbers

A number without a fraction and without a power is a whole number if it fits into 64 bits, signed or
not. Every other number, negative zero included, is read as a significand of 64 bits and a power of
ten. Digits go into the significand as long as it fits; of those left over, each one before the
point raises the power, and those after it are dropped. The value is the significand, rounded to a
binary number, times or divided by the power of ten, and rounded again: near the number that is
written, though not always the nearest.
-/

namespace EventLog.Config.Number

/-- The value of a decimal digit. -/
def digitValue (c : Char) : Nat := c.toNat - '0'.toNat

/-- The value of decimal digits. -/
def digitsValue (digits : List Char) : Nat :=
  digits.foldl (fun n c => 10 * n + digitValue c) 0

/-- The numbers of 64 bits are those below. -/
def wordLimit : Nat := 1 <<< 64

/-- Takes digits into a significand as long as it fits: the significand, and how many it took. -/
def takeDigits (significand : Nat) : List Char → Nat × Nat
  | [] => (significand, 0)
  | c :: rest =>
    let next := 10 * significand + digitValue c
    if next < wordLimit then
      let (significand, taken) := takeDigits next rest
      (significand, taken + 1)
    else (significand, 0)

/-- A power of ten; those up to 308 are finite. -/
def tenTo (power : Nat) : Float := Float.ofScientific 1 false power

/-- A number times a power of ten, unless it is too large. A power that is too small for one
division is divided in parts. -/
def scale (x : Float) (power : Int) : Option Float :=
  if power.natAbs ≤ 308 then
    let scaled := if 0 ≤ power then x * tenTo power.natAbs else x / tenTo power.natAbs
    if scaled.isInf then none else some scaled
  else if x == 0 then some x
  else if 0 < power then none
  else scale (x / tenTo 308) (power + 308)
termination_by power.natAbs
decreasing_by omega

/-- The binary number for digits before and after the point and a power of ten. -/
def approximate (whole fraction : List Char) (power : Int) : Option Float :=
  let (significand, taken) := takeDigits 0 whole
  let raised := whole.length - taken
  let (significand, lowered) := takeDigits significand fraction
  scale significand.toUInt64.toFloat (power + raised - lowered)

end EventLog.Config.Number

namespace EventLog.Config

/-- A number: an optional minus, digits without a needless zero, a fraction, a power. -/
def Document.ofNumber? (text : List Char) : Option (Document × List Char) := do
  let negative := text.head? = some '-'
  let text := if negative then text.drop 1 else text
  let whole := text.takeWhile Char.isDigit
  let rest := text.dropWhile Char.isDigit
  if whole = [] ∨ (whole.length > 1 ∧ whole.head? = some '0') then none
  let pointed := rest.head? = some '.'
  let fraction := if pointed then (rest.drop 1).takeWhile Char.isDigit else []
  let rest := if pointed then (rest.drop 1).dropWhile Char.isDigit else rest
  if pointed ∧ fraction = [] then none
  let powered := rest.head? = some 'e' ∨ rest.head? = some 'E'
  let sign := (rest.drop 1).head?
  let after := if sign = some '+' ∨ sign = some '-' then rest.drop 2 else rest.drop 1
  let power := if powered then after.takeWhile Char.isDigit else []
  let rest := if powered then after.dropWhile Char.isDigit else rest
  if powered ∧ power = [] then none
  let value := Number.digitsValue whole
  let fits :=
    if negative then value ≤ Number.wordLimit / 2 ∧ value ≠ 0 else value < Number.wordLimit
  if ¬ pointed ∧ ¬ powered ∧ fits then
    some (.int (if negative then -(value : Int) else value), rest)
  else
    let exponent : Int :=
      if powered ∧ sign = some '-' then -(Number.digitsValue power : Int)
      else Number.digitsValue power
    let magnitude ← Number.approximate whole fraction exponent
    some (.float (if negative then -magnitude else magnitude), rest)

end EventLog.Config
