/-!
# The shortest decimal of a binary number

A binary floating-point number stands for an interval of reals that round to it. `shortest` finds
the decimal with the fewest digits inside that interval, and of two such the nearer, or the even one
if they are equally near. It uses exact arithmetic on whole numbers: for one digit, two digits and
so on it tries the two neighbours of the number on the grid of that many digits. `decimalText` lays
the digits out.
-/

namespace EventLog.Text

/-- The whole number `digits` times ten to the power `exponent`. -/
structure Decimal where
  digits : Nat
  exponent : Int
  deriving DecidableEq

/-- A positive binary number and its rounding interval, as multiples of a power of two. -/
structure Interval where
  low : Nat
  middle : Nat
  high : Nat
  /-- The power of two. -/
  exponent : Int
  /-- Whether the ends belong to the interval. -/
  closed : Bool

/-- The interval of the positive number with these bits: half a unit to both sides, but a quarter
below a power of two, where the numbers are twice as dense. -/
def Interval.ofBits (bits : Nat) : Interval :=
  let field : Nat := (bits >>> 52) % (1 <<< 11)
  let fraction : Nat := bits % (1 <<< 52)
  let mantissa := if field = 0 then fraction else (1 <<< 52) + fraction
  let exponent : Int := if field = 0 then -1074 else (field : Int) - 1075
  let below := if fraction = 0 ∧ 1 < field then 1 else 2
  { low := 4 * mantissa - below
    middle := 4 * mantissa
    high := 4 * mantissa + 2
    exponent := exponent - 2
    closed := mantissa % 2 = 0 }

namespace Interval

/-- Whole numbers in the proportion of `n` units of the interval to one unit of the decimal grid. -/
def proportion (i : Interval) (grid : Int) (n : Nat) : Nat × Nat :=
  ((n <<< i.exponent.toNat) * Nat.pow 10 (-grid).toNat,
    (1 <<< (-i.exponent).toNat) * Nat.pow 10 grid.toNat)

/-- The point of the decimal grid at or below the middle. -/
def below (i : Interval) (grid : Int) : Nat :=
  let (n, d) := i.proportion grid i.middle
  n / d

/-- Whether a point of the decimal grid lies in the interval. -/
def holds (i : Interval) (grid : Int) (point : Nat) : Bool :=
  let (low, d) := i.proportion grid i.low
  let (high, _) := i.proportion grid i.high
  if i.closed then low ≤ point * d && point * d ≤ high else low < point * d && point * d < high

/-- The neighbour of the middle on the decimal grid that lies in the interval: the nearer of two,
the even one of two that are equally near. -/
def pick (i : Interval) (grid : Int) : Option Nat :=
  let point := i.below grid
  match i.holds grid point, i.holds grid (point + 1) with
  | false, false => none
  | true, false => some point
  | false, true => some (point + 1)
  | true, true =>
    let (n, d) := i.proportion grid i.middle
    let half := (2 * point + 1) * d
    if 2 * n < half ∨ (2 * n = half ∧ point % 2 = 0) then some point else some (point + 1)

/-- The power of ten of the leading digit: the highest whose grid has a point in `1 … middle`. -/
def leading (i : Interval) : Int :=
  let grids := (List.range 650).map fun (n : Nat) => (310 : Int) - n
  (grids.find? fun grid => 0 < i.below grid).getD (-340)

end Interval

/-- Takes the zeros off the end of the digits. -/
def Decimal.trim : Nat → Decimal → Decimal
  | 0, d => d
  | fuel + 1, d =>
    if d.digits % 10 = 0 ∧ d.digits ≠ 0 then
      trim fuel { digits := d.digits / 10, exponent := d.exponent + 1 }
    else d

/-- The shortest decimal that rounds to the positive number with these bits. -/
def shortest (bits : Nat) : Decimal :=
  let i := Interval.ofBits bits
  let top := i.leading
  let found := (List.range 17).findSome? fun (n : Nat) =>
    let grid : Int := top - n
    (i.pick grid).map fun point => ({ digits := point, exponent := grid } : Decimal)
  (found.getD { digits := i.below (top - 17), exponent := top - 17 }).trim 20

/-- The layout of a decimal: with a point while the point falls less than five places before the
digits and at most sixteen places into them, else with a power of ten. -/
def Decimal.layout (d : Decimal) : String :=
  let digits := toString d.digits
  let count : Int := digits.length
  let point := count + d.exponent
  let head (n : Int) := String.ofList (digits.toList.take n.toNat)
  let tail (n : Int) := String.ofList (digits.toList.drop n.toNat)
  let zeros (n : Int) := String.ofList (List.replicate n.toNat '0')
  if 0 ≤ d.exponent ∧ point ≤ 16 then digits ++ zeros d.exponent ++ ".0"
  else if 0 < point ∧ point ≤ 16 then head point ++ "." ++ tail point
  else if -5 < point ∧ point ≤ 0 then "0." ++ zeros (-point) ++ digits
  else
    head 1 ++ (if count = 1 then "" else "." ++ tail 1) ++ (if 0 < point then "e+" else "e")
      ++ toString (point - 1)

/-- The text of a finite number. -/
def decimalText (x : Float) : String :=
  let bits := x.toBits.toNat
  let sign := if bits >>> 63 = 0 then "" else "-"
  let magnitude := bits % (1 <<< 63)
  if magnitude = 0 then sign ++ "0.0" else sign ++ (shortest magnitude).layout

end EventLog.Text
