import Linewise.Number.Binary64

/-!
# Shortest decimals — the text of a double

The text of a finite double has the fewest digits that read back as the double and, of those, the
digits nearest to it; halfway between two it has the greater one.  It is always positional: no
exponent, no point behind a whole number.
-/

namespace Linewise

/-- A decimal: `0.d₁d₂… * 10 ^ point`. -/
structure Decimal where
  digits : List Char
  point : Int
deriving DecidableEq, Repr

namespace Decimal

/-! ## Choosing the digits -/

/-- A double in quarters of its unit in the last place: its value, the ends of the interval of
numbers that read back as it, whether the ends do, and the exponent of the quarters. -/
structure Interval where
  low : Nat
  value : Nat
  high : Nat
  closed : Bool
  exponent : Int
deriving DecidableEq, Repr

/-- The interval of a finite double.  Below the least significand of an exponent the doubles lie
twice as close. -/
def Interval.ofFinite (significand : Nat) (exponent : Int) : Interval :=
  let below := if significand = Binary64.hidden then 1 else 2
  { low := 4 * significand - below, value := 4 * significand, high := 4 * significand + 2,
    closed := significand % 2 == 0, exponent := exponent - 2 }

/-- The interval in steps of `10 ^ step`, each bound as a numerator over one denominator. -/
def Interval.onGrid (interval : Interval) (step : Int) : Nat × Nat × Nat × Nat :=
  let up := Nat.pow 10 (-step).toNat <<< interval.exponent.toNat
  let down := Nat.pow 10 step.toNat <<< (-interval.exponent).toNat
  (interval.low * up, interval.value * up, interval.high * up, down)

/-- The number on the grid of step `10 ^ step` that stands for the double, if one of the two
neighbours of the double on the grid does. -/
def Interval.pick? (interval : Interval) (step : Int) : Option Nat :=
  let (low, value, high, den) := interval.onGrid step
  let below := value / den
  let above := below + 1
  let belowFits := if interval.closed then low ≤ below * den else low < below * den
  let aboveFits := if interval.closed then above * den ≤ high else above * den < high
  if belowFits && aboveFits then
    -- the nearer one, and halfway between them the greater one
    some (if value - below * den < above * den - value then below else above)
  else if belowFits then some below
  else if aboveFits then some above
  else none

/-- The number of digits of the integer part of the double, at least for one beyond one; for a
smaller one, zero or less, by the zeros behind the point. -/
def Interval.magnitude (interval : Interval) : Int :=
  let (_, value, _, den) := interval.onGrid 0
  if den ≤ value then (Nat.toDigits 10 (value / den)).length
  else
    let zeros := (Nat.toDigits 10 (den / value)).length - 1
    if den = value * Nat.pow 10 zeros then 1 - zeros else -zeros

/-- The first pick on ever finer grids; `tries` bounds the number of grids. -/
def Interval.shortest (interval : Interval) (tries : Nat) (step : Int) : Nat × Int :=
  match tries with
  | 0 => (0, step)
  | tries + 1 =>
    match interval.pick? step with
    | some number => (number, step)
    | none => interval.shortest tries (step - 1)

def digitLimit : Nat := 17

/-- The shortest decimal of a finite double other than zero. -/
def shortest (significand : Nat) (exponent : Int) : Decimal :=
  let interval := Interval.ofFinite significand exponent
  let (number, step) := interval.shortest (digitLimit + 1) (interval.magnitude - 1)
  let digits := Nat.toDigits 10 number
  ⟨digits, digits.length + step⟩

/-! ## Writing -/

def trimZeros (digits : List Char) : List Char := (digits.reverse.dropWhile (· == '0')).reverse

def text (decimal : Decimal) : String :=
  let digits := trimZeros decimal.digits
  let zeros (n : Int) := List.replicate n.toNat '0'
  String.ofList <|
    if decimal.point ≤ 0 then '0' :: '.' :: (zeros (-decimal.point) ++ digits)
    else if digits.length ≤ decimal.point then digits ++ zeros (decimal.point - digits.length)
    else digits.take decimal.point.toNat ++ '.' :: digits.drop decimal.point.toNat

end Decimal

def numberText (x : Float) : String :=
  let sign := if Binary64.isNegative x then "-" else ""
  match Binary64.magnitudeOfBits (Binary64.magnitudeBits x) with
  | .notANumber => "NaN"
  | .infinite => sign ++ "inf"
  | .finite significand exponent =>
    if significand = 0 then sign ++ "0"
    else sign ++ (Decimal.shortest significand exponent).text

end Linewise
