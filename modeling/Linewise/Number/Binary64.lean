/-!
# Binary64 — double-precision numbers as integers

A finite double of positive sign is `significand * 2 ^ exponent`.  Here doubles are taken apart
into these two integers and put together from an exact fraction, rounded to the nearest double
and, halfway between two, to the one with the even significand.
-/

namespace Linewise

inductive Magnitude where
  | finite (significand : Nat) (exponent : Int)
  | infinite
  | notANumber
deriving DecidableEq, Repr

namespace Binary64

/-- Half of the span of significands of normal doubles. -/
def hidden : Nat := 1 <<< 52

/-- The exponent of the smallest doubles. -/
def leastExponent : Int := -1074

def infinityBits : Nat := 2047 * hidden

def magnitudeBits (x : Float) : Nat := x.toBits.toNat % (1 <<< 63)

def isNegative (x : Float) : Bool := 1 <<< 63 ≤ x.toBits.toNat

def magnitudeOfBits (bits : Nat) : Magnitude :=
  let biased := bits / hidden
  let fraction := bits % hidden
  if biased = 2047 then
    if fraction = 0 then .infinite else .notANumber
  -- below the normal doubles the hidden bit is not set
  else if biased = 0 then .finite fraction leastExponent
  else .finite (fraction + hidden) (leastExponent + biased - 1)

/-- The quotient rounded to the nearest integer, and halfway between two to the even one. -/
def roundDiv (num den : Nat) : Nat :=
  let q := num / den
  let r := num % den
  if den < 2 * r || (2 * r == den && q % 2 == 1) then q + 1 else q

/-- The fraction divided by a power of two, as a fraction. -/
def scaleDown (num den : Nat) (exponent : Int) : Nat × Nat :=
  if 0 ≤ exponent then (num, den <<< exponent.toNat) else (num <<< (-exponent).toNat, den)

/-- The exponent at which the integer part of the fraction is a significand, or the least one. -/
def exponentFor (num den : Nat) : Int :=
  let guess : Int := (num.log2 : Int) - den.log2 - 53
  let (n, d) := scaleDown num den guess
  -- the guess is at most one too small
  max leastExponent (if n / d < 2 * hidden then guess else guess + 1)

/-- The bits of the double nearest to a fraction. -/
def bitsOfFraction (num den : Nat) : Nat :=
  if num = 0 then 0
  else
    let exponent := exponentFor num den
    let (n, d) := scaleDown num den exponent
    -- the hidden bit adds one to the exponent, and so does a significand rounded up beyond it
    min infinityBits ((exponent - leastExponent).toNat * hidden + roundDiv n d)

def ofMagnitudeBits (negative : Bool) (bits : Nat) : Float :=
  Float.ofBits (UInt64.ofNat (if negative then bits + (1 <<< 63) else bits))

/-- The double nearest to `digits * 10 ^ exponent`.  Numbers far beyond the range of doubles are
not written out. -/
def ofDecimal (negative : Bool) (digits : Nat) (exponent : Int) : Float :=
  let size : Int := (Nat.toDigits 10 digits).length + exponent
  let bits :=
    if digits = 0 || size < -400 then 0
    else if 400 < size then infinityBits
    else if 0 ≤ exponent then bitsOfFraction (digits * Nat.pow 10 exponent.toNat) 1
    else bitsOfFraction digits (Nat.pow 10 (-exponent).toNat)
  ofMagnitudeBits negative bits

end Binary64

end Linewise
