import Linewise.Number.Binary64

/-!
# Reading numbers — the grammar of number texts

A number is an optional sign and then `inf`, `infinity` or `nan` in any case, or ASCII digits with
at most one point and an optional exponent.  There is a digit before or behind the point.
-/

namespace Linewise

inductive NumberFault where
  | empty
  | invalid
deriving DecidableEq, Repr

namespace NumberFault

def message : NumberFault → String
  | .empty => "cannot parse float from empty string"
  | .invalid => "invalid float literal"

end NumberFault

namespace NumberText

/-- The sign in front of a text, and the text behind it. -/
def splitSign : List Char → Bool × List Char
  | '-' :: rest => (true, rest)
  | '+' :: rest => (false, rest)
  | text => (false, text)

def splitDigits (text : List Char) : List Char × List Char :=
  (text.takeWhile Char.isDigit, text.dropWhile Char.isDigit)

def value (digits : List Char) : Nat :=
  digits.foldl (fun n c => n * 10 + (c.toNat - '0'.toNat)) 0

/-- The exponent that a text denotes; an empty text is no exponent at all. -/
def exponent? : List Char → Option Int
  | [] => some 0
  | c :: rest =>
    let (negative, rest) := splitSign rest
    let (digits, rest) := splitDigits rest
    if (c == 'e' || c == 'E') && !digits.isEmpty && rest.isEmpty then
      some (if negative then -(value digits : Int) else value digits)
    else none

/-- The digits and the exponent of a number without sign. -/
def decimal? (text : List Char) : Option (Nat × Int) :=
  let (whole, rest) := splitDigits text
  let (fraction, rest) := match rest with
    | '.' :: rest => splitDigits rest
    | rest => ([], rest)
  if whole.isEmpty && fraction.isEmpty then none
  else (exponent? rest).map fun e => (value (whole ++ fraction), e - fraction.length)

/-- The number of a text without sign. -/
def unsigned? (negative : Bool) (text : List Char) : Option Float :=
  match String.ofList (text.map Char.toLower) with
  | "inf" | "infinity" => some (Binary64.ofMagnitudeBits negative Binary64.infinityBits)
  | "nan" => some (Binary64.ofMagnitudeBits negative (Binary64.infinityBits + (1 <<< 51)))
  | _ => (decimal? text).map fun (digits, e) => Binary64.ofDecimal negative digits e

end NumberText

def readNumber (text : String) : Except NumberFault Float :=
  if text.isEmpty then .error .empty
  else
    let (negative, rest) := NumberText.splitSign text.toList
    match NumberText.unsigned? negative rest with
    | some x => .ok x
    | none => .error .invalid

end Linewise
