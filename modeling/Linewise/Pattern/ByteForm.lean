import Linewise.Pattern.CharSet

/-!
# Byte forms — sets of characters as sequences of byte ranges

The UTF-8 encodings of a range of characters are described by a few forms.  A form gives a range
for each byte, and every choice of bytes from these ranges is the encoding of a character.  The
forms of a set stand in the order of their characters.
-/

namespace Linewise

/-- A range for each byte of an encoding, both ends included. -/
abbrev ByteForm := List (Nat × Nat)

namespace ByteForm

/-- The forms of the numbers from `lo` to `hi`, where a number is written as its highest digit,
added to `lead`, and `count` continuation bytes of six bits each.  Digits with a continuation that
is not open to all values get a form of their own. -/
def ofNumbers : (count lead lo hi : Nat) → List ByteForm
  | 0, lead, lo, hi => [[(lead + lo, lead + hi)]]
  | count + 1, lead, lo, hi =>
    let unit := 64 ^ (count + 1)
    let under := fun digit lo hi =>
      (ofNumbers count 0x80 lo hi).map ((lead + digit, lead + digit) :: ·)
    if lo / unit = hi / unit then under (lo / unit) (lo % unit) (hi % unit)
    else
      -- from `first` to `last` every continuation is in the range
      let first := if lo % unit = 0 then lo / unit else lo / unit + 1
      let last := if hi % unit = unit - 1 then hi / unit else hi / unit - 1
      (if lo % unit = 0 then [] else under (lo / unit) (lo % unit) (unit - 1)) ++
      (if first ≤ last then
        [(lead + first, lead + last) :: List.replicate (count + 1) (0x80, 0xBF)] else []) ++
      (if hi % unit = unit - 1 then [] else under (hi / unit) 0 (hi % unit))

/-- The ranges of characters whose encodings are of one kind: the number of continuation bytes,
what is added to the highest digit, and the least and the greatest code point. -/
def kinds : List (Nat × Nat × Nat × Nat) :=
  [(0, 0x00, 0x0, 0x7F), (1, 0xC0, 0x80, 0x7FF), (2, 0xE0, 0x800, 0xD7FF),
   (2, 0xE0, 0xE000, 0xFFFF), (3, 0xF0, 0x10000, 0x10FFFF)]

def ofRange (lo hi : Nat) : List ByteForm :=
  kinds.flatMap fun (count, lead, least, greatest) =>
    if max lo least ≤ min hi greatest then
      ofNumbers count lead (max lo least) (min hi greatest)
    else []

/-- The number of ranges that two forms have in common in front. -/
def common : ByteForm → ByteForm → Nat
  | a :: s, b :: t => if a = b then common s t + 1 else 0
  | _, _ => 0

/-- The number of different beginnings of the forms, `last` being the form in front of them. -/
def beginnings (last : ByteForm) : List ByteForm → Nat
  | [] => 0
  | form :: rest => form.length - common last form + beginnings form rest

/-- The forms by their first range: each first range with what may follow it. -/
def byFirst : List ByteForm → List ((Nat × Nat) × List ByteForm)
  | [] => []
  | [] :: forms => byFirst forms
  | (first :: rest) :: forms =>
    match byFirst forms with
    | (next, rests) :: others =>
      if first = next then (first, rest :: rests) :: others
      else (first, [rest]) :: (next, rests) :: others
    | [] => [(first, [rest])]

/-- Whatever may have to follow some bytes at the beginning of the forms, complete encodings apart;
`length` is the length of the longest form. -/
def continuations (length : Nat) (forms : List ByteForm) : List (List ByteForm) :=
  match length with
  | 0 => []
  | length + 1 =>
    if forms.all List.isEmpty && !forms.isEmpty then []
    else forms :: (byFirst forms).flatMap fun (_, rests) => continuations length rests

end ByteForm

def CharSet.byteForms (s : CharSet) : List ByteForm :=
  s.table.ranges.flatMap fun (lo, hi) => ByteForm.ofRange lo hi

end Linewise
