import Linewise.Pattern.Escape

/-!
# Brackets — character classes

A bracket holds literals, ranges, classes and further brackets.  Neighbours are united; `&&`,
`--` and `~~` combine what stands on their two sides, from left to right.  When case is ignored
every leaf is closed under case variants, and so is every set built from them.
-/

namespace Linewise

inductive BracketOp where
  | inter
  | diff
  | symmDiff
deriving DecidableEq, Repr

namespace BracketOp

def apply : BracketOp → CharSet → CharSet → CharSet
  | .inter, s, t => .inter s t
  | .diff, s, t => .diff s t
  | .symmDiff, s, t => .symmDiff s t

end BracketOp

/-- A set and the depth to which its parts are nested. -/
structure BracketPart where
  set : CharSet
  depth : Nat
deriving Repr

namespace BracketPart

/-- The union of the parts; two or more of them make a level of nesting. -/
def unite (parts : List BracketPart) : BracketPart :=
  let depth := (parts.map (·.depth)).foldl max 0
  ⟨.unions (parts.map (·.set)), if parts.length ≤ 1 then depth else depth + 1⟩

/-- What an operator makes of its two sides; a missing operator leaves the right side alone. -/
def combine (left : Option (BracketPart × BracketOp)) (right : BracketPart) : BracketPart :=
  match left with
  | none => right
  | some (left, op) => ⟨op.apply left.set right.set, max left.depth right.depth + 1⟩

end BracketPart

namespace Reading

/-- Reads a class named between `[:` and `:]`, such as the letters of ASCII.  Gives nothing, and
passes nothing, if there is none. -/
def asciiClass? : Reading (Option CharSet) := do
  let cursor ← get
  match cursor.rest with
  | '[' :: ':' :: text =>
    let (negated, text) := match text with
      | '^' :: text => (true, text)
      | text => (false, text)
    let name := text.takeWhile (· != ':')
    match text.dropWhile (· != ':'), CharSet.ofAsciiName? (String.ofList name) with
    | ':' :: ']' :: rest, some s =>
      set { cursor with rest := rest }
      return some (← negateIf negated (← foldSet s))
    | _, _ => return none
  | _ => return none

/-- Reads hyphens that stand for themselves in front of a bracket's parts. -/
def leadingHyphens : Reading (List BracketPart) := do
  let hyphens ← many (· == '-')
  let leaf ← foldSet (.single '-')
  return hyphens.map fun _ => ⟨leaf, 0⟩

/-- Reads the opening of a bracket: whether it is negated, and the hyphens or the closing bracket
that stand for themselves in front. -/
def bracketOpening : Reading (Bool × List BracketPart) := do
  skipSpaced
  let negated := (← peek) == '^'
  if negated then skipSpaced
  let hyphens ← leadingHyphens
  if hyphens.isEmpty && (← peek) == ']' then
    skipSpaced
    return (negated, [⟨← foldSet (.single ']'), 0⟩])
  else
    return (negated, hyphens)

/-- Reads one member of a bracket: an escape or a character that stands for itself. -/
def bracketAtom : Reading Atom := do
  let c ← peek
  if c = '\\' then escape
  else
    skip
    return .literal c

/-- The character of a literal member; anything else cannot end a range. -/
def literalOf : Atom → Reading Char
  | .literal c => do
    require ((← modes).unicode || c.toNat < 128)
    return c
  | _ => failure

/-- The character that decides whether a hyphen makes a range: in verbose mode the first one
behind the hyphen that is neither a blank nor the sign of a comment. -/
def afterHyphen? : Reading (Option Char) := do
  let rest := (← get).rest.tail
  if (← modes).verbose then
    let rec seek (inComment : Bool) : List Char → Option Char
      | [] => rest.head?
      | c :: more =>
        if isBlank c then seek inComment more
        else if !inComment && c = '#' then seek true more
        else some c
    return seek false rest
  else
    return rest.head?

def bracketRange : Reading CharSet := do
  let first ← bracketAtom
  skipIgnored
  let c ← peek
  let next ← afterHyphen?
  -- a hyphen at the end of the bracket or in front of another one stands for itself
  if c = '-' && next != some ']' && next != some '-' then
    skipSpaced
    let _ ← peek
    let last ← bracketAtom
    let lo ← literalOf first
    let hi ← literalOf last
    require (lo ≤ hi)
    foldSet (.range lo hi)
  else
    match first with
    | .set s => return s
    | first => do foldSet (.single (← literalOf first))

def bracketOp? : Reading (Option BracketOp) := do
  if ← accept "&&" then return some .inter
  else if ← accept "--" then return some .diff
  else if ← accept "~~" then return some .symmDiff
  else return none

/-- Reads the parts of a bracket up to its end.  `left` is what stands on the left of the last
operator, `parts` are the parts read since, the last one first; `fuel` bounds the number of
parts. -/
def bracketBody (fuel : Nat) (negated : Bool) (left : Option (BracketPart × BracketOp))
    (parts : List BracketPart) : Reading BracketPart :=
  match fuel with
  | 0 => failure
  | fuel + 1 => do
    skipIgnored
    let c ← peek
    if c = ']' then
      skip
      let body := BracketPart.combine left (.unite parts.reverse)
      return ⟨← negateIf negated body.set, body.depth + 1⟩
    else if c = '[' then
      match ← asciiClass? with
      | some s => bracketBody fuel negated left (⟨s, 0⟩ :: parts)
      | none =>
        let (innerNegated, leading) ← bracketOpening
        let inner ← bracketBody fuel innerNegated none leading
        bracketBody fuel negated left (inner :: parts)
    else
      match ← bracketOp? with
      | some op =>
        -- operators bind to the left
        let side := BracketPart.combine left (.unite parts.reverse)
        bracketBody fuel negated (some (side, op)) []
      | none =>
        let s ← bracketRange
        bracketBody fuel negated left (⟨s, 0⟩ :: parts)

/-- Reads a bracket; the cursor stands at its opening. -/
def bracket : Reading BracketPart := do
  let fuel := (← get).rest.length
  let (negated, leading) ← bracketOpening
  bracketBody (fuel + 1) negated none leading

end Reading

end Linewise
