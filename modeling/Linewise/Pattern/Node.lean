import Linewise.Pattern.Look

/-!
# Nodes — a pattern as a tree

The tree of a pattern after reading: steps over one character, looks, numbered groups, and the
ways to combine them.  `Node.seqs`, `Node.alts` and `Node.repeated` combine patterns: what changes
nothing drops out, and alternatives share what all of them begin with.
-/

namespace Linewise

inductive Node where
  | empty
  | chars (set : CharSet)
  | look (look : Look)
  | group (index : Nat) (body : Node)
  | seq (first second : Node)
  | alt (first second : Node)
  | rep (min : Nat) (max : Option Nat) (greedy : Bool) (body : Node)
deriving DecidableEq, Repr

namespace Node

/-- Whether the pattern accepts no text but the empty one. -/
def isWidthless : Node → Bool
  | .empty | .look _ => true
  | .chars _ => false
  | .group _ body => body.isWidthless
  | .seq a b | .alt a b => a.isWidthless && b.isWidthless
  | .rep _ max _ body => max == some 0 || body.isWidthless

def mayBeEmpty : Node → Bool
  | .empty | .look _ => true
  | .chars _ => false
  | .group _ body => body.mayBeEmpty
  | .seq a b => a.mayBeEmpty && b.mayBeEmpty
  | .alt a b => a.mayBeEmpty || b.mayBeEmpty
  | .rep min _ _ body => min == 0 || body.mayBeEmpty

/-- Whether the pattern accepts only at the beginning of a text, as far as its shape tells. -/
def isAnchored : Node → Bool
  | .look .textStart => true
  | .empty | .chars _ | .look _ => false
  | .group _ body => body.isAnchored
  | .seq a b => a.isAnchored || (a.isWidthless && b.isAnchored)
  | .alt a b => a.isAnchored && b.isAnchored
  | .rep min _ _ body => min != 0 && body.isAnchored

/-- One more than the greatest index of a group in the pattern, and at least one. -/
def groupCount : Node → Nat
  | .empty | .chars _ | .look _ => 1
  | .group index body => max (index + 1) body.groupCount
  | .seq a b | .alt a b => max a.groupCount b.groupCount
  | .rep _ _ _ body => body.groupCount

def parts : Node → List Node
  | .seq a b => a.parts ++ b.parts
  | .empty => []
  | node => [node]

def arms : Node → List Node
  | .alt a b => a.arms ++ b.arms
  | node => [node]

/-- The set of characters that a pattern of one step accepts. -/
def set? : Node → Option CharSet
  | .chars set => some set
  | _ => none

/-- Whether a pattern accepts a certain character and nothing else. -/
def isSingle : Node → Bool
  | .chars set => set.only?.isSome
  | _ => false

/-- Whether two patterns are the same; sets of characters are compared by their ranges. -/
def isSame : Node → Node → Bool
  | .empty, .empty => true
  | .chars s, .chars t => s.table == t.table
  | .look a, .look b => a == b
  | .group i a, .group j b => i == j && a.isSame b
  | .seq a b, .seq c d | .alt a b, .alt c d => a.isSame c && b.isSame d
  | .rep least most greedy a, .rep least' most' greedy' b =>
    least == least' && most == most' && greedy == greedy' && a.isSame b
  | _, _ => false

/-! ## Sequences -/

/-- The given patterns one after the other; those that are empty drop out. -/
def seqs (nodes : List Node) : Node := chain (nodes.flatMap parts)
where
  /-- The given patterns one after the other. -/
  chain : List Node → Node
    | [] => .empty
    | [a] => a
    | a :: rest => .seq a (chain rest)

/-! ## Alternatives -/

/-- The given patterns as alternatives.  Those that are all single characters, or all sets of
several, make one set. -/
def choice (arms : List Node) : Node :=
  match arms.mapM set? with
  | some sets =>
    if sets.all (·.only?.isSome) || sets.all (·.only?.isNone) then .chars (.unions sets)
    else chain arms
  | none => chain arms
where
  /-- The given patterns as alternatives, the preferred one first. -/
  chain : List Node → Node
    | [] => .empty
    | [a] => a
    | a :: rest => .alt a (chain rest)

/-- The parts of a sequence, where single characters in a row make one piece. -/
def pieces (node : Node) : List (List Node) :=
  node.parts.splitBy fun a b => a.isSingle && b.isSingle

/-- The pieces that two sequences have in common in front. -/
def commonPieces : List (List Node) → List (List Node) → List (List Node)
  | p :: s, q :: t => if p.isEqv q isSame then p :: commonPieces s t else []
  | _, _ => []

/-- The pieces that all alternatives have in common in front; none unless each alternative has
several pieces. -/
def sharedPieces (arms : List (List (List Node))) : List (List Node) :=
  match arms with
  | first :: second :: rest =>
    if arms.all (1 < ·.length) then (second :: rest).foldl commonPieces first else []
  | _ => []

/-- The given patterns as alternatives, the preferred one first.  What all of them begin with
stands in front of the choice between the rests, so of two ways to match it the preferred one
comes before the preferred alternative. -/
def alts (nodes : List Node) : Node :=
  let arms := nodes.flatMap arms
  let sequences := arms.map pieces
  let front := sharedPieces sequences
  if front.isEmpty then choice arms
  else
    let rests := sequences.flatMap fun sequence =>
      (seqs (sequence.drop front.length).flatten).arms
    seqs (front.flatten ++ [choice rests])

/-! ## Repetitions -/

/-- The pattern repeated between `min` and `max` times; no `max` means no upper bound.  A pattern
without width is repeated at most once, no repetition at all is the empty pattern, and a single
one is the pattern itself. -/
def repeated (min : Nat) (max : Option Nat) (greedy : Bool) (body : Node) : Node :=
  let least := if body.isWidthless then Nat.min min 1 else min
  let most := if body.isWidthless then some ((max.map (Nat.min · 1)).getD 1) else max
  if most = some 0 then .empty
  else if least = 1 ∧ most = some 1 then body
  else .rep least most greedy body

end Node

end Linewise
