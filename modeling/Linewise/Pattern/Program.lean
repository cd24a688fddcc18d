import Linewise.Pattern.Node

/-!
# Programs — a pattern as instructions

A program is a sequence of instructions that name their successors by number.  A fork has a
preferred successor; a mark records the place at which a group begins or ends.  Instructions are
laid out from the end of the pattern to its beginning, so that each knows its successor.
-/

namespace Linewise

inductive Instr where
  | chars (set : CharSet) (next : Nat)
  | look (look : Look) (next : Nat)
  | mark (slot : Nat) (next : Nat)
  | fork (preferred other : Nat)
  | accept
deriving DecidableEq, Repr

/-- Instructions, numbered from zero. -/
abbrev Program := Array Instr

namespace Program

/-- A stretch of a program under construction: takes the number of the instruction to go on with
and gives the number to begin with. -/
abbrev Layout := Nat → StateM Program Nat

/-- Appends an instruction and gives its number. -/
def emit (instr : Instr) : StateM Program Nat := modifyGet fun program =>
  (program.size, program.push instr)

def patch (pc : Nat) (instr : Instr) : StateM Program Unit := modify fun program =>
  program.set! pc instr

/-- A fork between going on and leaving, the former preferred when `greedy`. -/
def loopFork (greedy : Bool) (again leave : Nat) : Instr :=
  if greedy then .fork again leave else .fork leave again

def copies (count : Nat) (body : Layout) : Layout := fun next =>
  match count with
  | 0 => return next
  | count + 1 => do copies count body (← body next)

/-- The stretch up to `count` times in a row; each repetition may be the last. -/
def optionals (count : Nat) (greedy : Bool) (body : Layout) (next : Nat) : StateM Program Nat :=
  match count with
  | 0 => return next
  | count + 1 => do
    let rest ← optionals count greedy body next
    emit (loopFork greedy (← body rest) next)

def oneOrMore (greedy : Bool) (body : Layout) : Layout := fun next => do
  -- the place of the fork, which needs to know where the body begins
  let loop ← emit .accept
  let entry ← body loop
  patch loop (loopFork greedy entry next)
  return entry

/-- The stretch any number of times, for a stretch that always consumes something. -/
def zeroOrMore (greedy : Bool) (body : Layout) : Layout := fun next => do
  let loop ← emit .accept
  let entry ← body loop
  patch loop (loopFork greedy entry next)
  return loop

end Program

namespace Node

open Program in
/-- The instructions of a pattern.  A repetition of a pattern that may accept the empty text is
laid out as an optional run of one or more, which keeps the order of preference. -/
def layout : Node → Layout
  | .empty => fun next => return next
  | .chars set => fun next => emit (.chars set next)
  | .look l => fun next => emit (.look l next)
  | .group index body => fun next => do
    let stop ← emit (.mark (2 * index + 1) next)
    emit (.mark (2 * index) (← body.layout stop))
  -- from back to front, since an instruction names the one to go on with
  | .seq a b => fun next => do a.layout (← b.layout next)
  | .alt a b => fun next => do
    let other ← b.layout next
    emit (.fork (← a.layout next) other)
  | .rep 0 none greedy body => fun next => do
    if body.mayBeEmpty then
      emit (loopFork greedy (← oneOrMore greedy body.layout next) next)
    else
      zeroOrMore greedy body.layout next
  | .rep (min + 1) none greedy body => fun next => do
    copies min body.layout (← oneOrMore greedy body.layout next)
  | .rep min (some max) greedy body => fun next => do
    copies min body.layout (← optionals (max - min) greedy body.layout next)

/-- The program of a pattern and the number of its first instruction. -/
def program (node : Node) : Nat × Program :=
  (node.layout 0).run #[.accept]

end Node

end Linewise
