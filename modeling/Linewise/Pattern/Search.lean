import Linewise.Pattern.Program

/-!
# Search — running a program over a text

A thread is a place in the program together with the marks it has made.  All threads read the
text at the same pace and stand in order of preference; of two threads at one instruction the
preferred one stays.  When a thread accepts, the threads behind it are given up, so the match
found last is the preferred one.  Each character is read once, whatever the pattern.
-/

namespace Linewise

/-- The places at which groups began and ended, the latest first. -/
abbrev Marks := List (Nat × Nat)

/-- A place in the program, the place in the text at which the thread began, and its marks. -/
structure Thread where
  pc : Nat
  origin : Nat
  marks : Marks
deriving DecidableEq, Repr

/-- A match: where it begins and ends, in characters, and the marks of its groups. -/
structure Match where
  start : Nat
  stop : Nat
  marks : Marks
deriving DecidableEq, Repr

namespace Match

def length (m : Match) : Nat := m.stop - m.start

def text (m : Match) (whole : List Char) : List Char := (whole.drop m.start).take m.length

/-- Where a group last took part in the match, if it did. -/
def group? (m : Match) (index : Nat) : Option (Nat × Nat) := do
  return (← m.marks.lookup (2 * index), ← m.marks.lookup (2 * index + 1))

/-- The part of the text that a group accepted; empty if the group took no part. -/
def groupText (m : Match) (index : Nat) (whole : List Char) : List Char :=
  match m.group? index with
  | some (start, stop) => (whole.drop start).take (stop - start)
  | none => []

end Match

/-- A place in the text: its number and the characters around it. -/
structure Place where
  index : Nat
  before : Option Char
  after : Option Char
deriving DecidableEq, Repr

/-- The instructions reached at one place, and the threads that wait there for a character or have
accepted, the last one first. -/
structure Frontier where
  seen : List Nat
  threads : List Thread
deriving DecidableEq, Repr

namespace Program

/-- Follows a thread through the instructions that consume nothing.  `fuel` bounds the number of
instructions passed in a row. -/
def follow (program : Program) (place : Place) (fuel : Nat) (thread : Thread)
    (frontier : Frontier) : Frontier :=
  match fuel with
  | 0 => frontier
  | fuel + 1 =>
    -- a thread that came here before is the preferred one
    if frontier.seen.contains thread.pc then frontier
    else
      let frontier := { frontier with seen := thread.pc :: frontier.seen }
      match program[thread.pc]? with
      | none => frontier
      | some (.chars _ _) | some .accept =>
        { frontier with threads := thread :: frontier.threads }
      | some (.look look next) =>
        if look.holds place.before place.after then
          program.follow place fuel { thread with pc := next } frontier
        else frontier
      | some (.mark slot next) =>
        let marks := (slot, place.index) :: thread.marks
        program.follow place fuel { thread with pc := next, marks := marks } frontier
      | some (.fork preferred other) =>
        program.follow place fuel { thread with pc := other }
          (program.follow place fuel { thread with pc := preferred } frontier)

def settle (program : Program) (place : Place) (threads : List Thread) : List Thread :=
  let start : Frontier := ⟨[], []⟩
  (threads.foldl (fun frontier thread => program.follow place (program.size + 1) thread frontier)
    start).threads.reverse

def accepts (program : Program) (thread : Thread) : Bool :=
  program[thread.pc]? == some .accept

/-- A thread after reading a character, if its instruction allows the character. -/
def read? (program : Program) (c : Char) (thread : Thread) : Option Thread :=
  match program[thread.pc]? with
  | some (.chars set next) => if set.contains c then some { thread with pc := next } else none
  | _ => none

/-- Runs the threads over the text from a place on.  `entry` is the instruction at which threads
begin, and `anchored` says that they begin at the first place only.  `best` is the match found so
far. -/
def run (program : Program) (entry : Nat) (anchored : Bool) (index : Nat) (before : Option Char)
    (text : List Char) (threads : List Thread) (best : Option Match) : Option Match :=
  let fresh := if best.isNone && (index == 0 || !anchored) then [⟨entry, index, []⟩] else []
  let settled := program.settle ⟨index, before, text.head?⟩ (threads ++ fresh)
  -- threads behind one that has accepted give way to it
  let waiting := settled.takeWhile fun thread => !program.accepts thread
  let best := match settled.find? program.accepts with
    | some thread => some ⟨thread.origin, index, thread.marks⟩
    | none => best
  match text with
  | [] => best
  | c :: rest =>
    let threads := waiting.filterMap (program.read? c)
    -- stop when no thread is left and none will begin
    if threads.isEmpty && (best.isSome || anchored) then best
    else program.run entry anchored (index + 1) (some c) rest threads best

end Program

end Linewise
