import Linewise.Pattern.ByteForm
import Linewise.Pattern.Node
import Linewise.Text.Utf8

/-!
# Size — how much room the automata of a pattern take

A pattern stands for two automata over bytes: one reads a text forwards and marks the groups, the
other reads it backwards and marks nothing.  Their sizes bound what patterns are admitted.  A
repetition takes the room of its body as often as it is counted, and a set of characters that of
its byte forms: going forwards, equal continuations share a state; going backwards, equal
beginnings do.
-/

namespace Linewise

inductive Direction where
  | forwards
  | backwards
deriving DecidableEq, Repr

namespace Size

def state : Nat := 32

/-- The room of a range of bytes in a state that has several. -/
def edge : Nat := 8

/-- The room of a way out of a state that branches without reading. -/
def branch : Nat := 4

/-- The room of a state that reads one of `count` ranges of bytes. -/
def step (count : Nat) : Nat := if count = 1 then state else state + edge * count

/-! ## Sets -/

def ofSet (direction : Direction) (s : CharSet) : Nat :=
  match s.only? with
  | some c => c.utf8Size * state
  | none =>
    if s.table.ranges.all fun r => r.2 < 128 then 2 * state + edge * s.table.ranges.length
    else
      match direction with
      | .forwards =>
        state + (ByteForm.continuations 4 s.byteForms).eraseDups.foldr (fun forms count =>
          state + edge * (ByteForm.byFirst forms).length + count) 0
      | .backwards =>
        2 * state + branch * s.byteForms.length + state * ByteForm.beginnings [] s.byteForms

/-! ## Alternatives that are texts -/

/-- The texts between the empty ones. -/
def runs : List (List UInt8) → List (List (List UInt8))
  | [] => [[]]
  | [] :: texts => [] :: runs texts
  | text :: texts =>
    match runs texts with
    | run :: others => (text :: run) :: others
    | [] => [[text]]

/-- The room of a tree that branches where texts differ.  An empty text separates those in front
of it, which are preferred, from those behind; `depth` bounds the length of the texts. -/
def ofTree (depth : Nat) (texts : List (List UInt8)) : Nat :=
  match depth with
  | 0 => 0
  | depth + 1 =>
    if texts.all List.isEmpty then 0
    else
      let texts := match texts with
        | [] :: rest => [] :: rest.dropWhile List.isEmpty
        | texts => texts
      let runs := runs texts
      let ways := runs.countP (!·.isEmpty) + (runs.length - 1)
      state + branch * ways + (runs.map fun run =>
        let firsts := (run.filterMap List.head?).eraseDups
        (if firsts.isEmpty then 0 else step firsts.length) + (firsts.map fun first =>
          ofTree depth (run.filterMap fun text =>
            if text.head? = some first then some text.tail else none)).sum).sum

def ofTexts (direction : Direction) (texts : List (List Char)) : Nat :=
  let texts := (texts.map encodeUtf8).map fun bytes =>
    match direction with
    | .forwards => bytes
    | .backwards => bytes.reverse
  state + ofTree ((texts.map List.length).foldl max 0 + 1) texts

end Size

namespace Node

/-- The text that the pattern stands for, if it is one. -/
def text? : Node → Option (List Char)
  | .chars s => s.only?.map ([·])
  | .seq a b => do return (← a.text?) ++ (← b.text?)
  | _ => none

/-- The texts that the pattern's alternatives stand for, if each is one. -/
def texts? : Node → Option (List (List Char))
  | .alt a b => do return (← a.texts?) ++ (← b.texts?)
  | node => node.text?.map ([·])

open Size in
/-- The room of a pattern.  `asArm` asks for the room that the pattern adds to a branching state
whose alternative it is; alternatives of an alternative branch there too. -/
def room (direction : Direction) (asArm : Bool) (node : Node) : Nat :=
  let arm := if asArm then branch else 0
  let fork := state + 2 * branch
  match node with
  | .alt a b =>
    let arms := a.room direction true + b.room direction true
    if asArm then arms
    else
      match (Node.alt a b).texts? with
      | some texts => ofTexts direction texts
      | none => 2 * state + arms
  | .empty | .look _ => state + arm
  | .chars s => ofSet direction s + arm
  | .group _ body =>
    let marks := match direction with
      | .forwards => 2 * state
      | .backwards => 0
    body.room direction false + marks + arm
  | .seq a b => a.room direction false + b.room direction false + arm
  | .rep min max _ body =>
    let once := body.room direction false
    match min, max with
    | 0, none => once + fork + (if body.mayBeEmpty then fork + state else 0) + arm
    | min, none => min * once + fork + arm
    | 0, some 1 => once + fork + state + arm
    | min, some max =>
      if min = max then min * once + arm
      else
        (if min = 0 then state else min * once) + state + (max - min) * (once + fork) + arm

open Size in
/-- The room of the whole automaton: of the pattern, of the marks around it and of the state that
accepts, and of a loop in front that passes over bytes unless the automaton is anchored. -/
def size (direction : Direction) (node : Node) : Nat :=
  let loop := state + 2 * branch + 2 * state + edge
  node.room direction false + state +
    match direction with
    | .forwards => 2 * state + if node.isAnchored then state else loop
    | .backwards => loop

def sizeLimit : Nat := 10485760

/-- Whether both automata of the pattern keep to the limit. -/
def isAdmitted (node : Node) : Bool :=
  node.size .forwards ≤ sizeLimit && node.size .backwards ≤ sizeLimit

end Node

end Linewise
