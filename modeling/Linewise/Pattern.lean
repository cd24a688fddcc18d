import Linewise.Pattern.Search
import Linewise.Pattern.Size
import Linewise.Pattern.Tree

/-!
# Patterns — regular expressions over characters

A pattern is read into a tree, laid out as a program and run over a text.  Of all matches the one
that begins first is found, and of those the one that the pattern prefers.
-/

namespace Linewise

structure Pattern where
  program : Program
  entry : Nat
  anchored : Bool
  groupCount : Nat
deriving DecidableEq, Repr

namespace Pattern

def ofNode (node : Node) : Pattern :=
  let (entry, program) := node.program
  ⟨program, entry, node.isAnchored, node.groupCount⟩

/-- The pattern with the given text, or nothing if the text is malformed or its pattern too
large. -/
def ofText? (text : List Char) : Option Pattern := do
  let node ← Node.read? text
  if node.isAdmitted then some (ofNode node) else none

def find? (pattern : Pattern) (text : List Char) : Option Match :=
  pattern.program.run pattern.entry pattern.anchored 0 none text [] none

end Pattern

end Linewise
