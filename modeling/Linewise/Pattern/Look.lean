import Linewise.Pattern.CharSet

/-!
# Looks — conditions on the place between two characters

A look consumes nothing.  Whether it holds depends on the character before the place and the
character after it; a missing character means the edge of the text.
-/

namespace Linewise

/-- A condition on the place between two characters.  Lines end at line feeds in `lineStart` and
`lineEnd`, and at line feeds, carriage returns and pairs of them in `breakStart` and `breakEnd`,
which do not hold inside a pair.  The half edges of words ask about one side only. -/
inductive Look where
  | textStart
  | textEnd
  | lineStart
  | lineEnd
  | breakStart
  | breakEnd
  | wordEdge (rule : CaseRule)
  | wordInside (rule : CaseRule)
  | wordStart (rule : CaseRule)
  | wordEnd (rule : CaseRule)
  | wordStartHalf (rule : CaseRule)
  | wordEndHalf (rule : CaseRule)
deriving DecidableEq, Repr

namespace Look

/-- Whether there is a character on this side and it belongs to a word. -/
def isWord (rule : CaseRule) (c : Option Char) : Bool :=
  match rule, c with
  | _, none => false
  | .unicode, some c => isWordChar c
  | .ascii, some c => CharSet.asciiWord.contains c

def holds (look : Look) (before after : Option Char) : Bool :=
  match look with
  | .textStart => before.isNone
  | .textEnd => after.isNone
  | .lineStart => before.isNone || before == some '\n'
  | .lineEnd => after.isNone || after == some '\n'
  | .breakStart =>
    before.isNone || before == some '\n' || (before == some '\r' && after != some '\n')
  | .breakEnd =>
    after.isNone || after == some '\r' || (after == some '\n' && before != some '\r')
  | .wordEdge rule => isWord rule before != isWord rule after
  | .wordInside rule => isWord rule before == isWord rule after
  | .wordStart rule => !isWord rule before && isWord rule after
  | .wordEnd rule => isWord rule before && !isWord rule after
  | .wordStartHalf rule => !isWord rule before
  | .wordEndHalf rule => !isWord rule after

end Look

end Linewise
