import Linewise.Pattern
import Linewise.Text.Utf8

/-!
# Rules — how tokens are recognized

A rule pairs a kind with a pattern.  Its pattern is tried on the unread text of a line, behind a
look that holds at the beginning of a text only, and the token's text is what group 1 of the
pattern captured.  A pattern without a group is refused when the rule is made.  The matches of an
ignored rule are passed over.
-/

namespace Linewise

inductive RuleError where
  | invalidPattern (pattern : String)
  | missingGroup (pattern : String)
deriving DecidableEq, Repr

namespace RuleError

def message : RuleError → String
  | .invalidPattern pattern => "invalid token pattern \x60" ++ pattern ++ "\x60"
  | .missingGroup pattern =>
    "token pattern \x60" ++ pattern ++
      "\x60 has no capture group; the token text is taken from group 1"

end RuleError

/-- A kind of token, the pattern that recognizes it, and whether its matches are passed over. -/
structure Rule (κ : Type) where
  kind : κ
  pattern : String
  compiled : Pattern
  ignored : Bool
deriving DecidableEq, Repr

/-- A match of a rule: where it begins, the text it covers, and the text of its first group. -/
structure RuleMatch where
  start : Nat
  lexeme : List Char
  captured : List Char
  lexeme_ne_nil : lexeme ≠ []
deriving DecidableEq, Repr

namespace RuleMatch

def bytes (m : RuleMatch) : Nat := byteLength m.lexeme

def chars (m : RuleMatch) : Nat := m.lexeme.length

theorem bytes_pos (m : RuleMatch) : 0 < m.bytes := byteLength_pos m.lexeme_ne_nil

theorem chars_pos (m : RuleMatch) : 0 < m.chars := List.length_pos_iff.mpr m.lexeme_ne_nil

end RuleMatch

namespace Rule

variable {κ : Type}

/-- The text of a pattern behind a look at the beginning of the text. -/
def anchoredText (pattern : String) : List Char := "\\A(?:".toList ++ pattern.toList ++ [')']

def make (kind : κ) (pattern : String) (ignored : Bool) : Except RuleError (Rule κ) :=
  match Pattern.ofText? (anchoredText pattern) with
  | none => .error (.invalidPattern pattern)
  | some compiled =>
    if compiled.groupCount < 2 then .error (.missingGroup pattern)
    else .ok ⟨kind, pattern, compiled, ignored⟩

/-- The rule's match in a text.  A match of no characters counts as none, since it would leave
the lexer where it is. -/
def matchStart? (rule : Rule κ) (text : List Char) : Option RuleMatch := do
  let m ← rule.compiled.find? text
  let lexeme := m.text text
  if h : lexeme = [] then none else some ⟨m.start, lexeme, m.groupText 1 text, h⟩

/-- The first of several rules that has a match in a text, and its match. -/
def firstMatch? (rules : List (Rule κ)) (text : List Char) : Option (Rule κ × RuleMatch) :=
  rules.findSome? fun rule => (rule.matchStart? text).map fun m => (rule, m)

/-- Whether every match of the rule begins where the text begins. -/
def IsAnchored (rule : Rule κ) : Prop :=
  ∀ text m, rule.matchStart? text = some m → m.start = 0

end Rule

end Linewise
