import Linewise.Token

/-!
# Events — what the lexer reports of its work

Events tell a reader of the log which lines were read, which tokens were found and which text was
passed over.  `LogRecord` is the form in which events of every part of the library are written.
-/

namespace Linewise

inductive LogLevel where
  | trace
  | debug
  | info
deriving DecidableEq, Repr

namespace LogLevel

def name : LogLevel → String
  | .trace => "TRACE"
  | .debug => "DEBUG"
  | .info => "INFO"

end LogLevel

/-- A line of the log: level, message, and named values in order. -/
structure LogRecord where
  level : LogLevel
  message : String
  fields : List (String × String)
deriving DecidableEq, Repr

inductive LexEvent (κ : Type) where
  | lineRead (line bytes : Nat)
  | tokenFound (token : Token κ)
  | matchIgnored (position : Position)
  | sourceReleased
  | lineSkipped (line : Nat) (text : String)
  | tokenDiscarded (text : String)
deriving DecidableEq, Repr

namespace LexEvent

/-- The greatest number of characters of a discarded token that the log shows. -/
def labelLimit : Nat := 32

/-- A text cut to `labelLimit` characters, with three dots if it was longer. -/
def label (text : String) : String :=
  if text.length ≤ labelLimit then text
  else String.ofList (text.toList.take labelLimit) ++ "..."

def positionFields (position : Position) : List (String × String) :=
  [("line", toString position.line), ("column", toString position.column)]

def record {κ : Type} [TokenKind κ] : LexEvent κ → LogRecord
  | .lineRead line bytes =>
    ⟨.trace, "read line", [("line", toString line), ("len", toString bytes)]⟩
  | .tokenFound token =>
    ⟨.trace, "token",
      [("kind", TokenKind.name token.kind), ("text", token.text)] ++ positionFields token.position⟩
  | .matchIgnored position => ⟨.trace, "ignored match", positionFields position⟩
  | .sourceReleased => ⟨.debug, "line source exhausted, reader released", []⟩
  | .lineSkipped line text =>
    ⟨.debug, "skipping rest of line", [("line", toString line), ("skipped", text)]⟩
  | .tokenDiscarded text => ⟨.trace, "discarded", [("token", label text)]⟩

end LexEvent

end Linewise
