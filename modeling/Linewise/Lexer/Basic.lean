import Linewise.LexError
import Linewise.Lexer.Scan
import Linewise.Outcome
import Linewise.Source

/-!
# The lexer — tokens from a source, one at a time

A lexer reads its source line by line and keeps the unread text of the current line, without
blanks in front.  One token is held as lookahead; it is looked for only when it is asked about.
-/

namespace Linewise

/-- The state of a lexer: where its lines come from, its rules in order of preference, the current
line and its unread part, the position reached, and what is known of the next token. -/
structure Lexer (κ : Type) where
  source : Source
  rules : List (Rule κ)
  line : List Char
  rest : List Char
  position : Position
  lookahead : Lookahead κ
deriving DecidableEq, Repr

abbrev LexOutcome (κ α : Type) := Outcome (Lexer κ) (LexEvent κ) (LexError κ) α

namespace Lexer

variable {κ : Type}

/-- A lexer without rules in front of a source, from which nothing has been read. -/
def ofSource (source : Source) : Lexer κ := ⟨source, [], [], [], .start, .unprimed⟩

def ofReader (reader : Reader) : Lexer κ := ofSource (.reading reader)

/-- Adds a rule, to be tried after those already there. -/
def addRule (lexer : Lexer κ) (rule : Rule κ) : Lexer κ :=
  { lexer with rules := lexer.rules ++ [rule] }

def addRules (lexer : Lexer κ) (rules : List (Rule κ)) : Lexer κ :=
  { lexer with rules := lexer.rules ++ rules }

/-- Adds the rule for a kind and a pattern, if the pattern is fit for a rule. -/
def define (lexer : Lexer κ) (kind : κ) (pattern : String) (ignored : Bool) :
    Except RuleError (Lexer κ) :=
  (Rule.make kind pattern ignored).map lexer.addRule

/-- The unread text of the current line, without blanks in front. -/
def remaining (lexer : Lexer κ) : String := String.ofList lexer.rest

/-- Whether the source has ended and let go of its reader. -/
def isReleased (lexer : Lexer κ) : Bool := lexer.source.isReleased

def startLine (lexer : Lexer κ) (source : Source) (text : List Char) : Lexer κ :=
  { lexer with source, line := text, rest := trimBlanks text, position := lexer.position.nextLine }

/-- The lexer after a line could not be read.  The line counts as read. -/
def loseLine (lexer : Lexer κ) (source : Source) : Lexer κ :=
  { lexer with source, line := [], rest := [], position := lexer.position.nextLine }

/-- What is reported when the source has no more lines: that the reader is let go, unless that
happened before. -/
def releaseEvents (source : Source) : List (LexEvent κ) :=
  if source.isReleased then [] else [.sourceReleased]

def scanned (lexer : Lexer κ) : Lexer κ :=
  let scan := Scan.line lexer.rules lexer.position lexer.rest
  { lexer with rest := scan.rest, position := scan.position, lookahead := .unprimed }

/-- Looks for the next token, reading lines as needed.  On an error nothing is known of the next
token, and text that no rule matches stays unread. -/
def advance (lexer : Lexer κ) : LexOutcome κ Unit :=
  let scan := Scan.line lexer.rules lexer.position lexer.rest
  let here := lexer.scanned
  match scan.found with
  | .token t => ⟨.ok (), { here with lookahead := .token t }, scan.events⟩
  | .unmatched =>
    ⟨.error ⟨here.position, .unmatched here.remaining⟩, here, scan.events⟩
  | .splitCharacter => ⟨.error ⟨here.position, .splitCharacter⟩, here, scan.events⟩
  | .lineEnd =>
    -- all of the line has been read
    match h : lexer.source.nextLine with
    | (.line text, source) =>
      have := (Source.weight_nextLine_of_line h).2
      let next := here.startLine source text
      next.advance.preceded
        (scan.events ++ [.lineRead next.position.line (byteLength text)])
    | (.finished, source) =>
      ⟨.ok (), { here with source, lookahead := .endOfInput },
        scan.events ++ releaseEvents lexer.source⟩
    | (.failed failure, source) =>
      let next := here.loseLine source
      ⟨.error ⟨next.position, .device failure⟩, next, scan.events⟩
termination_by lexer.source.weight

/-- Makes sure that the next token, or that there is none, is known. -/
def prime (lexer : Lexer κ) : LexOutcome κ Unit :=
  match lexer.lookahead with
  | .unprimed => lexer.advance
  | .token _ | .endOfInput => .done () lexer

def take (lexer : Lexer κ) : Option (Token κ) × Lexer κ :=
  match lexer.lookahead with
  | .token t => (some t, { lexer with lookahead := .unprimed })
  | .unprimed | .endOfInput => (none, lexer)

end Lexer

end Linewise
