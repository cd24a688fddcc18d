import Linewise.Lexer.Basic
import Linewise.Text.Record

/-!
# Operations — asking for tokens and taking them

`peek`, `check` and their kin look at the next token and leave it; `consume`, `nextToken` and
`discard` take it.  An operation that does not get the token it requires leaves the token where it
is.  `skipLine` gives up the rest of the current line.
-/

namespace Linewise

namespace Lexer

variable {κ : Type}

def peek (lexer : Lexer κ) : LexOutcome κ (Option (Token κ)) :=
  lexer.prime.andThen fun _ primed => .done primed.lookahead.token? primed

/-- Takes the next token, whatever it is; none at the end of input. -/
def nextToken (lexer : Lexer κ) : LexOutcome κ (Option (Token κ)) :=
  lexer.prime.andThen fun _ primed => let (token, after) := primed.take; .done token after

/-- Takes the next token and forgets it.  Does nothing at the end of input. -/
def discard (lexer : Lexer κ) : LexOutcome κ Unit :=
  lexer.prime.andThen fun _ primed =>
    match primed.take with
    | (some t, after) => ⟨.ok (), after, [.tokenDiscarded t.text]⟩
    | (none, after) => .done () after

/-- Gives up the rest of the current line, and the lookahead with it.  Once the end of input is
known it stays known. -/
def skipLine (lexer : Lexer κ) : Lexer κ × List (LexEvent κ) :=
  let events :=
    if lexer.rest.isEmpty then []
    else [.lineSkipped lexer.position.line lexer.remaining]
  let lookahead := match lexer.lookahead with
    | .endOfInput => .endOfInput
    | _ => .unprimed
  ({ lexer with rest := [], lookahead := lookahead }, events)

variable [DecidableEq κ]

/-- Whether a token has the given kind and, if one is given, the given text. -/
def suits (kind : κ) (text : Option String) (token : Token κ) : Bool :=
  token.kind == kind && text.all (token.text == ·)

def check (lexer : Lexer κ) (kind : κ) (text : Option String) : LexOutcome κ Bool :=
  lexer.prime.andThen fun _ primed =>
    .done (primed.lookahead.token?.any (suits kind text)) primed

/-- Takes the next token if it has the given kind and text, and says whether it did. -/
def tryConsume (lexer : Lexer κ) (kind : κ) (text : Option String) : LexOutcome κ Bool :=
  (lexer.check kind text).andThen fun suited checked =>
    if suited then .done true checked.take.2 else .done false checked

def unexpected (lexer : Lexer κ) (kind : κ) (text : Option String) : LexError κ :=
  let found := lexer.lookahead.token?
  ⟨(found.map Token.position).getD lexer.position, .unexpected kind text found⟩

/-- Takes the next token, which must have the given kind and text, and gives its text. -/
def consume (lexer : Lexer κ) (kind : κ) (text : Option String) : LexOutcome κ String :=
  (lexer.check kind text).andThen fun suited checked =>
    match suited, checked.take with
    | true, (some t, after) => .done t.text after
    | _, _ => .fail (checked.unexpected kind text) checked

def inspect [TokenKind κ] (lexer : Lexer κ) : String :=
  recordText "Lexer" [("definitions", toString lexer.rules.length),
    ("remaining", Quoted.encode lexer.remaining), ("position", lexer.position.inspect),
    ("lookahead", lexer.lookahead.inspect)] true

end Lexer

end Linewise
