import Linewise.Calculator.Error
import Linewise.Calculator.Operator
import Linewise.Lexer.Progress

/-!
# Expressions — a number, an operator and a number

The calculator's lexer knows numbers, the four operators and the word `exit`.  Reading an
expression takes its three tokens one after the other; it ends early at the word `exit`, which it
leaves, and at the end of input.
-/

namespace Linewise

namespace Calculator

/-! ## Tokens -/

/-- The pattern of a number: digits, perhaps with a point and more digits. -/
def decimalPattern : String := "(\\d+(?:\\.\\d+)?)"

def operatorPattern : String := "(\\+|-|\\*|\\/)"

/-- The pattern of the word that ends a session. -/
def reservedPattern : String := "(exit)"

def exitWord : String := "exit"

/-- The lexer of the calculator in front of a reader. -/
def lexer (reader : Reader) : Except RuleError (Lexer Kind) := do
  let lexer ← (Lexer.ofReader reader).define .decimal decimalPattern false
  let lexer ← lexer.define .operator operatorPattern false
  lexer.define .reserved reservedPattern false

/-! ## Reading -/

/-- Two numbers and an operator between them. -/
structure Expression where
  lhs : Float
  op : Operator
  rhs : Float

abbrev CalcOutcome (α : Type) := Outcome (Lexer Kind) (LexEvent Kind) CalcError α

/-- The outcome of an operation of the lexer as part of reading an expression. -/
def lexed {α : Type} (outcome : LexOutcome Kind α) : CalcOutcome α :=
  outcome.embed id id .lex

def parseNumber (text : String) : Except CalcError Float :=
  (readNumber text).mapError (.invalidNumber text)

def parseOperator (text : String) : Except CalcError Operator :=
  match Operator.ofSymbol? text with
  | some op => .ok op
  | none => .error (.unknownOperator text)

/-- Takes a token of the given kind and reads its text. -/
def consumeAs {α : Type} (kind : Kind) (parse : String → Except CalcError α)
    (lexer : Lexer Kind) : CalcOutcome α :=
  (lexed (lexer.consume kind none)).andThen fun text after => ⟨parse text, after, []⟩

def consumeExpression (lexer : Lexer Kind) : CalcOutcome Expression :=
  (consumeAs .decimal parseNumber lexer).andThen fun lhs lexer =>
    (consumeAs .operator parseOperator lexer).andThen fun op lexer =>
      (consumeAs .decimal parseNumber lexer).andThen fun rhs lexer =>
        .done ⟨lhs, op, rhs⟩ lexer

/-- Whether the next token, or its absence, ends the session. -/
def atEnd (lexer : Lexer Kind) : CalcOutcome Bool :=
  lexed <| lexer.peek.andThen fun token lexer =>
    match token with
    | none => .done true lexer
    | some _ => lexer.check .reserved (some exitWord)

/-- Reads the next expression; none when the session ends here. -/
def nextExpression (lexer : Lexer Kind) : CalcOutcome (Option Expression) :=
  (atEnd lexer).andThen fun ended lexer =>
    if ended then .done none lexer
    else (consumeExpression lexer).andThen fun expression lexer => .done (some expression) lexer

end Calculator

end Linewise
