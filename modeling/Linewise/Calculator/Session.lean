import Linewise.Calculator.Expression
import Linewise.Calculator.Sink
import Linewise.Number.Shortest

/-!
# Sessions — reading, evaluating and printing

A session reads expressions from its lexer and writes their values, one a line.  An error in an
expression is written as a line too, and the session goes on behind what caused it: an unexpected
token is discarded, and text that no rule matches is skipped with the rest of its line.  A session
with a prompt writes it whenever the next token has to come from a new line.
-/

namespace Linewise

open Calculator

/-- How many expressions were evaluated and how many errors reported. -/
structure Summary where
  evaluated : Nat
  errors : Nat
deriving DecidableEq, Repr

namespace Summary

def fields (summary : Summary) : List (String × String) :=
  [("evaluated", toString summary.evaluated), ("errors", toString summary.errors)]

end Summary

/-- A session: its lexer, where it writes, its prompt if it has one, and its counts. -/
structure Session where
  lexer : Lexer Kind
  sink : Sink
  prompt : Option String
  summary : Summary
deriving DecidableEq, Repr

inductive SessionEvent where
  | lexing (event : LexEvent Kind)
  | evaluated (lhs : Float) (op : Operator) (rhs result : Float)
  | finished (summary : Summary)

namespace SessionEvent

def record : SessionEvent → LogRecord
  | .lexing event => event.record
  | .evaluated lhs op rhs result =>
    ⟨.debug, "evaluated", [("lhs", numberText lhs), ("op", op.symbol), ("rhs", numberText rhs),
      ("result", numberText result)]⟩
  | .finished summary => ⟨.debug, "session finished", summary.fields⟩

end SessionEvent

abbrev SessionOutcome (α : Type) := Outcome Session SessionEvent CalcError α

namespace Session

def interactivePrompt : String := "> "

/-- A session in front of a reader, if the calculator's rules are fit. -/
def start (reader : Reader) (sink : Sink) (prompt : Option String) : Except RuleError Session :=
  (Calculator.lexer reader).map fun lexer => ⟨lexer, sink, prompt, ⟨0, 0⟩⟩

/-- Runs an operation on the session's sink. -/
def onSink (session : Session) (operation : Sink → Except Failure Unit × Sink) :
    SessionOutcome Unit :=
  let (result, sink) := operation session.sink
  ⟨result.mapError .output, { session with sink := sink }, []⟩

def write (session : Session) (text : String) : SessionOutcome Unit :=
  session.onSink (·.write text)

/-- The outcome of reading with the session's lexer. -/
def reading {α : Type} (session : Session) (outcome : CalcOutcome α) : SessionOutcome α :=
  outcome.embed (fun lexer => { session with lexer := lexer }) .lexing id

/-- Whether the next token has to come from a new line. -/
def needsLine (session : Session) : Bool :=
  session.lexer.rest.isEmpty && !session.lexer.isReleased

/-- Writes the prompt, if there is one and a new line is needed. -/
def showPrompt (session : Session) : SessionOutcome Unit :=
  match session.prompt with
  | none => .done () session
  | some prompt =>
    if session.needsLine then
      (session.write prompt).andThen fun _ session => session.onSink Sink.flush
    else .done () session

def answer (session : Session) (e : Expression) : SessionOutcome Unit :=
  match evaluate? e.lhs e.op e.rhs with
  | none => .fail .divisionByZero session
  | some value =>
    let counted := { session with
      summary := { session.summary with evaluated := session.summary.evaluated + 1 } }
    (counted.write (numberText value ++ "\n")).preceded [.evaluated e.lhs e.op e.rhs value]

/-- Reads an expression and answers it.  The result says whether the session goes on. -/
def step (session : Session) : SessionOutcome Bool :=
  (session.reading (nextExpression session.lexer)).andThen fun expression session =>
    match expression with
    | none => .done false session
    | some e => (session.answer e).andThen fun _ session => .done true session

/-- Goes past whatever caused an error. -/
def recover (session : Session) (error : CalcError) : SessionOutcome Unit :=
  match error with
  | .lex ⟨_, .unexpected _ _ _⟩ => session.reading (lexed session.lexer.discard)
  | .lex ⟨_, .unmatched _⟩ =>
    let (lexer, events) := session.lexer.skipLine
    ⟨.ok (), { session with lexer := lexer }, events.map .lexing⟩
  -- what caused any other error is behind the lexer already
  | _ => .done () session

/-- Reports an error and goes past its cause. -/
def report (session : Session) (error : CalcError) : SessionOutcome Unit :=
  let counted := { session with
    summary := { session.summary with errors := session.summary.errors + 1 } }
  (counted.write ("error: " ++ error.message ++ "\n")).andThen fun _ session =>
    session.recover error

/-- One turn of the session: prompt, step, and recovery from an error that allows it.  The result
says whether the session goes on. -/
def turn (session : Session) : SessionOutcome Bool :=
  session.showPrompt.andThen fun _ session =>
    session.step.orElse fun error session =>
      if error.isRecoverable then
        (session.report error).andThen fun _ session => .done true session
      else .fail error session

end Session

end Linewise
