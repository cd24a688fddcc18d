import Linewise.Calculator.Progress

/-!
# Runs — a session from here to its end

A run takes turns until the word `exit`, the end of input, or an error that ends the session.  It
ends because every turn uses something up.
-/

namespace Linewise

namespace Session

/-- Takes turns to the end of the session and gives its counts. -/
def run (session : Session) : SessionOutcome Summary :=
  let turn := session.turn
  match h : turn.result with
  | .error error => ⟨.error error, turn.state, turn.events⟩
  | .ok true =>
    have := budget_turn_lt h
    turn.state.run.preceded turn.events
  | .ok false =>
    ⟨.ok turn.state.summary, turn.state, turn.events ++ [.finished turn.state.summary]⟩
termination_by session.lexer.budget

/-- Runs the session several times, each time with an emptied sink that keeps its bounds, and
gives the outcome of each run. -/
def runMany (session : Session) (count : Nat) : List (SessionOutcome Summary) :=
  match count with
  | 0 => []
  | count + 1 =>
    let outcome := { session with sink := { session.sink with written := [] } }.run
    outcome :: outcome.state.runMany count

end Session

end Linewise
