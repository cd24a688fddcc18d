import Linewise.Proofs.Calculator.Turn
import Linewise.Proofs.Lexer.Found

/-!
# Keeping — what every turn keeps of the lexer

A turn does three things to its lexer: it looks for the next token, it takes one, and it gives up
the rest of a line.  What each of these keeps is kept on any course of a session, whatever is
written and reported meanwhile.
-/

namespace Linewise

namespace Calculator

open Lexer

/-- A property of lexers that is kept by looking for a token, by taking it, and by giving up the
rest of the line. -/
structure Kept (P : Lexer Kind → Prop) : Prop where
  prime {lexer : Lexer Kind} (h : P lexer) : P lexer.prime.state
  nextToken {lexer : Lexer Kind} (h : P lexer) : P lexer.nextToken.state
  skipLine {lexer : Lexer Kind} (h : P lexer) : P lexer.skipLine.1

namespace Kept

variable {P : Lexer Kind → Prop} (hkept : Kept P) {lexer after : Lexer Kind}

include hkept

theorem takes (h : P lexer) {ts : List (Token Kind)} (htakes : lexer.Takes ts after) : P after := by
  induction htakes with
  | nil => exact h
  | cons _ _ ih => exact ih (hkept.nextToken h)

theorem nextExpression (h : P lexer) : P (nextExpression lexer).state := by
  cases readsNext lexer with
  | ended ok ends state => rw [state]; exact hkept.prime h
  | failed error prime state => rw [state]; exact hkept.prime h
  | started t next going reads =>
    cases reads with
    | read ts value takes => exact hkept.takes h takes
    | misread ts t error takes => exact hkept.takes h takes
    | unexpected ts kind before takes _ _ _ state =>
      rw [state]
      exact hkept.prime (hkept.takes h takes)
    | failed ts before error takes _ _ state =>
      rw [state]
      exact hkept.prime (hkept.takes h takes)

end Kept

theorem kept_rules (rules : List (Rule Kind)) : Kept fun lexer => lexer.rules = rules :=
  ⟨(rules_prime _).trans, (rules_nextToken _).trans, id⟩

theorem kept_holds {P : Token Kind → Prop} : Kept (Lexer.Holds P) :=
  ⟨Lexer.Holds.prime, Lexer.Holds.nextToken, Lexer.Holds.skipLine⟩

end Calculator

open Calculator Lexer

namespace Session

variable {P : Lexer Kind → Prop} (hkept : Kept P) {session first : Session}

include hkept

theorem kept_recover (h : P session.lexer) (error : CalcError) :
    P (session.recover error).state.lexer := by
  unfold recover
  split
  · show P session.lexer.discard.state
    rw [state_discard]
    exact hkept.nextToken h
  · exact hkept.skipLine h
  · exact h

theorem kept_turn (h : P session.lexer) : P session.turn.state.lexer := by
  obtain ⟨⟨sink, hsink⟩, -⟩ := session.onlySink_showPrompt
  have hread : P session.showPrompt.state.read.lexer := by
    rw [hsink]
    exact hkept.nextExpression h
  cases session.turned with
  | unprompted failure prompt state => rw [state, hsink]; exact h
  | ended prompt verdict state => rw [state]; exact hread
  | answered value prompt verdict state =>
    obtain ⟨⟨sink, htell⟩, -⟩ := session.showPrompt.state.read.onlySink_tell value
    rw [state, htell]
    exact hread
  | reported error prompt verdict recoverable state =>
    rw [state]
    cases session.showPrompt.state.read.reported error with
    | unwritten failure sink state => rw [state]; exact hread
    | passed sink state =>
      rw [state]
      exact kept_recover hkept (by exact hread) error
  | failed error prompt verdict final state => rw [state]; exact hread

/-- What the lexer of the first session has, the lexer of every session on its course has. -/
theorem Course.kept {allowed : Sink → Prop} (hcourse : Course allowed first session)
    (h : P first.lexer) : P session.lexer :=
  hcourse.preserves (fun session => P session.lexer) h (fun _ => kept_turn hkept) fun _ _ _ ih => ih

end Session

end Linewise
