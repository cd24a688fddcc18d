import Linewise.Proofs.Calculator.Causality
import Linewise.Proofs.Calculator.Transparency

/-!
# Arrival — a session does not see how its input arrives

Sessions in front of sources that do not part read the same expressions, write the same and end
alike.  So what a session does over a reader depends on the bytes that the reader delivers, and not
on the chunks they come in.
-/

namespace Linewise

variable {R : Source → Source → Prop}

namespace Calculator

open Lexer

/-! ## 1. Reading an expression -/

/-- The outcomes of reading are the same, but for the sources of their lexers. -/
structure ReadAlike {α : Type} (R : Source → Source → Prop) (outcome other : CalcOutcome α) :
    Prop where
  result_eq : other.result = outcome.result
  state : outcome.state.Alike R other.state

theorem ReadAlike.andThen {α β : Type} {outcome other : CalcOutcome α}
    {next : α → Lexer Kind → CalcOutcome β} (h : ReadAlike R outcome other)
    (hnext : ∀ value {lexer other : Lexer Kind}, lexer.Alike R other →
      ReadAlike R (next value lexer) (next value other)) :
    ReadAlike R (outcome.andThen next) (other.andThen next) := by
  cases hresult : outcome.result with
  | ok value =>
    rw [Outcome.andThen_ok hresult, Outcome.andThen_ok (h.result_eq.trans hresult)]
    exact ⟨(hnext value h.state).result_eq, (hnext value h.state).state⟩
  | error error =>
    rw [Outcome.andThen_error hresult, Outcome.andThen_error (h.result_eq.trans hresult)]
    exact ⟨rfl, h.state⟩

section Parts

variable (hcouples : Source.Couples.Throughout R) {lexer other : Lexer Kind}
  (h : lexer.Alike R other)

include hcouples h

theorem readAlike_consumeAs {α : Type} (kind : Kind) (parse : String → Except CalcError α) :
    ReadAlike R (consumeAs kind parse lexer) (consumeAs kind parse other) := by
  obtain ⟨hanswer, -, hconsumed⟩ := (h.prime_throughout hcouples).ask (.consume kind none)
  have hconsume : (other.consume kind none).result = (lexer.consume kind none).result :=
    Outcome.result_eq_of_map (fun _ _ => Answer.text.inj) hanswer
  obtain ⟨hresult, hstate⟩ := consumeAs_eq parse kind lexer
  obtain ⟨hresult', hstate'⟩ := consumeAs_eq parse kind other
  refine ⟨by rw [hresult', hresult, hconsume], ?_⟩
  rw [hstate', hstate]
  exact hconsumed

theorem readAlike_consumeExpression :
    ReadAlike R (consumeExpression lexer) (consumeExpression other) := by
  refine (readAlike_consumeAs hcouples h .decimal parseNumber).andThen ?_
  intro lhs lexer other h
  refine (readAlike_consumeAs hcouples h .operator parseOperator).andThen ?_
  intro op lexer other h
  refine (readAlike_consumeAs hcouples h .decimal parseNumber).andThen ?_
  intro rhs lexer other h
  exact ⟨rfl, h⟩

theorem readAlike_atEnd : ReadAlike R (atEnd lexer) (atEnd other) := by
  have halike := h.prime_throughout hcouples
  refine ⟨?_, by rw [(atEnd_eq lexer).1, (atEnd_eq other).1]; exact halike.state⟩
  cases primed lexer with
  | token t ok lookahead =>
    rw [atEnd_of_token ok lookahead,
      atEnd_of_token (halike.result_eq.trans ok) (halike.lookahead_eq.trans lookahead)]
  | endOfInput ok lookahead =>
    rw [atEnd_of_endOfInput ok lookahead,
      atEnd_of_endOfInput (halike.result_eq.trans ok) (halike.lookahead_eq.trans lookahead)]
  | failed error result =>
    rw [atEnd_of_error result, atEnd_of_error (halike.result_eq.trans result)]

theorem readAlike_nextExpression : ReadAlike R (nextExpression lexer) (nextExpression other) := by
  refine (readAlike_atEnd hcouples h).andThen fun ended lexer other h => ?_
  cases ended with
  | true => exact ⟨rfl, h⟩
  | false => exact (readAlike_consumeExpression hcouples h).andThen fun e _ _ h => ⟨rfl, h⟩

theorem verdict_of_alike : verdict other = verdict lexer := by
  rw [verdict, verdict, (readAlike_nextExpression hcouples h).result_eq]

theorem alike_passOver (error : CalcError) : (passOver error lexer).Alike R (passOver error other) := by
  unfold passOver
  split
  · rw [state_discard, state_discard]
    exact (h.prime_throughout hcouples).nextToken.state
  · obtain ⟨source, hsource, rfl⟩ := h
    exact ⟨source, hsource, rfl⟩
  · exact h

/-- Both lexers give the same verdict, so both pass over the same error. -/
theorem alike_behindTurn : (behindTurn lexer).Alike R (behindTurn other) := by
  have hread := (readAlike_nextExpression hcouples h).state
  rw [behindTurn, behindTurn, verdict_of_alike hcouples h]
  cases verdict lexer with
  | ok answer => exact hread
  | error error => exact alike_passOver hcouples hread error

end Parts

end Calculator

open Calculator

namespace Session

/-! ## 2. Turns and runs -/

variable {session other : Session} (hcouples : Source.Couples.Throughout R)

include hcouples

theorem Alike.turn (h : session.Alike R other) (hsink : session.sink.NeverFails) :
    other.turn.result = session.turn.result ∧ session.turn.state.Alike R other.turn.state := by
  have hprompt := h.promptText_eq hcouples.isReleased_eq
  obtain ⟨lexer, hlexer, rfl⟩ := h
  have hverdict := verdict_of_alike hcouples hlexer
  obtain ⟨hresult, hstate⟩ := turn_eq hsink
  obtain ⟨hresult', hstate'⟩ := @turn_eq { session with lexer } hsink
  refine ⟨?_, ?_⟩
  · rw [hresult, hresult', turnResult, turnResult, hverdict]
  · rw [hstate, hstate', hprompt, answerText, answerText, countTurn, countTurn, hverdict]
    exact ⟨behindTurn lexer, alike_behindTurn hcouples hlexer, rfl⟩

theorem Alike.run (h : session.Alike R other) (hsink : session.sink.NeverFails) :
    other.run.result = session.run.result ∧ session.run.state.Alike R other.run.state := by
  induction hbudget : session.lexer.budget using Nat.strongRecOn generalizing session other with
  | _ budget ih =>
    obtain ⟨hresult, hstate⟩ := h.turn hcouples hsink
    cases hturn : session.turn.result with
    | error error =>
      obtain ⟨hrun, hlast⟩ := run_of_failed hturn
      obtain ⟨hrun', hlast'⟩ := run_of_failed (hresult.trans hturn)
      rw [hrun, hrun', hlast, hlast']
      exact ⟨rfl, hstate⟩
    | ok going =>
      cases going with
      | false =>
        obtain ⟨hrun, hlast⟩ := run_of_ended hturn
        obtain ⟨hrun', hlast'⟩ := run_of_ended (hresult.trans hturn)
        rw [hrun, hrun', hlast, hlast']
        obtain ⟨lexer, hlexer, hother⟩ := hstate
        rw [hother]
        exact ⟨rfl, lexer, hlexer, rfl⟩
      | true =>
        -- the sessions behind the turn are alike again, and the first has less budget left
        obtain ⟨hrun, hlast⟩ := run_of_going hturn
        obtain ⟨hrun', hlast'⟩ := run_of_going (hresult.trans hturn)
        rw [hrun, hrun', hlast, hlast']
        have hless : session.turn.state.lexer.budget < budget := hbudget ▸ budget_turn_lt hturn
        exact ih _ hless hstate (charged_turn hsink).2 rfl

omit hcouples

/-- Sessions over readers that deliver the same bytes end alike, have written the same and have
counted the same. -/
theorem run_fresh_of_delivers {reader other : Reader} {bytes : List UInt8}
    (hreader : reader.Delivers bytes) (hother : other.Delivers bytes) {sink : Sink}
    (hsink : sink.NeverFails) (prompt : Option String) :
    (fresh other sink prompt).run.result = (fresh reader sink prompt).run.result ∧
      (fresh other sink prompt).run.state.sink = (fresh reader sink prompt).run.state.sink := by
  have halike : (fresh reader sink prompt).Alike Source.SameStream (fresh other sink prompt) :=
    ⟨_, ⟨.reading other, Source.sameStream_of_delivers hreader hother, rfl⟩, rfl⟩
  obtain ⟨hresult, lexer, -, hlast⟩ := halike.run Source.couples_sameStream hsink
  exact ⟨hresult, by rw [hlast]⟩

end Session

end Linewise
