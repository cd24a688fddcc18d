import Linewise.Proofs.Calculator.Keeping
import Linewise.Proofs.Calculator.Rules
import Linewise.Proofs.Lexer.WellFormed

/-!
# Endings — only a device ends a session with an error

An error in the text of an expression is always passed over: what `recover` asks of the lexer
cannot fail behind the error that it is asked for.  The matches of the calculator's rules never
split a character, so what remains are failures of the source and of the sink.
-/

namespace Linewise

/-- The error of a device: a line could not be read, or the output not be written. -/
def CalcError.OfDevice (error : CalcError) : Prop :=
  (∃ position failure, error = .lex ⟨position, .device failure⟩) ∨
    ∃ failure, error = .output failure

theorem CalcError.OfDevice.isRecoverable {error : CalcError} (h : error.OfDevice) :
    error.isRecoverable = false := by
  rcases h with ⟨position, failure, rfl⟩ | ⟨failure, rfl⟩ <;> rfl

namespace Calculator

open Lexer

variable {lexer behind : Lexer Kind} {error : CalcError}

/-! ## 1. The rules stay -/

theorem rules_nextExpression (lexer : Lexer Kind) :
    (nextExpression lexer).state.rules = lexer.rules :=
  (kept_rules lexer.rules).nextExpression rfl

/-! ## 2. Passing over an error -/

/-- Behind an unexpected token, or where none was, the lexer still knows what stands there. -/
theorem Fault.known_of_unexpected {position : Position} {kind : Kind} {text : Option String}
    {found : Option (Token Kind)}
    (h : Fault lexer behind (.lex ⟨position, .unexpected kind text found⟩)) :
    behind.prime = .done () behind ∧
      ((∃ t, behind.lookahead = .token t) ∨ behind.lookahead = .endOfInput) := by
  cases h with
  | misread _ _ misreads => cases misreads
  | unexpected _ _ ok state =>
    subst state
    exact ⟨prime_prime_of_ok ok, prime_ok ok⟩
  | failed _ _ prime => exact absurd prime prime_ne_unexpected

theorem Fault.ofDevice (hanchored : ∀ rule ∈ lexer.rules, rule.IsAnchored)
    (h : Fault lexer behind error) (hfinal : error.isRecoverable = false) : error.OfDevice := by
  cases h with
  | misread _ _ misreads => cases misreads <;> cases hfinal
  | division => cases hfinal
  | unexpected => cases hfinal
  | @failed _ before lexError takes _ prime =>
    obtain ⟨position, cause⟩ := lexError
    cases cause with
    | unmatched remainder => cases hfinal
    | unexpected kind text found => cases hfinal
    | device failure => exact .inl ⟨position, failure, rfl⟩
    | splitCharacter =>
      rw [← takes.rules_eq] at hanchored
      exact absurd prime (prime_ne_splitCharacter hanchored position)

end Calculator

open Calculator Lexer

namespace Session

variable {session : Session} {error : CalcError}

/-- Only the output can fail behind what has been read. -/
theorem verdict_of_step (herror : session.step.result = .error error)
    (houtput : ∀ failure, error ≠ .output failure) :
    verdict session.lexer = .error error ∧ session.step.state = session.read := by
  cases hverdict : verdict session.lexer with
  | ok found =>
    cases found with
    | none =>
      rw [(session.step_of_ended hverdict).1] at herror
      cases herror
    | some value =>
      rw [(session.step_of_value hverdict).1] at herror
      rcases (session.read.onlySink_tell value).2 with htell | ⟨failure, htell⟩
      · rw [htell] at herror
        cases herror
      · rw [htell] at herror
        cases herror
        exact absurd rfl (houtput failure)
  | error found =>
    obtain ⟨hresult, hstate⟩ := session.step_of_fault hverdict
    rw [hresult] at herror
    cases herror
    exact ⟨rfl, hstate⟩

/-- An error that is passed over has come from what stood in front of the lexer. -/
theorem fault_of_step (herror : session.step.result = .error error)
    (hrecover : error.isRecoverable = true) :
    Fault session.lexer session.step.state.lexer error := by
  have houtput (failure : Failure) : error ≠ .output failure := by
    rintro rfl
    cases hrecover
  obtain ⟨hverdict, hstate⟩ := verdict_of_step herror houtput
  rw [hstate]
  exact fault_of_verdict hverdict

/-- What is asked of the lexer to pass over an error never fails. -/
theorem recover_of_fault {lexer : Lexer Kind} (hfault : Fault lexer session.lexer error)
    (hrecover : error.isRecoverable = true) : (session.recover error).result = .ok () := by
  cases error with
  | lex lexError =>
    obtain ⟨position, cause⟩ := lexError
    cases cause with
    | unmatched remainder => rfl
    | unexpected kind text found =>
      have hdiscard := discard_of_primed hfault.known_of_unexpected.1
      rw [recover, reading, lexed, Outcome.result_embed, Outcome.result_embed, hdiscard]
      rfl
    | device failure => cases hrecover
    | splitCharacter => cases hrecover
  | rule ruleError => cases hrecover
  | invalidNumber text fault => rfl
  | unknownOperator text => rfl
  | divisionByZero => rfl
  | output failure => cases hrecover

/-- A turn leaves the rules of the lexer as they are. -/
theorem rules_turn (session : Session) : session.turn.state.lexer.rules = session.lexer.rules :=
  kept_turn (kept_rules session.lexer.rules) rfl

/-! ## 3. How a run ends -/

/-- In front of anchored rules a turn fails only if a device does. -/
theorem ofDevice_of_turn (hanchored : ∀ rule ∈ session.lexer.rules, rule.IsAnchored)
    (herror : session.turn.result = .error error) : error.OfDevice := by
  obtain ⟨⟨sink, hsink⟩, -⟩ := session.onlySink_showPrompt
  cases session.turned with
  | unprompted failure prompt state result =>
    rw [result] at herror
    cases herror
    exact .inr ⟨failure, rfl⟩
  | ended prompt verdict state result => rw [result] at herror; cases herror
  | answered value prompt verdict state result =>
    rw [result] at herror
    rcases (session.showPrompt.state.read.onlySink_tell value).2 with htell | ⟨failure, htell⟩ <;>
      rw [htell] at herror <;> cases herror
    exact .inr ⟨failure, rfl⟩
  | reported fault prompt verdict recoverable state result =>
    rw [result] at herror
    cases session.showPrompt.state.read.reported fault with
    | unwritten failure sink state report =>
      rw [report] at herror
      cases herror
      exact .inr ⟨failure, rfl⟩
    | passed passedSink state report =>
      have hfault := fault_of_verdict verdict
      have hrecover : ({ session.showPrompt.state.read.countError with
          sink := passedSink }.recover fault).result = .ok () := by
        rw [hsink]
        exact recover_of_fault hfault recoverable
      rw [report, hrecover] at herror
      cases herror
  | failed found prompt verdict final state result =>
    rw [result] at herror
    cases herror
    exact (fault_of_verdict verdict).ofDevice hanchored final

theorem Course.rules_eq {allowed : Sink → Prop} {first : Session}
    (h : Course allowed first session) : session.lexer.rules = first.lexer.rules :=
  h.kept (kept_rules first.lexer.rules) rfl

/-- A run fails only if a turn does. -/
theorem ofDevice_of_run (hanchored : ∀ rule ∈ session.lexer.rules, rule.IsAnchored)
    (herror : session.run.result = .error error) : error.OfDevice := by
  obtain ⟨count, -, -, -, ⟨found, hturn, hrun⟩ | ⟨-, hrun⟩⟩ := exists_turns_of_run session
  · rw [hrun] at herror
    cases herror
    have hcourse : Course (fun _ => True) session (session.afterTurns count) :=
      Course.start.afterTurns count
    rw [← hcourse.rules_eq] at hanchored
    exact ofDevice_of_turn hanchored hturn
  · rw [hrun] at herror
    cases herror

/-- Whatever the source delivers and the sink does, and however often the session is run, a run fails
only when a device does: an error that can be passed over is passed over, since the lexer still knows
the next token where another one was wanted. -/
theorem ofDevice_of_course (reader : Reader) (sink : Sink) (prompt : Option String) :
    ∃ first, start reader sink prompt = .ok first ∧
      (∀ count, ∀ outcome ∈ first.runMany count, ∀ error, outcome.result = .error error →
        error.isRecoverable = false ∧ error.OfDevice) ∧
      ∀ session, Course (fun _ => True) first session →
        Course (fun _ => True) first session.run.state ∧
        (∀ error, session.run.result = .error error →
          error.isRecoverable = false ∧ error.OfDevice) ∧
        ∀ error, session.step.result = .error error → error.isRecoverable = true →
          ((∃ position kind text found, error = .lex ⟨position, .unexpected kind text found⟩) →
            (∃ t, session.step.state.lexer.lookahead = .token t) ∨
              session.step.state.lexer.lookahead = .endOfInput) ∧
          ∀ failed : Session, failed.lexer = session.step.state.lexer →
            (failed.recover error).result = .ok () := by
  have hanchored {session : Session} (h : Course (fun _ => True) (fresh reader sink prompt) session) :
      ∀ rule ∈ session.lexer.rules, rule.IsAnchored := by
    rw [h.rules_eq]
    exact isAnchored_of_mem_rules
  have hrun {session : Session} (h : Course (fun _ => True) (fresh reader sink prompt) session)
      (error : CalcError) (herror : session.run.result = .error error) :
      error.isRecoverable = false ∧ error.OfDevice :=
    have hdevice := ofDevice_of_run (hanchored h) herror
    ⟨hdevice.isRecoverable, hdevice⟩
  refine ⟨fresh reader sink prompt, start_eq reader sink prompt, ?_, fun session h =>
    ⟨h.run, hrun h, fun error herror hrecover => ?_⟩⟩
  · intro count outcome houtcome error herror
    have hstart : Course (fun _ => True) (fresh reader sink prompt) (fresh reader sink prompt) :=
      .start
    obtain ⟨before, hbefore, rfl⟩ := hstart.of_mem_runMany (fun _ _ => trivial) houtcome
    exact hrun hbefore error herror
  · have hfault := fault_of_step herror hrecover
    refine ⟨?_, fun failed hlexer => recover_of_fault (hlexer ▸ hfault) hrecover⟩
    rintro ⟨position, kind, text, found, rfl⟩
    exact hfault.known_of_unexpected.2

end Session

end Linewise
