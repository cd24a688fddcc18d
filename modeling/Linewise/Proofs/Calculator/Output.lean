import Linewise.Proofs.Calculator.Ending

/-!
# Outputs that never fail — turns whose lines are all written

While the output does not fail, a turn writes its prompt and its line in full, and an error that is
reported is passed over.  `Unhindered` says what a turn comes to then, with all that it writes.
-/

namespace Linewise

open Calculator

/-- A sink that takes every text and can always be flushed. -/
structure Sink.NeverFails (sink : Sink) : Prop where
  room : sink.room = none
  flushes : sink.flushes = none

namespace Session

/-! ## 1. Writing -/

/-- The session after a text has been written. -/
def emit (session : Session) (text : String) : Session :=
  { session with
    sink := { session.sink with written := session.sink.written ++ encodeUtf8 text.toList } }

theorem emit_empty (session : Session) : session.emit "" = session := by
  simp [emit, encodeUtf8]

@[simp] theorem lexer_emit (session : Session) (text : String) :
    (session.emit text).lexer = session.lexer := rfl

@[simp] theorem summary_emit (session : Session) (text : String) :
    (session.emit text).summary = session.summary := rfl

theorem neverFails_emit (session : Session) (h : session.sink.NeverFails) (text : String) :
    (session.emit text).sink.NeverFails := ⟨h.room, h.flushes⟩

theorem write_of_neverFails (session : Session) (h : session.sink.NeverFails) (text : String) :
    session.write text = ⟨.ok (), session.emit text, []⟩ := by
  simp only [write, onSink, Sink.write, h.room, emit]
  rfl

theorem flush_of_neverFails (session : Session) (h : session.sink.NeverFails) :
    session.onSink Sink.flush = .done () session := by
  simp only [onSink, Sink.flush, h.flushes]
  rfl

/-- The prompt that is written in front of a turn; nothing unless a line is needed. -/
def promptText (session : Session) : String :=
  if session.needsLine then session.prompt.getD "" else ""

/-- Without a prompt nothing is written in front of a turn. -/
theorem emit_promptText (session : Session) (hprompt : session.prompt = none) :
    session.emit session.promptText = session := by
  have htext : session.promptText = "" := by simp [promptText, hprompt]
  rw [htext, emit_empty]

theorem showPrompt_of_neverFails (session : Session) (h : session.sink.NeverFails) :
    session.showPrompt.result = .ok () ∧
      session.showPrompt.state = session.emit session.promptText := by
  cases hprompt : session.prompt with
  | none =>
    have htext : session.promptText = "" := by simp [promptText, hprompt]
    simp only [showPrompt, hprompt, htext, emit_empty]
    exact ⟨rfl, rfl⟩
  | some prompt =>
    by_cases hneeds : session.needsLine = true
    · have htext : session.promptText = prompt := by simp [promptText, hprompt, hneeds]
      simp only [showPrompt, hprompt, hneeds, if_true, htext, write_of_neverFails session h,
        Outcome.andThen,
        flush_of_neverFails _ (neverFails_emit session h prompt)]
      exact ⟨rfl, rfl⟩
    · have htext : session.promptText = "" := by simp [promptText, hneeds]
      simp only [showPrompt, hprompt, hneeds, htext, emit_empty]
      exact ⟨rfl, rfl⟩

/-! ## 2. Turns -/

def valueLine (value : Float) : String := numberText value ++ "\n"

def errorLine (error : CalcError) : String := "error: " ++ error.message ++ "\n"

theorem report_of_neverFails (session : Session) (h : session.sink.NeverFails) (error : CalcError) :
    (session.report error).result =
        ((session.countError.emit (errorLine error)).recover error).result ∧
      (session.report error).state =
        ((session.countError.emit (errorLine error)).recover error).state := by
  have hwrite : session.countError.write (errorLine error) =
      ⟨.ok (), session.countError.emit (errorLine error), []⟩ :=
    write_of_neverFails session.countError h (errorLine error)
  unfold countError errorLine at hwrite
  rw [report, hwrite]
  exact ⟨rfl, rfl⟩

/-- What a turn comes to while the output does not fail. -/
inductive Unhindered (session : Session) (outcome : SessionOutcome Bool) : Prop where
  | ended (verdict : verdict session.lexer = .ok none)
      (state : outcome.state = (session.emit session.promptText).read)
      (result : outcome.result = .ok false)
  | answered (value : Float) (verdict : verdict session.lexer = .ok (some value))
      (state : outcome.state =
        ((session.emit session.promptText).read.countValue).emit (valueLine value))
      (result : outcome.result = .ok true)
  | reported (error : CalcError) (verdict : verdict session.lexer = .error error)
      (recoverable : error.isRecoverable = true)
      (state : outcome.state = ((((session.emit session.promptText).read.countError).emit
        (errorLine error)).recover error).state)
      (result : outcome.result = .ok true)
  | failed (error : CalcError) (verdict : verdict session.lexer = .error error)
      (final : error.isRecoverable = false)
      (state : outcome.state = (session.emit session.promptText).read)
      (result : outcome.result = .error error)

theorem unhindered (session : Session) (h : session.sink.NeverFails) :
    session.Unhindered session.turn := by
  obtain ⟨hprompt, hstate⟩ := showPrompt_of_neverFails session h
  have hprompted := neverFails_emit session h session.promptText
  cases session.turned with
  | unprompted failure prompt =>
    rw [hprompt] at prompt
    cases prompt
  | ended prompt verdict state result =>
    rw [hstate] at state
    exact .ended verdict state result
  | answered value prompt verdict state result =>
    rw [hstate, tell, write_of_neverFails _ (by exact hprompted)] at state result
    exact .answered value verdict state result
  | reported error prompt verdict recoverable state result =>
    have hrecover : ((((session.emit session.promptText).read.countError).emit
        (errorLine error)).recover error).result = .ok () :=
      recover_of_fault (fault_of_verdict verdict) recoverable
    obtain ⟨hreport, hbehind⟩ :=
      report_of_neverFails (session.emit session.promptText).read hprompted error
    rw [hstate, hbehind] at state
    rw [hstate, hreport, hrecover] at result
    exact .reported error verdict recoverable state result
  | failed error prompt verdict final state result =>
    rw [hstate] at state
    exact .failed error verdict final state result

section Verdicts

variable (session : Session) (h : session.sink.NeverFails)

include h

theorem turn_of_ended (hverdict : verdict session.lexer = .ok none) :
    session.turn.result = .ok false ∧
      session.turn.state = (session.emit session.promptText).read := by
  cases session.unhindered h with
  | ended verdict state result => exact ⟨result, state⟩
  | answered value verdict state result => rw [hverdict] at verdict; cases verdict
  | reported error verdict recoverable state result => rw [hverdict] at verdict; cases verdict
  | failed error verdict final state result => rw [hverdict] at verdict; cases verdict

theorem turn_of_value {value : Float} (hverdict : verdict session.lexer = .ok (some value)) :
    session.turn.result = .ok true ∧
      session.turn.state =
        ((session.emit session.promptText).read.countValue).emit (valueLine value) := by
  cases session.unhindered h with
  | ended verdict state result => rw [hverdict] at verdict; cases verdict
  | answered value verdict state result =>
    rw [hverdict] at verdict
    cases verdict
    exact ⟨result, state⟩
  | reported error verdict recoverable state result => rw [hverdict] at verdict; cases verdict
  | failed error verdict final state result => rw [hverdict] at verdict; cases verdict

theorem turn_of_fault {error : CalcError} (hverdict : verdict session.lexer = .error error)
    (hrecoverable : error.isRecoverable = true) :
    session.turn.result = .ok true ∧
      session.turn.state = ((((session.emit session.promptText).read.countError).emit
        (errorLine error)).recover error).state := by
  cases session.unhindered h with
  | ended verdict state result => rw [hverdict] at verdict; cases verdict
  | answered value verdict state result => rw [hverdict] at verdict; cases verdict
  | reported error verdict recoverable state result =>
    rw [hverdict] at verdict
    cases verdict
    exact ⟨result, state⟩
  | failed error verdict final state result =>
    rw [hverdict] at verdict
    cases verdict
    rw [hrecoverable] at final
    cases final

theorem turn_of_final {error : CalcError} (hverdict : verdict session.lexer = .error error)
    (hfinal : error.isRecoverable = false) :
    session.turn.result = .error error ∧
      session.turn.state = (session.emit session.promptText).read := by
  cases session.unhindered h with
  | ended verdict state result => rw [hverdict] at verdict; cases verdict
  | answered value verdict state result => rw [hverdict] at verdict; cases verdict
  | reported error verdict recoverable state result =>
    rw [hverdict] at verdict
    cases verdict
    rw [hfinal] at recoverable
    cases recoverable
  | failed error verdict final state result =>
    rw [hverdict] at verdict
    cases verdict
    exact ⟨result, state⟩

end Verdicts

end Session

end Linewise
