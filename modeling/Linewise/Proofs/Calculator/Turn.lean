import Linewise.Calculator.Run
import Linewise.Proofs.Calculator.Reading

/-!
# Turns — what a session does at a time

What stands in front of its lexer decides what a session does in a turn: the session ends, a value
is written, or an error is reported and passed over.  `Turned` lists what a turn comes to, with the
failures of the output in between; a run is a number of turns.
-/

namespace Linewise

namespace Calculator

/-! ## 1. The verdict of a lexer -/

/-- What stands in front of a lexer: an expression with a value, the end of the session, or an
error. -/
def verdict (lexer : Lexer Kind) : Except CalcError (Option Float) :=
  match (nextExpression lexer).result with
  | .error error => .error error
  | .ok none => .ok none
  | .ok (some e) =>
    match evaluate? e.lhs e.op e.rhs with
    | none => .error .divisionByZero
    | some value => .ok (some value)

/-- Where an error comes from, and the lexer it leaves behind: some tokens have been taken, and the
last of them could not be read, all of them divide by zero, or another token than the wanted one
stands behind them, or none, or the lexer fails there. -/
inductive Fault (lexer behind : Lexer Kind) : CalcError → Prop where
  | misread {ts : List (Token Kind)} {t : Token Kind} {error : CalcError}
      (takes : lexer.Takes (ts ++ [t]) behind)
      (begins : (ts ++ [t]).map Token.kind <+: Expression.kinds) (misreads : Misreads t error) :
      Fault lexer behind error
  | division {ts : List (Token Kind)} {e : Expression} (takes : lexer.Takes ts behind)
      (kinds_eq : ts.map Token.kind = Expression.kinds) (spells : Spells ts e)
      (undefined : evaluate? e.lhs e.op e.rhs = none) : Fault lexer behind .divisionByZero
  | unexpected {ts : List (Token Kind)} {kind : Kind} {before : Lexer Kind}
      (takes : lexer.Takes ts before) (begins : ts.map Token.kind ++ [kind] <+: Expression.kinds)
      (ok : before.prime.result = .ok ()) (state : behind = before.prime.state)
      (unsuited : ∀ t ∈ behind.lookahead.token?, t.kind ≠ kind)
      (started : ts = [] → ∃ t, behind.lookahead = .token t) :
      Fault lexer behind (.lex (behind.unexpected kind none))
  | failed {ts : List (Token Kind)} {before : Lexer Kind} {error : LexError Kind}
      (takes : lexer.Takes ts before) (begins : ts.map Token.kind <+: Expression.kinds)
      (prime : before.prime.result = .error error) (state : behind = before.prime.state) :
      Fault lexer behind (.lex error)

open Lexer

variable {lexer : Lexer Kind}

theorem fault_of_verdict {error : CalcError} (h : verdict lexer = .error error) :
    Fault lexer (nextExpression lexer).state error := by
  unfold verdict at h
  cases readsNext lexer with
  | ended ok ends state result => rw [result] at h; cases h
  | failed lexError prime state result =>
    rw [result] at h
    cases h
    exact .failed (.nil lexer) (List.nil_prefix) prime state
  | started t next going reads =>
    cases reads with
    | read ts value takes kinds_eq meaning result =>
      obtain ⟨e, rfl, hspells⟩ := meaning
      rw [result] at h
      simp only at h
      split at h
      · next hundefined =>
        cases h
        exact .division takes kinds_eq hspells hundefined
      · cases h
    | misread ts t error takes begins misreads result =>
      rw [result] at h
      cases h
      exact .misread takes begins misreads
    | unexpected ts kind before takes begins ok unsuited state result =>
      rw [result] at h
      cases h
      rw [← state] at unsuited ⊢
      refine .unexpected takes begins ok state unsuited fun hnil => ?_
      -- nothing taken: the token that was looked for at first is still there
      subst hnil
      cases takes
      rw [state]
      exact ⟨t, (prime_of_nextToken next).2⟩
    | failed ts before lexError takes begins prime state result =>
      rw [result] at h
      cases h
      exact .failed takes begins prime state

theorem spells_of_verdict {value : Float} (h : verdict lexer = .ok (some value)) :
    ∃ ts e, lexer.Takes ts (nextExpression lexer).state ∧ ts.map Token.kind = Expression.kinds ∧
      Spells ts e ∧ evaluate? e.lhs e.op e.rhs = some value := by
  unfold verdict at h
  cases readsNext lexer with
  | ended ok ends state result => rw [result] at h; cases h
  | failed lexError prime state result => rw [result] at h; cases h
  | started t next going reads =>
    cases reads with
    | read ts value takes kinds_eq meaning result =>
      obtain ⟨e, rfl, hspells⟩ := meaning
      rw [result] at h
      simp only at h
      split at h
      · cases h
      · next hvalue => cases h; exact ⟨ts, e, takes, kinds_eq, hspells, hvalue⟩
    | misread ts t error takes begins misreads result => rw [result] at h; cases h
    | unexpected ts kind before takes begins ok unsuited state result =>
      rw [result] at h; cases h
    | failed ts before lexError takes begins prime state result => rw [result] at h; cases h

/-- At the end of the session stands the end of input or the word `exit`, which is left where it
is. -/
theorem prime_of_verdict (h : verdict lexer = .ok none) :
    lexer.prime.result = .ok () ∧ (∀ t ∈ lexer.prime.state.lookahead.token?, isExit t = true) ∧
      (nextExpression lexer).state = lexer.prime.state := by
  unfold verdict at h
  cases readsNext lexer with
  | ended ok ends state result => exact ⟨ok, ends, state⟩
  | failed lexError prime state result => rw [result] at h; cases h
  | started t next going reads =>
    cases reads with
    | read ts value takes kinds_eq meaning result =>
      obtain ⟨e, rfl, -⟩ := meaning
      rw [result] at h
      simp only at h
      split at h <;> cases h
    | misread ts t error takes begins misreads result => rw [result] at h; cases h
    | unexpected ts kind before takes begins ok unsuited state result =>
      rw [result] at h; cases h
    | failed ts before lexError takes begins prime state result => rw [result] at h; cases h

theorem verdict_of_prime (hok : lexer.prime.result = .ok ())
    (hends : ∀ t ∈ lexer.prime.state.lookahead.token?, isExit t = true) :
    verdict lexer = .ok none := by
  unfold verdict
  cases readsNext lexer with
  | ended ok ends state result => rw [result]
  | failed lexError prime state result => rw [hok] at prime; cases prime
  | started t next going reads =>
    rw [hends t (by rw [(prime_of_nextToken next).2]; rfl)] at going
    cases going

end Calculator

open Calculator

namespace Session

/-! ## 2. The parts of a turn -/

/-- The session after its lexer has read what stands next. -/
def read (session : Session) : Session :=
  { session with lexer := (nextExpression session.lexer).state }

def countValue (session : Session) : Session :=
  { session with summary := { session.summary with evaluated := session.summary.evaluated + 1 } }

/-- Counts an expression and writes its value. -/
def tell (session : Session) (value : Float) : SessionOutcome Unit :=
  session.countValue.write (numberText value ++ "\n")

def countError (session : Session) : Session :=
  { session with summary := { session.summary with errors := session.summary.errors + 1 } }

/-- An outcome that has used the sink only, and fails only if the sink does. -/
def OnlySink (session : Session) (outcome : SessionOutcome Unit) : Prop :=
  (∃ sink, outcome.state = { session with sink }) ∧
    (outcome.result = .ok () ∨ ∃ failure, outcome.result = .error (.output failure))

variable (session : Session)

theorem onlySink_onSink (operation : Sink → Except Failure Unit × Sink) :
    session.OnlySink (session.onSink operation) := by
  simp only [OnlySink, onSink]
  refine ⟨⟨(operation session.sink).2, rfl⟩, ?_⟩
  cases (operation session.sink).1 with
  | ok => exact .inl rfl
  | error failure => exact .inr ⟨failure, rfl⟩

theorem onlySink_write (text : String) : session.OnlySink (session.write text) :=
  session.onlySink_onSink (·.write text)

theorem onlySink_tell (value : Float) : session.countValue.OnlySink (session.tell value) :=
  session.countValue.onlySink_write (numberText value ++ "\n")

theorem onlySink_showPrompt : session.OnlySink session.showPrompt := by
  have hdone : session.OnlySink (.done () session) := ⟨⟨session.sink, rfl⟩, .inl rfl⟩
  unfold showPrompt
  split
  · exact hdone
  · next prompt _ =>
    split
    · obtain ⟨⟨sink, hstate⟩, hresult | ⟨failure, hresult⟩⟩ :=
        session.onlySink_write prompt
      · rw [Outcome.andThen_ok hresult, hstate]
        exact onlySink_onSink { session with sink } Sink.flush
      · rw [Outcome.andThen_error hresult]
        exact ⟨⟨sink, hstate⟩, .inr ⟨failure, rfl⟩⟩
    · exact hdone

theorem result_reading {α : Type} (outcome : CalcOutcome α) :
    (session.reading outcome).result = outcome.result := by
  rw [reading, Outcome.result_embed]
  cases outcome.result <;> rfl

theorem step_of_ended (hverdict : verdict session.lexer = .ok none) :
    session.step.result = .ok false ∧ session.step.state = session.read := by
  unfold verdict at hverdict
  cases hresult : (nextExpression session.lexer).result with
  | error error => rw [hresult] at hverdict; cases hverdict
  | ok found =>
    rw [hresult] at hverdict
    cases found with
    | none =>
      rw [step, Outcome.andThen_ok ((session.result_reading _).trans hresult)]
      exact ⟨rfl, rfl⟩
    | some e => simp only at hverdict; split at hverdict <;> cases hverdict

theorem step_of_value {value : Float} (hverdict : verdict session.lexer = .ok (some value)) :
    session.step.result = (session.read.tell value).result.map (fun _ => true) ∧
      session.step.state = (session.read.tell value).state := by
  unfold verdict at hverdict
  cases hresult : (nextExpression session.lexer).result with
  | error error => rw [hresult] at hverdict; cases hverdict
  | ok found =>
    rw [hresult] at hverdict
    cases found with
    | none => cases hverdict
    | some e =>
      have hread : (session.reading (nextExpression session.lexer)).result = .ok (some e) :=
        (session.result_reading _).trans hresult
      simp only at hverdict
      split at hverdict
      · cases hverdict
      · next hvalue =>
        cases hverdict
        rw [step, Outcome.andThen_ok hread]
        have hanswer : (session.reading (nextExpression session.lexer)).state.answer e =
            (session.read.tell value).preceded [.evaluated e.lhs e.op e.rhs value] := by
          rw [answer, hvalue]
          rfl
        simp only [Outcome.result_preceded, Outcome.state_preceded, hanswer, Outcome.andThen]
        cases (session.read.tell value).result <;> exact ⟨rfl, rfl⟩

theorem step_of_fault {error : CalcError} (hverdict : verdict session.lexer = .error error) :
    session.step.result = .error error ∧ session.step.state = session.read := by
  unfold verdict at hverdict
  cases hresult : (nextExpression session.lexer).result with
  | error found =>
    rw [hresult] at hverdict
    cases hverdict
    have hread : (session.reading (nextExpression session.lexer)).result = .error error :=
      (session.result_reading _).trans hresult
    rw [step, Outcome.andThen_error hread]
    exact ⟨rfl, rfl⟩
  | ok found =>
    rw [hresult] at hverdict
    cases found with
    | none => cases hverdict
    | some e =>
      have hread : (session.reading (nextExpression session.lexer)).result = .ok (some e) :=
        (session.result_reading _).trans hresult
      simp only at hverdict
      split at hverdict
      · next hundefined =>
        cases hverdict
        rw [step, Outcome.andThen_ok hread]
        simp only [answer, hundefined, Outcome.andThen]
        exact ⟨rfl, rfl⟩
      · cases hverdict

/-- What reporting an error comes to: the line could not be written, or the error is passed over. -/
inductive Reported (session : Session) (error : CalcError) (outcome : SessionOutcome Unit) :
    Prop where
  | unwritten (failure : Failure) (sink : Sink)
      (state : outcome.state = { session.countError with sink })
      (result : outcome.result = .error (.output failure))
  | passed (sink : Sink)
      (state : outcome.state = ({ session.countError with sink }.recover error).state)
      (result : outcome.result = ({ session.countError with sink }.recover error).result)

theorem reported (error : CalcError) : session.Reported error (session.report error) := by
  obtain ⟨⟨sink, hstate⟩, hresult | ⟨failure, hresult⟩⟩ :=
    session.countError.onlySink_write ("error: " ++ error.message ++ "\n")
  · refine .passed sink ?_ ?_ <;> rw [report] <;> unfold countError at hstate hresult <;>
      rw [Outcome.andThen_ok hresult, hstate] <;> rfl
  · refine .unwritten failure sink ?_ ?_ <;> rw [report] <;> unfold countError at hstate hresult <;>
      rw [Outcome.andThen_error hresult]
    exact hstate

/-! ## 3. What a turn comes to -/

/-- What a turn comes to: the prompt could not be written, or the verdict on what stands next
decides. -/
inductive Turned (session : Session) (outcome : SessionOutcome Bool) : Prop where
  | unprompted (failure : Failure) (prompt : session.showPrompt.result = .error (.output failure))
      (state : outcome.state = session.showPrompt.state)
      (result : outcome.result = .error (.output failure))
  | ended (prompt : session.showPrompt.result = .ok ())
      (verdict : verdict session.lexer = .ok none)
      (state : outcome.state = session.showPrompt.state.read) (result : outcome.result = .ok false)
  | answered (value : Float) (prompt : session.showPrompt.result = .ok ())
      (verdict : verdict session.lexer = .ok (some value))
      (state : outcome.state = (session.showPrompt.state.read.tell value).state)
      (result : outcome.result = (session.showPrompt.state.read.tell value).result.map fun _ => true)
  | reported (error : CalcError) (prompt : session.showPrompt.result = .ok ())
      (verdict : verdict session.lexer = .error error) (recoverable : error.isRecoverable = true)
      (state : outcome.state = (session.showPrompt.state.read.report error).state)
      (result : outcome.result =
        (session.showPrompt.state.read.report error).result.map fun _ => true)
  | failed (error : CalcError) (prompt : session.showPrompt.result = .ok ())
      (verdict : verdict session.lexer = .error error) (final : error.isRecoverable = false)
      (state : outcome.state = session.showPrompt.state.read) (result : outcome.result = .error error)

theorem turned : session.Turned session.turn := by
  obtain ⟨⟨sink, hsink⟩, hprompt | ⟨failure, hprompt⟩⟩ := session.onlySink_showPrompt
  · have hlexer : session.showPrompt.state.lexer = session.lexer := by rw [hsink]
    have hturn : session.turn.result = (session.showPrompt.state.step.orElse fun error session =>
          if error.isRecoverable then
            (session.report error).andThen fun _ session => .done true session
          else .fail error session).result ∧
        session.turn.state = (session.showPrompt.state.step.orElse fun error session =>
          if error.isRecoverable then
            (session.report error).andThen fun _ session => .done true session
          else .fail error session).state := by
      rw [turn, Outcome.andThen_ok hprompt]
      exact ⟨rfl, rfl⟩
    obtain ⟨hresult, hstate⟩ := hturn
    cases hverdict : verdict session.lexer with
    | ok found =>
      rw [← hlexer] at hverdict
      cases found with
      | none =>
        obtain ⟨hstep, hread⟩ := step_of_ended _ hverdict
        rw [hlexer] at hverdict
        simp only [Outcome.orElse, hstep] at hresult hstate
        exact .ended hprompt hverdict (hstate.trans hread) hresult
      | some value =>
        obtain ⟨hstep, htold⟩ := step_of_value _ hverdict
        rw [hlexer] at hverdict
        rcases (onlySink_tell session.showPrompt.state.read value).2 with htell | ⟨failure, htell⟩
        -- an output that has failed is not passed over
        all_goals
          rw [htell] at hstep
          simp only [Outcome.orElse, hstep, Except.map] at hresult hstate
          exact .answered value hprompt hverdict (hstate.trans htold)
            (hresult.trans (by rw [htell]; rfl))
    | error error =>
      rw [← hlexer] at hverdict
      obtain ⟨hstep, hread⟩ := step_of_fault _ hverdict
      rw [hlexer] at hverdict
      simp only [Outcome.orElse, hstep, hread, Outcome.result_preceded,
        Outcome.state_preceded] at hresult hstate
      cases hrecover : error.isRecoverable with
      | true =>
        simp only [hrecover, if_true, Outcome.andThen] at hresult hstate
        refine .reported error hprompt hverdict hrecover (hstate.trans ?_) (hresult.trans ?_) <;>
          cases (session.showPrompt.state.read.report error).result <;> rfl
      | false =>
        simp only [hrecover, Bool.false_eq_true, if_false] at hresult hstate
        exact .failed error hprompt hverdict hrecover hstate hresult
  · rw [turn, Outcome.andThen_error hprompt]
    exact .unprompted failure hprompt rfl rfl

/-! ## 4. Turns one after another -/

/-- The session after a number of turns, whatever they come to. -/
def afterTurns (session : Session) : Nat → Session
  | 0 => session
  | count + 1 => session.turn.state.afterTurns count

theorem run_of_going {session : Session} (hturn : session.turn.result = .ok true) :
    session.run.result = session.turn.state.run.result ∧
      session.run.state = session.turn.state.run.state := by
  rw [run]
  split
  · next herror => rw [hturn] at herror; cases herror
  · exact ⟨rfl, rfl⟩
  · next hended => rw [hturn] at hended; cases hended

/-- A run ends with the first turn behind which the session does not go on. -/
theorem run_of_last {session : Session} (hlast : session.turn.result ≠ .ok true) :
    session.run.result = (session.turn.result.map fun _ => session.turn.state.summary) ∧
      session.run.state = session.turn.state := by
  rw [run]
  split
  · next herror => rw [herror]; exact ⟨rfl, rfl⟩
  · next hgoing => exact absurd hgoing hlast
  · next hended => rw [hended]; exact ⟨rfl, rfl⟩

theorem run_of_ended {session : Session} (hturn : session.turn.result = .ok false) :
    session.run.result = .ok session.turn.state.summary ∧
      session.run.state = session.turn.state := by
  have hrun := @run_of_last session (by rw [hturn]; exact nofun)
  rwa [hturn] at hrun

theorem run_of_failed {session : Session} {error : CalcError}
    (hturn : session.turn.result = .error error) :
    session.run.result = .error error ∧ session.run.state = session.turn.state := by
  have hrun := @run_of_last session (by rw [hturn]; exact nofun)
  rwa [hturn] at hrun

/-- Induction on the turns of a run, which end because each turn uses up some of the budget. -/
@[elab_as_elim]
theorem run_induction {motive : Session → Prop}
    (going : ∀ session : Session, session.turn.result = .ok true → motive session.turn.state →
      motive session)
    (last : ∀ session : Session, session.turn.result ≠ .ok true → motive session)
    (session : Session) : motive session := by
  induction hbudget : session.lexer.budget using Nat.strongRecOn generalizing session with
  | _ budget ih =>
    by_cases hgoing : session.turn.result = .ok true
    · exact going session hgoing (ih _ (hbudget ▸ budget_turn_lt hgoing) _ rfl)
    · exact last session hgoing

/-- A run is a number of turns: after the last one, and after no earlier one, the session does not
go on.  There are no more turns than the budget of the lexer allows. -/
theorem exists_turns_of_run (session : Session) :
    ∃ count, count ≤ session.lexer.budget ∧
      (∀ earlier < count, (session.afterTurns earlier).turn.result = .ok true) ∧
      session.run.state = session.afterTurns (count + 1) ∧
      ((∃ error, (session.afterTurns count).turn.result = .error error ∧
          session.run.result = .error error) ∨
        (session.afterTurns count).turn.result = .ok false ∧
          session.run.result = .ok session.run.state.summary) := by
  induction session using run_induction with
  | going session hgoing ih =>
    obtain ⟨count, hcount, hearlier, hstate, hlast⟩ := ih
    obtain ⟨hresult, hrun⟩ := run_of_going hgoing
    have hless := budget_turn_lt hgoing
    refine ⟨count + 1, by omega, fun earlier hlt => ?_, hrun.trans hstate, ?_⟩
    · cases earlier with
      | zero => exact hgoing
      | succ earlier => exact hearlier earlier (by omega)
    · rw [hresult, hrun]
      exact hlast
  | last session hlast =>
    obtain ⟨hresult, hrun⟩ := run_of_last hlast
    refine ⟨0, Nat.zero_le _, by simp, hrun, ?_⟩
    cases hturn : session.turn.result with
    | error error => exact .inl ⟨error, hturn, (run_of_failed hturn).1⟩
    | ok goesOn =>
      cases goesOn with
      | false => exact .inr ⟨hturn, by rw [(run_of_ended hturn).1, hrun]⟩
      | true => exact absurd hturn hlast

/-- The sessions that a session becomes by taking turns, when in between its sink may be replaced by
any that is allowed. -/
inductive Course (allowed : Sink → Prop) (first : Session) : Session → Prop where
  | start : Course allowed first first
  | turn {session : Session} (earlier : Course allowed first session) :
      Course allowed first session.turn.state
  | refit {session : Session} (earlier : Course allowed first session) {sink : Sink}
      (fits : allowed sink) : Course allowed first { session with sink }

namespace Course

variable {allowed : Sink → Prop} {first session : Session}

theorem afterTurns (h : Course allowed first session) (count : Nat) :
    Course allowed first (session.afterTurns count) := by
  induction count generalizing session with
  | zero => exact h
  | succ count ih => exact ih h.turn

theorem run (h : Course allowed first session) : Course allowed first session.run.state := by
  obtain ⟨count, -, -, hstate, -⟩ := exists_turns_of_run session
  rw [hstate]
  exact h.afterTurns (count + 1)

/-- Each of several runs starts on the course, with an emptied sink. -/
theorem of_mem_runMany (h : Course allowed first session)
    (hempty : ∀ session, Course allowed first session → allowed { session.sink with written := [] })
    {count : Nat} {outcome : SessionOutcome Summary}
    (houtcome : outcome ∈ session.runMany count) :
    ∃ before, Course allowed first before ∧ outcome = before.run := by
  induction count generalizing session with
  | zero => cases houtcome
  | succ count ih =>
    have hbefore := h.refit (hempty session h)
    rcases List.mem_cons.mp houtcome with rfl | hlater
    · exact ⟨_, hbefore, rfl⟩
    · exact ih hbefore.run hlater

/-- What holds at the start, and is kept by each turn and by each change of the sink, holds
throughout. -/
theorem preserves (P : Session → Prop) (h : Course allowed first session) (hstart : P first)
    (hturn : ∀ session, P session → P session.turn.state)
    (hrefit : ∀ session sink, allowed sink → P session → P { session with sink }) : P session := by
  induction h with
  | start => exact hstart
  | turn _ ih => exact hturn _ ih
  | refit _ fits ih => exact hrefit _ _ fits ih

end Course

end Session

end Linewise
