import Linewise.Proofs.Calculator.Agreement

/-!
# Dropping — what an evaluation error leaves of its expression

The three tokens of an expression are taken one after another, and each is read as soon as it is
taken.  A division by zero and a second number that cannot be read come up behind all three, so the
expression is dropped as a whole.  A first number that cannot be read comes up before the operator is
looked at: the rest of the expression is left, and is reported as the beginning of another one.
-/

namespace Linewise

namespace Calculator

open Lexer

variable {lexer : Lexer Kind}

/-! ## 1. The first token of an expression -/

/-- A first number that cannot be read is all that is taken. -/
theorem nextExpression_of_misread {t : Token Kind} {error : CalcError}
    (hnext : lexer.nextToken.result = .ok (some t)) (hkind : t.kind = .decimal)
    (hread : parseNumber t.text = .error error) :
    (nextExpression lexer).result = .error error ∧
      (nextExpression lexer).state = lexer.nextToken.state := by
  obtain ⟨hok, -⟩ := prime_of_nextToken hnext
  obtain ⟨hresult, hstate⟩ := nextToken_prime hok
  obtain ⟨hnumber, hbehind⟩ := consumeAs_of_token parseNumber (hresult.trans hnext) hkind
  obtain ⟨hnext', hstate'⟩ := nextExpression_of_started hnext (by simp [isExit, suits, hkind])
  rw [hread] at hnumber
  rw [hnext', hstate', consumeExpression, Outcome.andThen_error hnumber]
  exact ⟨rfl, hbehind.trans hstate⟩

/-- An operator where an expression should begin is not wanted, and is left. -/
theorem nextExpression_of_operator {t : Token Kind} (hnext : lexer.nextToken.result = .ok (some t))
    (hkind : t.kind = .operator) :
    (nextExpression lexer).result =
        .error (.lex ⟨t.position, .unexpected .decimal none (some t)⟩) ∧
      (nextExpression lexer).state = lexer.prime.state := by
  obtain ⟨hok, hlook⟩ := prime_of_nextToken hnext
  have hagain : lexer.prime.state.prime = .done () lexer.prime.state := prime_prime_of_ok hok
  have hok' : lexer.prime.state.prime.result = .ok () := by rw [hagain]; rfl
  have hlook' : lexer.prime.state.prime.state.lookahead = .token t := by rw [hagain]; exact hlook
  obtain ⟨hnumber, hbehind⟩ := consumeAs_eq parseNumber .decimal lexer.prime.state
  obtain ⟨hconsume, hleft⟩ := consume_of_token Kind.decimal none hok' hlook'
  simp only [suits, hkind, hagain, Outcome.done, reduceCtorEq, beq_iff_eq, Bool.and_eq_true,
    false_and, if_false] at hconsume hleft
  rw [hconsume] at hnumber
  rw [hleft] at hbehind
  obtain ⟨hresult, hstate⟩ := nextExpression_of_started hnext (by simp [isExit, suits, hkind])
  rw [hresult, hstate, consumeExpression, Outcome.andThen_error hnumber, Lexer.unexpected, hlook]
  exact ⟨rfl, hbehind⟩

/-! ## 2. Three tokens -/

section Three

variable {a b c : Token Kind} {behind after : Lexer Kind} {error : CalcError}

/-- Once the first number is read, an error that is none of the lexer comes up behind all three
tokens. -/
theorem Fault.behind_of_takes (hholds : lexer.Holds IsLexeme) (htakes : lexer.Takes [a, b, c] after)
    (hkinds : [a, b, c].map Token.kind = Expression.kinds) {x : Float}
    (hread : parseNumber a.text = .ok x) (hlex : ∀ lexError, error ≠ .lex lexError)
    (h : Fault lexer behind error) :
    behind = after ∧ (error = .divisionByZero ∨ error = .invalidNumber c.text .invalid) := by
  have hall {ts : List (Token Kind)} (hlast : lexer.Takes ts behind) (hlength : ts.length = 3) :
      ts = [a, b, c] ∧ behind = after := by
    obtain ⟨back, hlist, hback⟩ := hlast.exists_back htakes (by simp [hlength])
    obtain rfl : back = [] := by
      have := congrArg List.length hlist
      simp only [List.length_append, List.length_cons, List.length_nil, hlength] at this
      exact List.length_eq_zero_iff.mp (by omega)
    cases hback
    exact ⟨by rw [hlist, List.append_nil], rfl⟩
  simp only [Expression.kinds, List.map_cons, List.map_nil, List.cons.injEq, and_true] at hkinds
  cases h with
  | @misread ts t _ takes begins misreads =>
    have hfault : Fault lexer behind error := .misread takes begins misreads
    cases misreads with
    | operator => exact absurd hfault (Fault.ne_unknownOperator hholds)
    | number kind unread =>
      obtain ⟨rfl, -⟩ := hfault.exists_numeral hholds
      have hlength : (ts ++ [t]).length ≤ 3 := by
        have := begins.length_le
        rwa [List.length_map] at this
      obtain ⟨back, hlist, -⟩ := takes.exists_back htakes hlength
      rcases ts with _ | ⟨u, _ | ⟨v, ts⟩⟩
      · -- the first number has been read
        obtain ⟨rfl, -⟩ := List.cons.inj hlist
        rw [parseNumber_eq_ok_iff, unread] at hread
        cases hread
      · -- the second token is the operator
        obtain ⟨-, hlist⟩ := List.cons.inj hlist
        obtain ⟨rfl, -⟩ := List.cons.inj hlist
        rw [hkinds.2.1] at kind
        cases kind
      · have hlength : (u :: v :: ts ++ [t]).length = 3 := by
          simp only [List.length_append, List.length_cons, List.length_nil] at hlength ⊢
          omega
        obtain ⟨hthree, hbehind⟩ := hall takes hlength
        obtain rfl : ts = [] := by
          simp only [List.length_append, List.length_cons, List.length_nil] at hlength
          exact List.length_eq_zero_iff.mp (by omega)
        cases hthree
        exact ⟨hbehind, .inr rfl⟩
  | division takes kinds_eq spells =>
    obtain ⟨_, _, _, rfl, -⟩ := spells
    exact ⟨(hall takes rfl).2, .inl rfl⟩
  | unexpected => exact absurd rfl (hlex _)
  | failed => exact absurd rfl (hlex _)

end Three

end Calculator

open Calculator Lexer

namespace Session

/-! ## 3. Reporting -/

variable {session : Session} {error : CalcError}

/-- An error that is none of the lexer is passed over as soon as it has been written. -/
theorem state_report (session : Session) (hlex : ∀ lexError, error ≠ .lex lexError) :
    (session.report error).state =
      { session.countError with sink := (session.sink.write (errorLine error)).2 } := by
  have hreport : session.report error = (session.countError.write (errorLine error)).andThen
      fun _ session => session.recover error := rfl
  have hrecover (session : Session) : session.recover error = .done () session := by
    cases error with
    | lex lexError => exact absurd rfl (hlex lexError)
    | _ => rfl
  rw [hreport]
  cases hwrite : (session.countError.write (errorLine error)).result with
  | ok => rw [Outcome.andThen_ok hwrite, hrecover]; rfl
  | error failure => rw [Outcome.andThen_error hwrite]; rfl

/-- Where an operator stands in place of an expression, the step fails and the operator is passed
over. -/
theorem step_of_operator {t : Token Kind} (hnext : session.lexer.nextToken.result = .ok (some t))
    (hkind : t.kind = .operator) :
    session.step.result = .error (.lex ⟨t.position, .unexpected .decimal none (some t)⟩) ∧
      (session.step.state.recover
        (.lex ⟨t.position, .unexpected .decimal none (some t)⟩)).state.lexer =
          session.lexer.nextToken.state := by
  obtain ⟨hresult, hstate⟩ := nextExpression_of_operator hnext hkind
  have hverdict : verdict session.lexer =
      .error (.lex ⟨t.position, .unexpected .decimal none (some t)⟩) := by rw [verdict, hresult]
  obtain ⟨hstep, hread⟩ := session.step_of_fault hverdict
  refine ⟨hstep, ?_⟩
  show session.step.state.lexer.discard.state = _
  rw [hread, state_discard]
  show (nextExpression session.lexer).state.nextToken.state = _
  rw [hstate]
  exact (nextToken_prime (prime_of_nextToken hnext).1).2

/-- An expression whose first number can be read is dropped as a whole when it fails: all three tokens
have been taken, and one line is written.  Where the first number cannot be read, nothing else has been
taken when its line is written: the next step fails at the operator, and the second number stands
behind that. -/
theorem report_of_course (reader : Reader) (sink : Sink) (prompt : Option String) :
    ∃ first, start reader sink prompt = .ok first ∧
      ∀ session, Course (fun _ => True) first session →
        ∀ a b c after, session.lexer.Takes [a, b, c] after →
          [a, b, c].map Token.kind = Expression.kinds →
          ∀ error, session.step.result = .error error → (∀ lexError, error ≠ .lex lexError) →
            (∀ failure, error ≠ .output failure) →
            let reported := (session.step.state.report error).state
            reported.summary = ⟨session.summary.evaluated, session.summary.errors + 1⟩ ∧
            reported.sink = (session.sink.write ("error: " ++ error.message ++ "\n")).2 ∧
            ((parseNumber a.text).toOption.isSome = true →
              reported.lexer = after ∧
                (error = .divisionByZero ∨ error = .invalidNumber c.text .invalid)) ∧
            ((parseNumber a.text).toOption.isNone = true →
              error = .invalidNumber a.text .invalid ∧ reported.lexer.Takes [b, c] after ∧
                reported.step.result =
                  .error (.lex ⟨b.position, .unexpected .decimal none (some b)⟩) ∧
                (reported.step.state.recover
                  (.lex ⟨b.position, .unexpected .decimal none (some b)⟩)).state.lexer.Takes
                    [c] after) := by
  refine ⟨fresh reader sink prompt, start_eq reader sink prompt, ?_⟩
  intro session hcourse a b c after htakes hkinds error herror hlex houtput reported
  have hholds : session.lexer.Holds IsLexeme :=
    hcourse.kept kept_holds (.of_unprimed findOnly_rules rfl)
  obtain ⟨hverdict, hread⟩ := verdict_of_step herror houtput
  have hreported : reported =
      { session.read.countError with sink := (session.sink.write (errorLine error)).2 } := by
    show (session.step.state.report error).state = _
    rw [state_report _ hlex, hread]
    rfl
  have hlexer : reported.lexer = (nextExpression session.lexer).state := by
    rw [hreported]
    rfl
  refine ⟨by rw [hreported]; rfl, by rw [hreported]; rfl, fun hsome => ?_, fun hnone => ?_⟩
  · cases hparse : parseNumber a.text with
    | error fault => rw [hparse] at hsome; cases hsome
    | ok x =>
      obtain ⟨hbehind, hcause⟩ :=
        (fault_of_verdict hverdict).behind_of_takes hholds htakes hkinds hparse hlex
      exact ⟨hlexer.trans hbehind, hcause⟩
  · cases hparse : parseNumber a.text with
    | ok x => rw [hparse] at hnone; cases hnone
    | error fault =>
      simp only [Expression.kinds, List.map_cons, List.map_nil, List.cons.injEq, and_true] at hkinds
      cases htakes with | cons first later =>
      obtain ⟨hresult, hstate⟩ := nextExpression_of_misread first hkinds.1 hparse
      have hfault : fault = .invalidNumber a.text .invalid := by
        obtain ⟨n, htext⟩ := (hholds.of_nextToken first).exists_numeral hkinds.1
        rw [htext] at hparse ⊢
        by_cases hascii : n.IsAscii
        · obtain ⟨x, hx⟩ := (parseNumber_text n).1 hascii
          rw [hx] at hparse
          cases hparse
        · rw [(parseNumber_text n).2 hascii] at hparse
          cases hparse
          rfl
      have hcause : error = fault := by
        rw [verdict, hresult] at hverdict
        cases hverdict
        rfl
      have hleft : reported.lexer.Takes [b, c] after := by
        rw [hlexer, hstate]
        exact later
      refine ⟨hcause.trans hfault, hleft, ?_⟩
      cases hleft with | cons second last =>
      obtain ⟨hstep, hpassed⟩ := step_of_operator second hkinds.2.1
      exact ⟨hstep, hpassed ▸ last⟩

/-- An expression that begins with an Arabic-Indic digit: its three tokens stand in front of the
session, only the first has been taken when the error has been passed over, and the rest is reported
in two more lines. -/
theorem report_of_arabic_digit :
    let session := fresh ⟨[.data [217, 163, 32, 43, 32, 52, 10]]⟩ .unbounded none
    let error := CalcError.invalidNumber "٣" .invalid
    let behind := session.lexer.nextToken.state
    session.lexer.nextToken.result.toOption = some (some ⟨.decimal, "٣", ⟨1, 0⟩⟩) ∧
      behind.nextToken.result.toOption = some (some ⟨.operator, "+", ⟨1, 1⟩⟩) ∧
      behind.nextToken.state.nextToken.result.toOption = some (some ⟨.decimal, "4", ⟨1, 2⟩⟩) ∧
      session.step.result = .error error ∧
      (session.step.state.report error).state.lexer = behind ∧
      session.run.result.toOption = some ⟨0, 3⟩ := by
  decide +kernel

end Session

end Linewise
