import Linewise.Proofs.Calculator.Output
import Linewise.Proofs.Lexer.Supply

/-!
# Charges — what each result and each error costs

While the output does not fail, a turn that counts an expression takes its three tokens, and a turn
that counts an error uses up at least one character: by the tokens taken before, by the token that
is discarded, or by the text that is skipped.  So the counts never exceed what the source hands out.
-/

namespace Linewise

open Calculator Lexer

namespace Calculator

theorem supply_nextExpression_le (lexer : Lexer Kind) :
    (nextExpression lexer).state.supply ≤ lexer.supply := by
  have hbehind {ts : List (Token Kind)} {before : Lexer Kind} (htakes : lexer.Takes ts before) :
      before.prime.state.supply ≤ lexer.supply :=
    Nat.le_trans (supply_prime_le before) (Nat.le_of_add_right_le htakes.supply_le)
  cases readsNext lexer with
  | ended ok ends state => rw [state]; exact supply_prime_le lexer
  | failed lexError prime state => rw [state]; exact supply_prime_le lexer
  | started t next going reads =>
    cases reads with
    | read ts value takes => exact Nat.le_of_add_right_le takes.supply_le
    | misread ts t error takes => exact Nat.le_of_add_right_le takes.supply_le
    | unexpected ts kind before takes _ _ _ state => rw [state]; exact hbehind takes
    | failed ts before error takes _ _ state => rw [state]; exact hbehind takes

end Calculator

namespace Session

/-- An error that is passed over has cost a character by then. -/
theorem supply_recover_lt (session : Session) {lexer : Lexer Kind} {error : CalcError}
    (hfault : Fault lexer session.lexer error) (hrecover : error.isRecoverable = true) :
    (session.recover error).state.lexer.supply < lexer.supply := by
  cases hfault with
  | misread takes begins misreads =>
    have hless := takes.supply_le
    have hstate : (session.recover error).state = session := by cases misreads <;> rfl
    rw [hstate]
    simp only [List.length_append, List.length_cons, List.length_nil] at hless
    omega
  | division takes kinds_eq spells undefined =>
    have hless := takes.supply_le
    obtain ⟨a, b, c, rfl, -⟩ := spells
    exact Nat.lt_of_lt_of_le (Nat.lt_add_of_pos_right (by simp)) hless
  | @unexpected ts kind before takes begins ok state unsuited started =>
    have hless := takes.supply_le
    have hprime : session.lexer.supply ≤ before.supply := by
      rw [state]
      exact supply_prime_le before
    have hdiscard : (session.recover (.lex (session.lexer.unexpected kind none))).state.lexer =
        session.lexer.nextToken.state := state_discard session.lexer
    have hknown : session.lexer.prime = .done () session.lexer := by
      rw [state]
      exact prime_prime_of_ok ok
    rw [hdiscard]
    cases ts with
    | nil =>
      -- nothing was taken before, so there is a token to discard
      obtain ⟨t, ht⟩ := started rfl
      have hnext : session.lexer.nextToken.result = .ok (some t) := by
        rw [nextToken_of_token (t := t)] <;> rw [hknown]
        · rfl
        · exact ht
      have := supply_nextToken_lt hnext
      omega
    | cons t ts =>
      have := supply_nextToken_le session.lexer
      simp only [List.length_cons] at hless
      omega
  | @failed ts before lexError takes begins prime state =>
    have hless := takes.supply_le
    obtain ⟨position, cause⟩ := lexError
    cases cause with
    | unmatched remainder =>
      obtain ⟨hprimed, hrest⟩ := prime_unmatched prime
      have hskip := supply_skipLine_lt hprimed hrest
      have hprime := supply_prime_le before
      have hlexer : (session.recover (.lex ⟨position, .unmatched remainder⟩)).state.lexer =
          session.lexer.skipLine.1 := rfl
      rw [hlexer, state]
      omega
    | unexpected kind text found => exact absurd prime prime_ne_unexpected
    | device failure => cases hrecover
    | splitCharacter => cases hrecover

/-- What a turn counts, and what it costs. -/
inductive Charged (session after : Session) : Prop where
  | free (summary : after.summary = session.summary)
      (supply : after.lexer.supply ≤ session.lexer.supply)
  | value {a b c : Token Kind} (takes : session.lexer.Takes [a, b, c] after.lexer)
      (summary : after.summary = ⟨session.summary.evaluated + 1, session.summary.errors⟩)
  | error (supply : after.lexer.supply < session.lexer.supply)
      (summary : after.summary = ⟨session.summary.evaluated, session.summary.errors + 1⟩)

theorem exists_recover_eq (session : Session) (error : CalcError) :
    ∃ lexer, (session.recover error).state = { session with lexer } := by
  unfold recover
  split
  · exact ⟨_, rfl⟩
  · exact ⟨_, rfl⟩
  · exact ⟨session.lexer, rfl⟩

theorem charged_turn {session : Session} (h : session.sink.NeverFails) :
    session.Charged session.turn.state ∧ session.turn.state.sink.NeverFails := by
  have hread := supply_nextExpression_le session.lexer
  have hprompt := neverFails_emit session h session.promptText
  cases session.unhindered h with
  | ended verdict state =>
    rw [state]
    exact ⟨.free rfl hread, hprompt⟩
  | answered value verdict state =>
    rw [state]
    obtain ⟨ts, e, htakes, -, ⟨a, b, c, rfl, -⟩, -⟩ := spells_of_verdict verdict
    exact ⟨.value htakes rfl, neverFails_emit _ (by exact hprompt) _⟩
  | reported error verdict recoverable state =>
    rw [state]
    generalize hcounted : ((session.emit session.promptText).read.countError).emit
      (errorLine error) = counted
    have hlexer : counted.lexer = (nextExpression session.lexer).state := by rw [← hcounted]; rfl
    have hless := supply_recover_lt counted (hlexer ▸ fault_of_verdict verdict) recoverable
    obtain ⟨lexer, hrecover⟩ := counted.exists_recover_eq error
    rw [hrecover] at hless ⊢
    refine ⟨.error hless ?_, ?_⟩
    · rw [← hcounted]
      rfl
    · rw [← hcounted]
      exact neverFails_emit _ (by exact hprompt) _
  | failed error verdict final state =>
    rw [state]
    exact ⟨.free rfl hread, hprompt⟩

/-- What has been counted and what is left together never exceed what the source hands out. -/
theorem Charged.le {session after : Session} {limit : Nat} (h : session.Charged after)
    (hlimit : 3 * session.summary.evaluated + session.summary.errors + session.lexer.supply ≤ limit) :
    3 * after.summary.evaluated + after.summary.errors + after.lexer.supply ≤ limit := by
  cases h with
  | free summary supply => rw [summary]; omega
  | value takes summary =>
    have hless := takes.supply_le
    simp only [List.length_cons, List.length_nil] at hless
    rw [summary]
    simp only
    omega
  | error supply summary =>
    rw [summary]
    simp only
    omega

/-- On a course whose output never fails, the counts and the supply together stay within what the
source hands out at first, and the output goes on not to fail. -/
theorem Course.charge_le {reader : Reader} {sink : Sink} {prompt : Option String} {session : Session}
    (hsink : sink.NeverFails)
    (h : Course Sink.NeverFails (fresh reader sink prompt) session) :
    3 * session.summary.evaluated + session.summary.errors + session.lexer.supply ≤
        bodySize reader.lines.flatten ∧ session.sink.NeverFails := by
  refine h.preserves (fun session =>
    3 * session.summary.evaluated + session.summary.errors + session.lexer.supply ≤
        bodySize reader.lines.flatten ∧ session.sink.NeverFails) ⟨?_, hsink⟩ ?_ ?_
  · have hsupply : (fresh reader sink prompt).lexer.supply = bodySize reader.lines.flatten :=
      supply_ofReader reader rules
    have hsummary : (fresh reader sink prompt).summary = ⟨0, 0⟩ := rfl
    rw [hsupply, hsummary]
    simp
  · rintro session ⟨hlimit, hsink⟩
    obtain ⟨hcharged, hafter⟩ := charged_turn hsink
    exact ⟨hcharged.le hlimit, hafter⟩
  · rintro session sink fits ⟨hlimit, -⟩
    exact ⟨hlimit, fits⟩

/-- While the output never fails, each run is a finite number of turns, a turn counts an expression for
three tokens that it takes, or an error for something else that it uses up, and the counts of all
runs together stay within the body bytes of the lines that the source hands out. -/
theorem charge_of_course (reader : Reader) (written : List UInt8) (prompt : Option String) :
    ∃ first, start reader ⟨written, none, none⟩ prompt = .ok first ∧
      (∀ count, ∀ outcome ∈ first.runMany count,
        Course Sink.NeverFails first outcome.state) ∧
      ∀ session, Course Sink.NeverFails first session →
        (∃ count, count ≤ session.lexer.budget ∧
          (∀ earlier < count, (session.afterTurns earlier).turn.result = .ok true) ∧
          (session.afterTurns count).turn.result ≠ .ok true ∧
          session.run.state = session.afterTurns (count + 1)) ∧
        Course Sink.NeverFails first session.run.state ∧
        session.Charged session.turn.state ∧
        3 * session.summary.evaluated + session.summary.errors + session.lexer.supply ≤
          bodySize reader.lines.flatten ∧
        reader.lines.flatten.Sublist reader.bytes := by
  have hsink : Sink.NeverFails ⟨written, none, none⟩ := ⟨rfl, rfl⟩
  have hstart : Course Sink.NeverFails (fresh reader ⟨written, none, none⟩ prompt)
    (fresh reader ⟨written, none, none⟩ prompt) := .start
  refine ⟨_, start_eq reader _ prompt, fun count outcome houtcome => ?_, fun session h => ?_⟩
  · obtain ⟨before, hbefore, rfl⟩ := hstart.of_mem_runMany
      (fun session h => have hkept := (h.charge_le hsink).2; ⟨hkept.room, hkept.flushes⟩) houtcome
    exact hbefore.run
  · obtain ⟨hlimit, hkept⟩ := h.charge_le hsink
    refine ⟨?_, h.run, (charged_turn hkept).1, hlimit, reader.flatten_lines_sublist⟩
    obtain ⟨count, hcount, hearlier, hstate, hlast⟩ := exists_turns_of_run session
    refine ⟨count, hcount, hearlier, ?_, hstate⟩
    rcases hlast with ⟨error, hlast, -⟩ | ⟨hlast, -⟩ <;> rw [hlast] <;> exact nofun

end Session

end Linewise
