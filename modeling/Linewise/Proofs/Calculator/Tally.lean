import Linewise.Proofs.Calculator.Agreement
import Linewise.Proofs.Calculator.Transparency
import Linewise.Proofs.Lexer.OneLine
import Linewise.Proofs.Number.Alphabet

/-!
# Tally — every line of the output is counted

A session without a prompt writes lines: one for each value and one for each error that it
reports.  No line feed stands inside of them, because none is in the text that an error quotes, and
a value never reads like an error.  So the output can be checked against the counts line by line.
-/

namespace Linewise

open Calculator

/-! ## 1. Messages -/

/-- A text without a line feed. -/
def IsLine (text : String) : Prop := '\n' ∉ text.toList

instance (text : String) : Decidable (IsLine text) :=
  inferInstanceAs (Decidable ('\n' ∉ text.toList))

theorem IsLine.append {front back : String} (hfront : IsLine front) (hback : IsLine back) :
    IsLine (front ++ back) := by
  rw [IsLine, String.toList_append, List.mem_append]
  rintro (hmem | hmem)
  · exact hfront hmem
  · exact hback hmem

/-- A text between two others that are on one line. -/
theorem IsLine.between {front text back : String} (htext : IsLine text) (hfront : IsLine front)
    (hback : IsLine back) : IsLine (front ++ text ++ back) :=
  (hfront.append htext).append hback

theorem isLine_toString (n : Nat) : IsLine (toString n) := by
  intro hmem
  rw [Nat.toString_eq_repr, Nat.repr_eq_ofList_toDigits, String.toList_ofList] at hmem
  have hdigit := Nat.isDigit_of_mem_toDigits (by decide) (by decide) hmem
  cases hdigit

theorem Position.isLine_describe (p : Position) : IsLine p.describe :=
  ((isLine_toString p.line).between (by decide) (by decide)).append (isLine_toString p.shownColumn)

theorem isLine_numberText (x : Float) : IsLine (numberText x) := by
  intro hmem
  have hletter := numberText_subset x hmem
  revert hletter
  decide

namespace Calculator

theorem IsLexeme.isLine {t : Token Kind} (h : IsLexeme t) : IsLine t.text := by
  obtain ⟨lexeme, -, htext⟩ := h
  rw [htext, IsLine, String.toList_ofList]
  intro hmem
  have hblank := lexeme.isBlank_of_mem_text '\n' hmem
  cases hblank

theorem isLine_name (kind : Kind) : IsLine (TokenKind.name kind) := by
  cases kind <;> decide

/-- All that an error can quote of the lexer is on one line. -/
structure OneLine (lexer : Lexer Kind) : Prop where
  rest : '\n' ∉ lexer.rest
  holds : lexer.Holds IsLexeme

theorem kept_oneLine : Kept OneLine where
  prime h := ⟨Lexer.no_feed_prime h.rest, h.holds.prime⟩
  nextToken h := ⟨Lexer.no_feed_nextToken h.rest, h.holds.nextToken⟩
  skipLine h := ⟨List.not_mem_nil, h.holds.skipLine⟩

theorem oneLine_ofReader (reader : Reader) : OneLine ((Lexer.ofReader reader).addRules rules) :=
  ⟨List.not_mem_nil, .of_unprimed findOnly_rules rfl⟩

variable {lexer behind : Lexer Kind} {error : CalcError}

theorem isLine_unexpected (kind : Kind) {found : Option (Token Kind)}
    (hfound : ∀ t ∈ found, IsLine t.text) :
    IsLine (LexCause.message (.unexpected kind none found)) := by
  have hkind : IsLine ("expected " ++ TokenKind.name kind ++ ", found ") :=
    (isLine_name kind).between (by decide) (by decide)
  cases found with
  | none => exact hkind.append (by decide)
  | some t =>
    have hname : IsLine (TokenKind.name t.kind ++ " \x60") := (isLine_name t.kind).append (by decide)
    exact hkind.append ((hfound t rfl).between hname (by decide))

/-- An error that does not end the session has a message on one line. -/
theorem Fault.isLine (hfault : Fault lexer behind error) (h : OneLine lexer)
    (hrecoverable : error.isRecoverable = true) : IsLine error.message := by
  cases hfault with
  | @misread ts t error takes begins misreads =>
    have htext := (h.holds.of_takes takes t (by simp)).isLine
    cases misreads with
    | number => exact htext.between (by decide) (by decide)
    | operator => exact htext.between (by decide) (by decide)
  | division => decide
  | @unexpected ts kind before takes begins ok state unsuited started =>
    have hbehind := kept_oneLine.prime (kept_oneLine.takes h takes)
    rw [← state] at hbehind
    have hcause := isLine_unexpected kind fun t ht => (hbehind.holds.held t ht).isLine
    exact ((Position.isLine_describe _).append (by decide)).append hcause
  | @failed ts before error takes begins prime state =>
    have hbehind := kept_oneLine.prime (kept_oneLine.takes h takes)
    obtain ⟨position, cause⟩ := error
    cases cause with
    | unmatched remainder =>
      have hremainder : IsLine remainder := by
        rw [Lexer.remainder_of_prime prime, IsLine, Lexer.remaining, String.toList_ofList]
        exact hbehind.rest
      exact (position.isLine_describe.append (by decide)).append
        (hremainder.between (by decide) (by decide))
    | unexpected => exact absurd prime Lexer.prime_ne_unexpected
    | device => cases hrecoverable
    | splitCharacter => cases hrecoverable

/-! ## 2. The line of a turn -/

/-- Whether a line reports an error. -/
def isErrorLine (line : String) : Bool := "error: ".toList.isPrefixOf line.toList

/-- The lines that a turn in front of the lexer writes, without their line feeds. -/
def answerLines (lexer : Lexer Kind) : List String :=
  match verdict lexer with
  | .ok none => []
  | .ok (some value) => [numberText value]
  | .error error => if error.isRecoverable then ["error: " ++ error.message] else []

/-- The text of some lines, each with its line feed. -/
def linesText (lines : List String) : List Char := lines.flatMap fun line => line.toList ++ ['\n']

theorem linesText_append (lines more : List String) :
    linesText (lines ++ more) = linesText lines ++ linesText more :=
  List.flatMap_append

theorem toList_answerText (lexer : Lexer Kind) :
    (answerText lexer).toList = linesText (answerLines lexer) := by
  unfold answerText answerLines
  cases verdict lexer with
  | ok answer =>
    cases answer with
    | none => rfl
    | some value => simp [linesText, Session.valueLine]
  | error error =>
    cases hrecoverable : error.isRecoverable with
    | true => simp [hrecoverable, linesText, Session.errorLine]
    | false => simp [hrecoverable, linesText]

theorem isErrorLine_errorLine (message : String) : isErrorLine ("error: " ++ message) = true := by
  rw [isErrorLine, List.isPrefixOf_iff_prefix, String.toList_append]
  exact List.prefix_append _ _

-- There is an `e` in the word, and none in the text of any number.
theorem isErrorLine_numberText (x : Float) : isErrorLine (numberText x) = false := by
  rw [Bool.eq_false_iff, ne_eq, isErrorLine, List.isPrefixOf_iff_prefix]
  intro hfront
  have hletter := numberText_subset x (hfront.subset (List.mem_cons_self : 'e' ∈ _))
  revert hletter
  decide

/-- Between two counts the lines were written: one line for each expression that was evaluated and
for each error, and the errors can be told by how they begin. -/
structure Accounts (before after : Summary) (lines : List String) : Prop where
  isLine : ∀ line ∈ lines, IsLine line
  evaluated : after.evaluated = before.evaluated + lines.countP fun line => !isErrorLine line
  errors : after.errors = before.errors + lines.countP isErrorLine

theorem Accounts.refl (summary : Summary) : Accounts summary summary [] := ⟨nofun, rfl, rfl⟩

theorem Accounts.trans {before between after : Summary} {lines more : List String}
    (hfirst : Accounts before between lines) (hlast : Accounts between after more) :
    Accounts before after (lines ++ more) where
  isLine line hline := by
    rcases List.mem_append.mp hline with hmem | hmem
    · exact hfirst.isLine line hmem
    · exact hlast.isLine line hmem
  evaluated := by rw [hlast.evaluated, hfirst.evaluated, List.countP_append, Nat.add_assoc]
  errors := by rw [hlast.errors, hfirst.errors, List.countP_append, Nat.add_assoc]

theorem OneLine.accounts_turn (h : OneLine lexer) (summary : Summary) :
    Accounts summary (countTurn lexer summary) (answerLines lexer) := by
  unfold countTurn answerLines
  cases hverdict : verdict lexer with
  | ok answer =>
    cases answer with
    | none => exact .refl summary
    | some value =>
      refine ⟨?_, ?_, ?_⟩
      · simpa using isLine_numberText value
      · simp [isErrorLine_numberText]
      · simp [isErrorLine_numberText]
  | error error =>
    cases hrecoverable : error.isRecoverable with
    | false =>
      simp only [hrecoverable, Bool.false_eq_true, if_false]
      exact .refl summary
    | true =>
      have hmessage := (fault_of_verdict hverdict).isLine h hrecoverable
      have hline : IsLine ("error: " ++ error.message) := IsLine.append (by decide) hmessage
      simp only [hrecoverable, if_true]
      refine ⟨?_, ?_, ?_⟩
      · simpa using hline
      · simp [isErrorLine_errorLine]
      · simp [isErrorLine_errorLine]

end Calculator

/-! ## 3. Turns, runs and sessions -/

namespace Session

/-- A session without a prompt, whose output does not fail. -/
structure Plain (session : Session) : Prop where
  neverFails : session.sink.NeverFails
  prompt : session.prompt = none
  oneLine : OneLine session.lexer

/-- What was written between two sessions is a number of lines, and all of them are counted. -/
structure Tells (session after : Session) (lines : List String) : Prop where
  written : after.sink.written = session.sink.written ++ encodeUtf8 (linesText lines)
  accounts : Accounts session.summary after.summary lines

variable {session : Session}

theorem Plain.turn (h : session.Plain) :
    session.turn.state.Plain ∧ session.Tells session.turn.state (answerLines session.lexer) := by
  have hturn := (turn_eq h.neverFails).2
  have hprompt : session.promptText = "" := by simp [promptText, h.prompt]
  rw [hprompt, String.empty_append] at hturn
  refine ⟨⟨?_, ?_, kept_turn kept_oneLine h.oneLine⟩, ⟨?_, ?_⟩⟩
  · rw [hturn]
    exact neverFails_emit session h.neverFails _
  · rw [prompt_turn h.neverFails, h.prompt]
  · rw [hturn, ← toList_answerText]
    rfl
  · rw [hturn]
    exact h.oneLine.accounts_turn session.summary

theorem Plain.afterTurns (h : session.Plain) (count : Nat) :
    (session.afterTurns count).Plain ∧ ∃ lines, session.Tells (session.afterTurns count) lines := by
  induction count generalizing session with
  | zero => exact ⟨h, [], by simp [Session.afterTurns, linesText, encodeUtf8], .refl _⟩
  | succ count ih =>
    obtain ⟨hplain, hturn⟩ := h.turn
    obtain ⟨hlast, lines, hlater⟩ := ih hplain
    refine ⟨hlast, answerLines session.lexer ++ lines, ?_, hturn.accounts.trans hlater.accounts⟩
    rw [linesText_append, encodeUtf8_append, ← List.append_assoc, ← hturn.written]
    exact hlater.written

theorem Plain.run (h : session.Plain) :
    session.run.state.Plain ∧ ∃ lines, session.Tells session.run.state lines := by
  obtain ⟨count, -, -, hstate, -⟩ := exists_turns_of_run session
  rw [hstate]
  exact h.afterTurns (count + 1)

theorem result_run {summary : Summary} (hresult : session.run.result = .ok summary) :
    summary = session.run.state.summary := by
  obtain ⟨count, -, -, -, ⟨error, -, herror⟩ | ⟨-, hok⟩⟩ := exists_turns_of_run session
  · rw [hresult] at herror
    cases herror
  · rw [hresult] at hok
    cases hok
    rfl

/-- The session with an empty output in front of it. -/
def emptied (session : Session) : Session :=
  { session with sink := { session.sink with written := [] } }

theorem runMany_succ (session : Session) (count : Nat) :
    session.runMany (count + 1) =
      session.emptied.run :: session.emptied.run.state.runMany count := by
  rw [runMany]
  rfl

/-- The counts behind several runs; those of the session if there was none. -/
def lastSummary (session : Session) (outcomes : List (SessionOutcome Summary)) : Summary :=
  (outcomes.getLast?.map fun outcome => outcome.state.summary).getD session.summary

theorem lastSummary_cons (session : Session) (outcome : SessionOutcome Summary)
    (later : List (SessionOutcome Summary)) :
    session.lastSummary (outcome :: later) = outcome.state.lastSummary later := by
  rw [lastSummary, lastSummary, List.getLast?_cons]
  cases later.getLast? <;> rfl

theorem Plain.runMany (h : session.Plain) (count : Nat) :
    ∃ lines, ((session.runMany count).flatMap fun outcome => outcome.state.sink.written) =
        encodeUtf8 (linesText lines) ∧
      Accounts session.summary (session.lastSummary (session.runMany count)) lines ∧
      ∀ outcome ∈ session.runMany count, ∀ summary, outcome.result = .ok summary →
        summary = outcome.state.summary := by
  induction count generalizing session with
  | zero =>
    rw [Session.runMany]
    exact ⟨[], rfl, .refl session.summary, fun _ hmem => absurd hmem List.not_mem_nil⟩
  | succ count ih =>
    have hemptied : session.emptied.Plain :=
      ⟨⟨h.neverFails.room, h.neverFails.flushes⟩, h.prompt, h.oneLine⟩
    obtain ⟨hplain, lines, htells⟩ := hemptied.run
    obtain ⟨more, hwritten, haccounts, hresults⟩ := ih hplain
    rw [runMany_succ]
    refine ⟨lines ++ more, ?_, ?_, ?_⟩
    · -- the output of the run is all that its sink holds
      have hrun : session.emptied.run.state.sink.written = encodeUtf8 (linesText lines) :=
        htells.written
      rw [List.flatMap_cons, hwritten, hrun, linesText_append, encodeUtf8_append]
    · rw [lastSummary_cons]
      exact htells.accounts.trans haccounts
    · intro outcome houtcome summary hresult
      rcases List.mem_cons.mp houtcome with rfl | hlater
      · exact result_run hresult
      · exact hresults outcome hlater summary hresult

/-- However often a session without a prompt is run, and however its runs end, its whole output is
a number of lines: as many of them begin with `error: ` as errors are counted, and as many do not as
expressions are. -/
theorem tally_of_runMany (reader : Reader) :
    ∃ first, start reader .unbounded none = .ok first ∧ ∀ count,
      let outcomes := first.runMany count
      let summary := (outcomes.getLast?.map fun outcome => outcome.state.summary).getD ⟨0, 0⟩
      ∃ lines : List String,
        (outcomes.flatMap fun outcome => outcome.state.sink.written) =
            encodeUtf8 (lines.flatMap fun line => line.toList ++ ['\n']) ∧
          (∀ line ∈ lines, '\n' ∉ line.toList) ∧
          lines.length = summary.evaluated + summary.errors ∧
          lines.countP isErrorLine = summary.errors ∧
          (lines.countP fun line => !isErrorLine line) = summary.evaluated ∧
          ∀ outcome ∈ outcomes, ∀ reported, outcome.result = .ok reported →
            reported = outcome.state.summary := by
  refine ⟨_, start_eq reader .unbounded none, fun count => ?_⟩
  have hplain : (fresh reader .unbounded none).Plain := ⟨⟨rfl, rfl⟩, rfl, oneLine_ofReader reader⟩
  obtain ⟨lines, hwritten, haccounts, hresults⟩ := hplain.runMany count
  have hevaluated := haccounts.evaluated.trans (Nat.zero_add _)
  have herrors := haccounts.errors.trans (Nat.zero_add _)
  refine ⟨lines, hwritten, haccounts.isLine, ?_, herrors.symm, hevaluated.symm, hresults⟩
  have hlength := @List.length_eq_countP_add_countP _ isErrorLine lines
  simp only [Bool.not_eq_true, Bool.decide_eq_false] at hlength
  rw [← herrors, ← hevaluated, Nat.add_comm] at hlength
  exact hlength

end Session

end Linewise
