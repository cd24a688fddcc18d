import Linewise.Proofs.Calculator.Items

/-!
# Transparency — a prompt changes nothing but what is written

While the output does not fail, all that a turn does besides writing its prompt is settled by the
lexer in front of it: the text behind the prompt, the lexer that is left, what is counted, and whether
the session goes on.  So the sessions with one prompt and another, or with none, go through the same
lexers, and their outputs are the same pieces with the prompt between them.
-/

namespace Linewise

open Calculator

namespace Calculator

/-! ## 1. What a lexer settles -/

/-- Whether the next token has to come from a new line. -/
def awaitsLine (lexer : Lexer Kind) : Bool := lexer.rest.isEmpty && !lexer.isReleased

/-- What a turn in front of the lexer writes behind its prompt. -/
def answerText (lexer : Lexer Kind) : String :=
  match verdict lexer with
  | .ok none => ""
  | .ok (some value) => Session.valueLine value
  | .error error => if error.isRecoverable then Session.errorLine error else ""

/-- The lexer that a turn leaves behind. -/
def behindTurn (lexer : Lexer Kind) : Lexer Kind :=
  match verdict lexer with
  | .ok _ => (nextExpression lexer).state
  | .error error => passOver error (nextExpression lexer).state

/-- Whether the session goes on behind a turn, or the error that ends it. -/
def turnResult (lexer : Lexer Kind) : Except CalcError Bool :=
  match verdict lexer with
  | .ok answer => .ok answer.isSome
  | .error error => if error.isRecoverable then .ok true else .error error

/-- The counts behind a turn. -/
def countTurn (lexer : Lexer Kind) (summary : Summary) : Summary :=
  match verdict lexer with
  | .ok none => summary
  | .ok (some _) => { summary with evaluated := summary.evaluated + 1 }
  | .error error =>
    if error.isRecoverable then { summary with errors := summary.errors + 1 } else summary

end Calculator

namespace Session

variable {session : Session}

theorem emit_emit (session : Session) (front back : String) :
    (session.emit front).emit back = session.emit (front ++ back) := by
  simp only [emit, String.toList_append, encodeUtf8_append, List.append_assoc]

/-- The session with another lexer and other counts. -/
def moved (session : Session) (lexer : Lexer Kind) (summary : Summary) : Session :=
  { session with lexer, summary }

theorem emit_moved (session : Session) (lexer : Lexer Kind) (summary : Summary) (text : String) :
    (session.moved lexer summary).emit text = (session.emit text).moved lexer summary := rfl

theorem moved_moved (session : Session) (lexer lexer' : Lexer Kind) (summary summary' : Summary) :
    (session.moved lexer summary).moved lexer' summary' = session.moved lexer' summary' := rfl

/-- What a turn does, from the lexer in front of it. -/
theorem turn_eq (hsink : session.sink.NeverFails) :
    session.turn.result = turnResult session.lexer ∧
      session.turn.state =
        (session.emit (session.promptText ++ answerText session.lexer)).moved
          (behindTurn session.lexer) (countTurn session.lexer session.summary) := by
  rw [turnResult, answerText, behindTurn, countTurn, ← emit_emit]
  cases session.unhindered hsink with
  | ended verdict state result =>
    rw [verdict, result, state, emit_empty]
    exact ⟨rfl, rfl⟩
  | answered value verdict state result =>
    rw [verdict, result, state]
    exact ⟨rfl, rfl⟩
  | reported error verdict recoverable state result =>
    rw [verdict, result, state, state_recover]
    simp only [recoverable, if_true, true_and]
    rfl
  | failed error verdict final state result =>
    rw [verdict, result, state]
    simp only [final, Bool.false_eq_true, if_false, emit_empty, passOver_of_final final,
      true_and]
    rfl

theorem lexer_turn (hsink : session.sink.NeverFails) :
    session.turn.result = turnResult session.lexer ∧
      session.turn.state.lexer = behindTurn session.lexer := by
  obtain ⟨hresult, hstate⟩ := turn_eq hsink
  exact ⟨hresult, congrArg Session.lexer hstate⟩

theorem prompt_turn (hsink : session.sink.NeverFails) :
    session.turn.state.prompt = session.prompt := by
  rw [(turn_eq hsink).2]
  rfl

/-- The prompt in front of a turn is written where a new line is awaited. -/
theorem promptText_eq (session : Session) :
    session.promptText =
      if awaitsLine session.lexer then session.prompt.getD "" else "" := rfl

end Session

namespace Calculator

/-! ## 2. The pieces between the prompts -/

theorem budget_behindTurn_lt {lexer : Lexer Kind} (hgoing : turnResult lexer = .ok true) :
    (behindTurn lexer).budget < lexer.budget := by
  let session : Session := ⟨lexer, .unbounded, none, ⟨0, 0⟩⟩
  obtain ⟨hresult, hstate⟩ := @Session.turn_eq session ⟨rfl, rfl⟩
  have hless := Session.budget_turn_lt (hresult.trans hgoing)
  rw [hstate] at hless
  exact hless

/-- The pieces of a run that begins with a turn in front of the lexer, from those of what follows:
the answer stands at the beginning of the first one, and a prompt in front of it if one is due. -/
def addTurn (lexer : Lexer Kind) (later : List String) : List String :=
  let answered := later.modifyHead (answerText lexer ++ ·)
  if awaitsLine lexer then "" :: answered else answered

/-- What a run in front of the lexer writes, cut where a prompt is due. -/
def outputPieces (lexer : Lexer Kind) : List String :=
  match h : turnResult lexer with
  | .ok true =>
    have := budget_behindTurn_lt h
    addTurn lexer (outputPieces (behindTurn lexer))
  | .ok false => addTurn lexer [""]
  | .error _ => addTurn lexer [""]
termination_by lexer.budget

variable {lexer : Lexer Kind}

theorem outputPieces_of_going (hgoing : turnResult lexer = .ok true) :
    outputPieces lexer = addTurn lexer (outputPieces (behindTurn lexer)) := by
  rw [outputPieces]
  split
  · rfl
  · next hended => rw [hgoing] at hended; cases hended
  · next hfailed => rw [hgoing] at hfailed; cases hfailed

theorem outputPieces_of_last (hlast : turnResult lexer ≠ .ok true) :
    outputPieces lexer = addTurn lexer [""] := by
  rw [outputPieces]
  split
  · next hgoing => exact absurd hgoing hlast
  · rfl
  · rfl

theorem addTurn_ne_nil {later : List String} (hlater : later ≠ []) : addTurn lexer later ≠ [] := by
  obtain ⟨piece, later, rfl⟩ := List.exists_cons_of_ne_nil hlater
  rw [addTurn]
  split <;> simp

theorem outputPieces_ne_nil (lexer : Lexer Kind) : outputPieces lexer ≠ [] := by
  induction hbudget : lexer.budget using Nat.strongRecOn generalizing lexer with
  | _ budget ih =>
    by_cases hgoing : turnResult lexer = .ok true
    · rw [outputPieces_of_going hgoing]
      exact addTurn_ne_nil (ih _ (hbudget ▸ budget_behindTurn_lt hgoing) _ rfl)
    · rw [outputPieces_of_last hgoing]
      exact addTurn_ne_nil (by simp)

/-- The prompt stands between the pieces. -/
theorem intercalate_addTurn (prompt : String) {later : List String} (hlater : later ≠ []) :
    prompt.intercalate (addTurn lexer later) =
      (if awaitsLine lexer then prompt else "") ++ answerText lexer ++ prompt.intercalate later := by
  obtain ⟨piece, later, rfl⟩ := List.exists_cons_of_ne_nil hlater
  rw [addTurn]
  split <;> simp [String.append_assoc]

end Calculator

namespace Session

/-! ## 3. Runs -/

/-- What a run does, from the lexer in front of it and the counts so far: the sessions differ in their
prompts and in what was written before. -/
theorem exists_run (lexer : Lexer Kind) (summary : Summary) :
    ∃ result behind counted, ∀ session : Session, session.sink.NeverFails →
      session.lexer = lexer → session.summary = summary →
      session.run.result = result ∧
      session.run.state =
        (session.emit ((session.prompt.getD "").intercalate (outputPieces lexer))).moved behind
          counted := by
  induction hbudget : lexer.budget using Nat.strongRecOn generalizing lexer summary with
  | _ budget ih =>
    by_cases hgoing : turnResult lexer = .ok true
    · obtain ⟨result, behind, counted, hlater⟩ :=
        ih _ (hbudget ▸ budget_behindTurn_lt hgoing) _ (countTurn lexer summary) rfl
      refine ⟨result, behind, counted, ?_⟩
      rintro session hsink rfl rfl
      obtain ⟨hturn, hstate⟩ := turn_eq hsink
      obtain ⟨hresult, hrun⟩ := run_of_going (hturn.trans hgoing)
      have hquiet : session.turn.state.sink.NeverFails := by
        rw [hstate]
        exact neverFails_emit session hsink _
      obtain ⟨hresult', hrun'⟩ :=
        hlater session.turn.state hquiet (by rw [hstate]; rfl) (by rw [hstate]; rfl)
      refine ⟨hresult.trans hresult', ?_⟩
      rw [hrun, hrun', hstate, emit_moved, emit_emit, moved_moved, outputPieces_of_going hgoing,
        intercalate_addTurn _ (outputPieces_ne_nil _), ← promptText_eq]
      rfl
    · refine ⟨(turnResult lexer).map fun _ => countTurn lexer summary, behindTurn lexer,
        countTurn lexer summary, ?_⟩
      rintro session hsink rfl rfl
      obtain ⟨hturn, hstate⟩ := turn_eq hsink
      obtain ⟨hresult, hrun⟩ := run_of_last (hturn ▸ hgoing)
      rw [hrun, hresult, hturn, hstate, outputPieces_of_last hgoing,
        intercalate_addTurn _ (by simp), ← promptText_eq, String.intercalate_singleton,
        String.append_empty]
      exact ⟨rfl, rfl⟩

/-- What a run writes is the same for all prompts, but for the prompts themselves: there are pieces,
given by the input alone, and a prompt stands between each two of them.  Whatever the prompt is, and
if there is none, the run ends alike, with the same counts and the same lexer. -/
theorem run_of_prompt (reader : Reader) :
    ∃ (pieces : List String) (result : Except CalcError Summary) (lexer : Lexer Kind)
      (summary : Summary), pieces ≠ [] ∧
      ∀ (written : List UInt8) (prompt : Option String), ∃ first,
        start reader ⟨written, none, none⟩ prompt = .ok first ∧
        first.run.result = result ∧
        first.run.state.lexer = lexer ∧ first.run.state.summary = summary ∧
        first.run.state.sink.written =
          written ++ encodeUtf8 (String.intercalate (prompt.getD "") pieces).toList := by
  obtain ⟨result, lexer, summary, hrun⟩ :=
    exists_run ((Lexer.ofReader reader).addRules rules) ⟨0, 0⟩
  refine ⟨outputPieces ((Lexer.ofReader reader).addRules rules), result, lexer, summary,
    outputPieces_ne_nil _, fun written prompt => ?_⟩
  obtain ⟨hresult, hstate⟩ := hrun (fresh reader ⟨written, none, none⟩ prompt) ⟨rfl, rfl⟩ rfl rfl
  refine ⟨_, start_eq reader _ prompt, hresult, ?_⟩
  rw [hstate]
  exact ⟨rfl, rfl, rfl⟩

end Session

end Linewise
