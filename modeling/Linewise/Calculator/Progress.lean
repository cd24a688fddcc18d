import Linewise.Calculator.Session

/-!
# Progress of a session — every turn uses something up

Each turn after which a session goes on lowers the budget of its lexer: an expression uses up
tokens, and an error that is passed over has cost a token already or costs one, or the rest of a
line, when it is passed over.
-/

namespace Linewise

namespace Calculator

open Lexer

/-- What is true of a lexer whose budget was at most `budget` when an error came up that a session
can pass over: something is used up already, or will be when the error is passed over. -/
def Passable (budget : Nat) (lexer : Lexer Kind) : CalcError → Prop
  | .lex ⟨_, .unmatched _⟩ =>
    lexer.lookahead = .unprimed ∧ lexer.rest ≠ [] ∧ lexer.budget ≤ budget
  | .lex ⟨_, .unexpected _ _ _⟩ =>
    lexer.budget < budget ∨ (∃ t, lexer.lookahead = .token t) ∧ lexer.budget ≤ budget
  | .lex ⟨_, .device _⟩ | .lex ⟨_, .splitCharacter⟩ | .rule _ | .output _ => True
  | .invalidNumber _ _ | .unknownOperator _ | .divisionByZero => lexer.budget < budget

theorem Passable.mono {b c : Nat} {lexer : Lexer Kind} (hbc : b ≤ c) :
    ∀ {error : CalcError}, Passable b lexer error → Passable c lexer error
  | .lex ⟨_, .unmatched _⟩, ⟨hl, hr, hb⟩ => ⟨hl, hr, Nat.le_trans hb hbc⟩
  | .lex ⟨_, .unexpected _ _ _⟩, .inl h => .inl (Nat.lt_of_lt_of_le h hbc)
  | .lex ⟨_, .unexpected _ _ _⟩, .inr ⟨ht, h⟩ => .inr ⟨ht, Nat.le_trans h hbc⟩
  | .lex ⟨_, .device _⟩, _ | .lex ⟨_, .splitCharacter⟩, _ | .rule _, _ | .output _, _ => trivial
  | .invalidNumber _ _, h | .unknownOperator _, h | .divisionByZero, h =>
    Nat.lt_of_lt_of_le h hbc

/-- An outcome that uses something up: the budget is lower after success and, after an error that
can be passed over, lower as soon as it has been. -/
def Uses {α : Type} (budget : Nat) (outcome : CalcOutcome α) : Prop :=
  match outcome.result with
  | .ok _ => outcome.state.budget < budget
  | .error error => Passable budget outcome.state error

theorem Uses.andThen {α β : Type} {budget : Nat} {outcome : CalcOutcome α}
    {next : α → Lexer Kind → CalcOutcome β} (h : Uses budget outcome)
    (hnext : ∀ value, outcome.state.budget < budget → Uses budget (next value outcome.state)) :
    Uses budget (outcome.andThen next) := by
  unfold Uses at h
  cases hr : outcome.result with
  | error error =>
    rw [hr] at h
    rw [Outcome.andThen_error hr]
    exact h
  | ok value =>
    rw [hr] at h
    rw [Outcome.andThen_ok hr]
    exact hnext value h

theorem passable_of_prime_error {lexer : Lexer Kind} {error : LexError Kind}
    (h : lexer.prime.result = .error error) :
    Passable lexer.budget lexer.prime.state (.lex error) := by
  have hb := budget_prime_le lexer
  obtain ⟨position, cause⟩ := error
  cases cause with
  | unmatched remainder =>
    have := prime_unmatched h
    exact ⟨this.1, this.2, hb⟩
  | unexpected kind text found => exact absurd h prime_ne_unexpected
  | device failure => trivial
  | splitCharacter => trivial

/-- Taking a token uses something up, unless the lexer was at the end of input before. -/
theorem uses_consumeAs {α : Type} {kind : Kind} {parse : String → Except CalcError α}
    (hparse : ∀ text error, parse text = .error error →
      (∃ fault, error = .invalidNumber text fault) ∨ error = .unknownOperator text)
    {budget : Nat} {lexer : Lexer Kind} (hb : lexer.budget ≤ budget)
    (hend : lexer.prime.state.lookahead = .endOfInput → lexer.prime.state.budget < budget) :
    Uses budget (consumeAs kind parse lexer) := by
  unfold Uses consumeAs
  cases consumed lexer kind none with
  | taken text ok lower =>
    have hr : (lexed (lexer.consume kind none)).result = .ok text :=
      Outcome.result_embed_ok ok _ _ _
    rw [Outcome.andThen_ok hr]
    simp only [Outcome.result_preceded, Outcome.state_preceded, lexed, Outcome.state_embed]
    have lower := Nat.lt_of_lt_of_le lower hb
    cases hp : parse text with
    | ok value => exact lower
    | error error => rcases hparse text error hp with ⟨fault, rfl⟩ | rfl <;> exact lower
  -- the error came up in looking for the token
  | failed error result primed state =>
    have hr : (lexed (lexer.consume kind none)).result = .error (.lex error) :=
      Outcome.result_embed_error result _ _ _
    rw [Outcome.andThen_error hr]
    simp only [lexed, Outcome.state_embed, state]
    exact (passable_of_prime_error primed).mono hb
  | unexpected position k text found result primed state =>
    have hr : (lexed (lexer.consume kind none)).result =
        .error (.lex ⟨position, .unexpected k text found⟩) :=
      Outcome.result_embed_error result _ _ _
    rw [Outcome.andThen_error hr]
    simp only [lexed, Outcome.state_embed, state]
    rcases prime_ok primed with ht | he
    · exact .inr ⟨ht, Nat.le_trans (budget_prime_le lexer) hb⟩
    · exact .inl (hend he)

theorem parseNumber_error (text : String) (error : CalcError)
    (h : parseNumber text = .error error) :
    (∃ fault, error = .invalidNumber text fault) ∨ error = .unknownOperator text := by
  unfold parseNumber at h
  cases hr : readNumber text with
  | ok value => rw [hr] at h; cases h
  | error fault => rw [hr] at h; cases h; exact .inl ⟨fault, rfl⟩

theorem parseOperator_error (text : String) (error : CalcError)
    (h : parseOperator text = .error error) :
    (∃ fault, error = .invalidNumber text fault) ∨ error = .unknownOperator text := by
  unfold parseOperator at h
  split at h <;> cases h
  exact .inr rfl

/-- Taking an expression in front of a token uses something up. -/
theorem uses_consumeExpression {lexer : Lexer Kind} {t : Token Kind}
    (h : lexer.lookahead = .token t) {budget : Nat} (hb : lexer.budget ≤ budget) :
    Uses budget (consumeExpression lexer) := by
  have hp : lexer.prime.state = lexer := by rw [prime_of_token h]; rfl
  have later {α : Type} {kind : Kind} {parse : String → Except CalcError α}
      (hparse : ∀ text error, parse text = .error error →
        (∃ fault, error = .invalidNumber text fault) ∨ error = .unknownOperator text)
      {lexer : Lexer Kind} (hlt : lexer.budget < budget) :
      Uses budget (consumeAs kind parse lexer) :=
    uses_consumeAs hparse (Nat.le_of_lt hlt) fun _ =>
      Nat.lt_of_le_of_lt (budget_prime_le lexer) hlt
  refine (uses_consumeAs parseNumber_error hb (by rw [hp, h]; exact nofun)).andThen ?_
  intro lhs hlt
  refine (later parseOperator_error hlt).andThen ?_
  intro op hlt
  refine (later parseNumber_error hlt).andThen ?_
  intro rhs hlt
  exact hlt

/-- Asking for the end of the session looks at the next token and leaves it. -/
theorem atEnd_eq (lexer : Lexer Kind) :
    (atEnd lexer).state = lexer.prime.state ∧
      ((∃ e, lexer.prime.result = .error e ∧ (atEnd lexer).result = .error (.lex e)) ∨
        (atEnd lexer).result = .ok true ∨
        (atEnd lexer).result = .ok false ∧ ∃ t, lexer.prime.state.lookahead = .token t) := by
  unfold atEnd peek
  cases hp : lexer.prime.result with
  | error e =>
    rw [Outcome.andThen_error hp]
    exact ⟨rfl, .inl ⟨e, rfl, rfl⟩⟩
  | ok u =>
    rw [Outcome.andThen_ok hp]
    rcases prime_ok hp with ⟨t, ht⟩ | he
    · have hs := state_check lexer.prime.state .reserved (some exitWord)
      have hr := result_check lexer.prime.state .reserved (some exitWord)
      rw [prime_of_token ht] at hs hr
      simp only [Outcome.done, Except.map] at hs hr
      simp only [Outcome.andThen, Outcome.preceded, Outcome.done, ht, Lookahead.token?, lexed,
        Outcome.embed, hs, hr]
      refine ⟨rfl, .inr ?_⟩
      cases hany : (some t).any (suits Kind.reserved (some exitWord)) with
      | true => exact .inl rfl
      | false => exact .inr ⟨rfl, t, rfl⟩
    · simp only [Outcome.andThen, Outcome.preceded, Outcome.done, he, Lookahead.token?, lexed,
        Outcome.embed]
      exact ⟨rfl, .inr (.inl rfl)⟩

theorem uses_nextExpression (lexer : Lexer Kind) :
    match (nextExpression lexer).result with
    | .ok none => True
    | .ok (some _) => (nextExpression lexer).state.budget < lexer.budget
    | .error error => Passable lexer.budget (nextExpression lexer).state error := by
  unfold nextExpression
  obtain ⟨hs, ⟨e, hp, hr⟩ | hr | ⟨hr, t, ht⟩⟩ := atEnd_eq lexer
  · rw [Outcome.andThen_error hr, hs]
    exact passable_of_prime_error hp
  · rw [Outcome.andThen_ok hr]
    trivial
  · rw [Outcome.andThen_ok hr, hs]
    have hu := uses_consumeExpression ht (budget_prime_le lexer)
    simp only [Bool.false_eq_true, if_false, Outcome.result_preceded, Outcome.state_preceded]
    unfold Uses at hu
    cases hc : (consumeExpression lexer.prime.state).result with
    | error error =>
      rw [hc] at hu
      rw [Outcome.andThen_error hc]
      exact hu
    | ok expression =>
      rw [hc] at hu
      rw [Outcome.andThen_ok hc]
      exact hu

end Calculator

namespace Session

open Calculator Lexer

theorem lexer_onSink (session : Session) (operation : Sink → Except Failure Unit × Sink) :
    (session.onSink operation).state.lexer = session.lexer := rfl

theorem lexer_showPrompt (session : Session) : session.showPrompt.state.lexer = session.lexer := by
  unfold showPrompt
  split
  · rfl
  · next prompt _ =>
    split
    · cases hw : (session.write prompt).result with
      | error e => rw [Outcome.andThen_error hw]; rfl
      | ok u => rw [Outcome.andThen_ok hw]; rfl
    · rfl

/-- Answering an expression leaves the lexer alone; the only error that can be passed over is a
division by zero. -/
theorem answer_error {session : Session} {e : Expression} {error : CalcError}
    (h : (session.answer e).result = .error error) :
    error = .divisionByZero ∨ ∃ failure, error = .output failure := by
  unfold answer at h
  split at h
  · cases h; exact .inl rfl
  · next value _ =>
    simp only [Outcome.result_preceded, write, onSink] at h
    generalize Sink.write _ _ = outcome at h
    obtain ⟨_ | u, sink⟩ := outcome <;> cases h
    exact .inr ⟨_, rfl⟩

theorem lexer_answer (session : Session) (e : Expression) :
    (session.answer e).state.lexer = session.lexer := by
  unfold answer
  split <;> rfl

theorem uses_step (session : Session) :
    match session.step.result with
    | .ok false => True
    | .ok true => session.step.state.lexer.budget < session.lexer.budget
    | .error error => Passable session.lexer.budget session.step.state.lexer error := by
  have hu := uses_nextExpression session.lexer
  unfold step
  cases hr : (nextExpression session.lexer).result with
  | error error =>
    rw [hr] at hu
    have hr : (session.reading (nextExpression session.lexer)).result = .error error :=
      Outcome.result_embed_error hr _ _ _
    rw [Outcome.andThen_error hr]
    exact hu
  | ok expression =>
    rw [hr] at hu
    have hr : (session.reading (nextExpression session.lexer)).result = .ok expression :=
      Outcome.result_embed_ok hr _ _ _
    rw [Outcome.andThen_ok hr]
    cases expression with
    | none => trivial
    | some e =>
      simp only [Outcome.result_preceded, Outcome.state_preceded]
      generalize hs : (session.reading (nextExpression session.lexer)).state = read
      have hl : read.lexer = (nextExpression session.lexer).state := by rw [← hs]; rfl
      rw [← hl] at hu
      have ha := lexer_answer read e
      cases hw : (read.answer e).result with
      | error error =>
        rw [Outcome.andThen_error hw]
        rcases answer_error hw with rfl | ⟨failure, rfl⟩
        · simp only [Passable, ha]; exact hu
        · trivial
      | ok u =>
        rw [Outcome.andThen_ok hw]
        simp only [Outcome.result_preceded, Outcome.state_preceded, Outcome.done, ha]
        exact hu

theorem budget_recover_lt {session : Session} {budget : Nat} :
    ∀ {error : CalcError}, Passable budget session.lexer error → error.isRecoverable = true →
      (session.recover error).state.lexer.budget < budget
  | .lex ⟨_, .unmatched _⟩, ⟨hl, hrest, hb⟩, _ =>
    Nat.lt_of_lt_of_le (budget_skipLine_lt hl hrest) hb
  | .lex ⟨_, .unexpected _ _ _⟩, .inl h, _ =>
    Nat.lt_of_le_of_lt (budget_discard_le session.lexer) h
  | .lex ⟨_, .unexpected _ _ _⟩, .inr ⟨⟨_, ht⟩, hb⟩, _ =>
    Nat.lt_of_lt_of_le (budget_discard_lt ht) hb
  | .invalidNumber _ _, h, _ | .unknownOperator _, h, _ | .divisionByZero, h, _ => h

/-- Every turn after which the session goes on lowers the budget of its lexer. -/
theorem budget_turn_lt {session : Session} (h : session.turn.result = .ok true) :
    session.turn.state.lexer.budget < session.lexer.budget := by
  have hp := lexer_showPrompt session
  unfold turn at h ⊢
  cases hs : session.showPrompt.result with
  | error error => rw [Outcome.andThen_error hs] at h; cases h
  | ok u =>
    rw [Outcome.andThen_ok hs] at h ⊢
    simp only [Outcome.result_preceded, Outcome.state_preceded] at h ⊢
    generalize session.showPrompt.state = prompted at hp h ⊢
    have hu := uses_step prompted
    rw [hp] at hu
    unfold Outcome.orElse at h ⊢
    cases hr : prompted.step.result with
    | ok goesOn =>
      simp only [hr] at h hu ⊢
      cases h
      exact hu
    | error error =>
      simp only [hr, Outcome.result_preceded, Outcome.state_preceded] at h hu ⊢
      generalize prompted.step.state = failed at h hu ⊢
      cases hrec : error.isRecoverable with
      | false => simp [hrec, Outcome.fail] at h
      | true =>
        simp only [hrec, if_true] at h ⊢
        cases hrep : (failed.report error).result with
        | error e => rw [Outcome.andThen_error hrep] at h; cases h
        | ok u =>
          rw [Outcome.andThen_ok hrep]
          simp only [Outcome.state_preceded, Outcome.done]
          unfold report at hrep ⊢
          generalize hc : ({ failed with
            summary := { failed.summary with errors := failed.summary.errors + 1 } } : Session) =
              counted at hrep ⊢
          have hcl : counted.lexer = failed.lexer := by rw [← hc]
          cases hw : (counted.write ("error: " ++ error.message ++ "\n")).result with
          | error e => rw [Outcome.andThen_error hw] at hrep; cases hrep
          | ok u =>
            rw [Outcome.andThen_ok hw]
            refine budget_recover_lt ?_ hrec
            rw [write, lexer_onSink, hcl]
            exact hu

end Session

end Linewise
