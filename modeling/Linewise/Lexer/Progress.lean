import Linewise.Lexer.Operations

/-!
# Progress — what operations use up

The budget of a lexer bounds how many tokens, lines and failures it can still meet.  No operation
raises it.  Taking a token lowers it, and so does skipping a line that holds unread text.
-/

namespace Linewise

namespace Lexer

variable {κ : Type}

/-- What is still in front of the lexer, apart from a token held as lookahead. -/
def ahead (lexer : Lexer κ) : Nat := lexer.source.weight + lexer.rest.length

def held (lexer : Lexer κ) : Nat := if lexer.lookahead.token?.isSome then 1 else 0

/-- A bound on how many tokens, lines and failures the lexer can still meet. -/
def budget (lexer : Lexer κ) : Nat := 2 * lexer.ahead + lexer.held

theorem held_le_one (lexer : Lexer κ) : lexer.held ≤ 1 := by
  unfold held; split <;> omega

theorem held_of_token {lexer : Lexer κ} {t : Token κ} (h : lexer.lookahead = .token t) :
    lexer.held = 1 := by
  simp [held, h, Lookahead.token?]

theorem held_of_unprimed {lexer : Lexer κ} (h : lexer.lookahead = .unprimed) :
    lexer.held = 0 := by
  simp [held, h, Lookahead.token?]

/-! ## Looking for the next token -/

/-- What `advance` leaves behind, by its outcome. -/
inductive Advanced (lexer : Lexer κ) (outcome : LexOutcome κ Unit) : Prop where
  | token (t : Token κ) (ok : outcome.result = .ok ())
      (lookahead : outcome.state.lookahead = .token t)
      (ahead : outcome.state.ahead < lexer.ahead)
  | endOfInput (ok : outcome.result = .ok ())
      (lookahead : outcome.state.lookahead = .endOfInput)
      (ahead : outcome.state.ahead ≤ lexer.ahead)
  | unmatched (position : Position)
      (error : outcome.result = .error ⟨position, .unmatched outcome.state.remaining⟩)
      (lookahead : outcome.state.lookahead = .unprimed)
      (rest : outcome.state.rest ≠ []) (ahead : outcome.state.ahead ≤ lexer.ahead)
  | splitCharacter (position : Position)
      (error : outcome.result = .error ⟨position, .splitCharacter⟩)
      (lookahead : outcome.state.lookahead = .unprimed)
      (ahead : outcome.state.ahead ≤ lexer.ahead)
  | device (position : Position) (failure : Failure)
      (error : outcome.result = .error ⟨position, .device failure⟩)
      (lookahead : outcome.state.lookahead = .unprimed)
      (ahead : outcome.state.ahead < lexer.ahead)

theorem Advanced.of_ahead_le {lexer next : Lexer κ} {outcome : LexOutcome κ Unit}
    {events : List (LexEvent κ)} (h : Advanced next outcome) (hlt : next.ahead ≤ lexer.ahead) :
    Advanced lexer (outcome.preceded events) := by
  cases h with
  | token t ok lookahead ahead => exact .token t ok lookahead (by simp; omega)
  | endOfInput ok lookahead ahead => exact .endOfInput ok lookahead (by simp; omega)
  | unmatched p error lookahead rest ahead =>
    exact .unmatched p error lookahead rest (by simp; omega)
  | splitCharacter p error lookahead ahead =>
    exact .splitCharacter p error lookahead (by simp; omega)
  | device p f error lookahead ahead => exact .device p f error lookahead (by simp; omega)

theorem ahead_scanned_le (lexer : Lexer κ) : lexer.scanned.ahead ≤ lexer.ahead := by
  have := Scan.length_line_le lexer.rules lexer.position lexer.rest
  simp only [ahead, scanned]; omega

theorem advanced (lexer : Lexer κ) : Advanced lexer lexer.advance := by
  fun_induction advance lexer with
  | case1 lexer scan here t hf =>
    have := Scan.length_line_lt_of_token hf
    refine .token t rfl rfl ?_
    simp only [ahead, here, scanned]; omega
  | case2 lexer scan here hf =>
    exact .unmatched _ rfl rfl (Scan.rest_line_ne_nil_of_unmatched hf) (ahead_scanned_le lexer)
  | case3 lexer scan here hf => exact .splitCharacter _ rfl rfl (ahead_scanned_le lexer)
  | case4 lexer scan here hf text source h hw next ih =>
    have := (Source.weight_nextLine_of_line h).1
    have := length_trimBlanks_le text
    refine ih.of_ahead_le ?_
    simp only [ahead, next, startLine]
    omega
  | case5 lexer scan here hf source h =>
    refine .endOfInput rfl rfl ?_
    have hr : here.rest = [] := Scan.rest_line_of_lineEnd hf
    rw [Source.eq_released_of_nextLine_finished h]
    simp [ahead, hr, Source.weight]
  | case6 lexer scan here hf failure source h next =>
    have := Source.weight_nextLine_of_failed h
    refine .device _ failure rfl rfl ?_
    simp only [ahead, next, loseLine, List.length_nil]
    omega

/-! ## Operations -/

theorem prime_of_token {lexer : Lexer κ} {t : Token κ} (h : lexer.lookahead = .token t) :
    lexer.prime = .done () lexer := by
  simp [prime, h]

/-- What `prime` leaves behind when it succeeds: a token or the end of input. -/
theorem prime_ok {lexer : Lexer κ} {u : Unit} (h : lexer.prime.result = .ok u) :
    (∃ t, lexer.prime.state.lookahead = .token t) ∨
      lexer.prime.state.lookahead = .endOfInput := by
  unfold prime at h ⊢
  split
  · next hl =>
    simp only [hl] at h
    cases advanced lexer with
    | token t ok lookahead ahead => exact .inl ⟨t, lookahead⟩
    | endOfInput ok lookahead ahead => exact .inr lookahead
    | unmatched p error => simp [error] at h
    | splitCharacter p error => simp [error] at h
    | device p f error => simp [error] at h
  · next t hl => exact .inl ⟨t, hl⟩
  · next hl => exact .inr hl

theorem budget_prime_le (lexer : Lexer κ) : lexer.prime.state.budget ≤ lexer.budget := by
  unfold prime
  split
  · have := held_le_one lexer.advance.state
    cases advanced lexer with
    | token t ok lookahead ahead => simp only [budget]; omega
    | endOfInput ok lookahead ahead =>
      have : lexer.advance.state.held = 0 := by simp [held, lookahead, Lookahead.token?]
      simp only [budget]; omega
    | unmatched p error lookahead rest ahead =>
      have := held_of_unprimed lookahead
      simp only [budget]; omega
    | splitCharacter p error lookahead ahead =>
      have := held_of_unprimed lookahead
      simp only [budget]; omega
    | device p f error lookahead ahead => simp only [budget]; omega
  · exact Nat.le_refl _
  · exact Nat.le_refl _

/-- Looking for a token fails with text that no rule matches only in front of such text. -/
theorem prime_unmatched {lexer : Lexer κ} {position : Position} {remainder : String}
    (h : lexer.prime.result = .error ⟨position, .unmatched remainder⟩) :
    lexer.prime.state.lookahead = .unprimed ∧ lexer.prime.state.rest ≠ [] := by
  unfold prime at h ⊢
  split
  · next hl =>
    simp only [hl] at h
    cases advanced lexer with
    | token t ok => simp [ok] at h
    | endOfInput ok => simp [ok] at h
    | unmatched p error lookahead rest => exact ⟨lookahead, rest⟩
    | splitCharacter p error => simp [error] at h
    | device p f error => simp [error] at h
  · next t hl => simp [hl, Outcome.done] at h
  · next hl => simp [hl, Outcome.done] at h

theorem prime_ne_unexpected {lexer : Lexer κ} {position : Position} {kind : κ}
    {text : Option String} {found : Option (Token κ)} :
    lexer.prime.result ≠ .error ⟨position, .unexpected kind text found⟩ := by
  intro h
  unfold prime at h
  split at h
  · cases advanced lexer with
    | token t ok => simp [ok] at h
    | endOfInput ok => simp [ok] at h
    | unmatched p error => simp [error] at h
    | splitCharacter p error => simp [error] at h
    | device p f error => simp [error] at h
  · simp [Outcome.done] at h
  · simp [Outcome.done] at h

theorem take_of_token {lexer : Lexer κ} {t : Token κ} (h : lexer.lookahead = .token t) :
    lexer.take = (some t, { lexer with lookahead := .unprimed }) := by
  simp [take, h]

theorem take_of_endOfInput {lexer : Lexer κ} (h : lexer.lookahead = .endOfInput) :
    lexer.take = (none, lexer) := by
  simp [take, h]

theorem budget_take_lt {lexer : Lexer κ} {t : Token κ} (h : lexer.lookahead = .token t) :
    lexer.take.2.budget < lexer.budget := by
  have h1 := held_of_token h
  simp [take_of_token h, budget, ahead, held, Lookahead.token?, h]

theorem budget_nextToken_lt {lexer : Lexer κ} {t : Token κ}
    (h : lexer.nextToken.result = .ok (some t)) :
    lexer.nextToken.state.budget < lexer.budget := by
  unfold nextToken at h ⊢
  cases hp : lexer.prime.result with
  | error e => simp [Outcome.andThen_error hp] at h
  | ok u =>
    rw [Outcome.andThen_ok hp] at h ⊢
    have hb := budget_prime_le lexer
    rcases prime_ok hp with ⟨s, hs⟩ | he
    · have := budget_take_lt hs
      simp only [Outcome.state_preceded, Outcome.done]
      omega
    · simp [take_of_endOfInput he, Outcome.done] at h

theorem budget_skipLine_lt {lexer : Lexer κ} (h : lexer.lookahead = .unprimed)
    (hr : lexer.rest ≠ []) : lexer.skipLine.1.budget < lexer.budget := by
  have := List.length_pos_iff.mpr hr
  simp only [skipLine, budget, ahead, held, h, Lookahead.token?, List.length_nil]
  simp; omega

theorem budget_take_le (lexer : Lexer κ) : lexer.take.2.budget ≤ lexer.budget := by
  cases h : lexer.lookahead with
  | token t => exact Nat.le_of_lt (budget_take_lt h)
  | unprimed => simp [take, h]
  | endOfInput => simp [take, h]

theorem budget_discard_le (lexer : Lexer κ) : lexer.discard.state.budget ≤ lexer.budget := by
  have hb := budget_prime_le lexer
  have ht := budget_take_le lexer.prime.state
  unfold discard
  cases hp : lexer.prime.result with
  | error e => rw [Outcome.andThen_error hp]; exact hb
  | ok u =>
    rw [Outcome.andThen_ok hp]
    rcases hc : lexer.prime.state.take with ⟨_ | t, after⟩ <;> rw [hc] at ht <;>
      exact Nat.le_trans ht hb

theorem budget_discard_lt {lexer : Lexer κ} {t : Token κ} (h : lexer.lookahead = .token t) :
    lexer.discard.state.budget < lexer.budget := by
  have hp := prime_of_token h
  have ht := budget_take_lt h
  simp only [discard, hp, Outcome.andThen, Outcome.done, take_of_token h]
  rw [take_of_token h] at ht
  exact ht

variable [DecidableEq κ]

theorem state_check (lexer : Lexer κ) (kind : κ) (text : Option String) :
    (lexer.check kind text).state = lexer.prime.state := by
  unfold check
  cases hp : lexer.prime.result with
  | error e => rw [Outcome.andThen_error hp]
  | ok u => rw [Outcome.andThen_ok hp]; rfl

theorem result_check (lexer : Lexer κ) (kind : κ) (text : Option String) :
    (lexer.check kind text).result = lexer.prime.result.map fun _ =>
      lexer.prime.state.lookahead.token?.any (suits kind text) := by
  unfold check
  cases hp : lexer.prime.result with
  | error e => rw [Outcome.andThen_error hp]; rfl
  | ok u => rw [Outcome.andThen_ok hp]; rfl

/-- What `consume` leaves behind, by its outcome. -/
inductive Consumed (lexer : Lexer κ) (outcome : LexOutcome κ String) : Prop where
  | taken (text : String) (ok : outcome.result = .ok text)
      (budget : outcome.state.budget < lexer.budget)
  | failed (error : LexError κ) (result : outcome.result = .error error)
      (primed : lexer.prime.result = .error error) (state : outcome.state = lexer.prime.state)
  | unexpected (position : Position) (kind : κ) (text : Option String)
      (found : Option (Token κ))
      (result : outcome.result = .error ⟨position, .unexpected kind text found⟩)
      (primed : lexer.prime.result = .ok ()) (state : outcome.state = lexer.prime.state)

theorem consumed (lexer : Lexer κ) (kind : κ) (text : Option String) :
    Consumed lexer (lexer.consume kind text) := by
  have hs := state_check lexer kind text
  have hr := result_check lexer kind text
  have hb := budget_prime_le lexer
  unfold consume
  cases hp : lexer.prime.result with
  | error e =>
    rw [hp] at hr
    have hr : (lexer.check kind text).result = .error e := hr
    rw [Outcome.andThen_error hr]
    exact .failed e rfl hp hs
  | ok u =>
    rw [hp] at hr
    have hr : (lexer.check kind text).result =
      .ok (lexer.prime.state.lookahead.token?.any (suits kind text)) := hr
    rw [Outcome.andThen_ok hr, hs]
    rcases prime_ok hp with ⟨t, ht⟩ | he
    · have hl := budget_take_lt ht
      rw [take_of_token ht] at hl ⊢
      cases hsuit : lexer.prime.state.lookahead.token?.any (suits kind text) with
      | true => exact .taken t.text rfl (Nat.lt_of_lt_of_le hl hb)
      | false => exact .unexpected _ _ _ _ rfl hp rfl
    · simp only [he, Lookahead.token?, Option.any_none]
      exact .unexpected _ _ _ _ rfl hp rfl

end Lexer

end Linewise
