import Linewise.Proofs.Lexer.TokenCursor

/-!
# Taking tokens — what the next token decides

`Primed` tells apart what looking for the next token comes to: a token, the end of input or an
error.  What `consume` and `discard` do follows from it, and `Takes` names the tokens that are taken
one after another.
-/

namespace Linewise

namespace Lexer

variable {κ : Type} {lexer after : Lexer κ}

/-! ## 1. The next token -/

/-- What looking for the next token comes to. -/
inductive Primed (lexer : Lexer κ) : Prop where
  | token (t : Token κ) (ok : lexer.prime.result = .ok ())
      (lookahead : lexer.prime.state.lookahead = .token t)
  | endOfInput (ok : lexer.prime.result = .ok ())
      (lookahead : lexer.prime.state.lookahead = .endOfInput)
  | failed (error : LexError κ) (result : lexer.prime.result = .error error)

theorem primed (lexer : Lexer κ) : Primed lexer := by
  cases hprime : lexer.prime.result with
  | error error => exact .failed error hprime
  | ok =>
    rcases prime_ok hprime with ⟨t, ht⟩ | hend
    · exact .token t hprime ht
    · exact .endOfInput hprime hend

theorem prime_of_nextToken {t : Token κ} (hnext : lexer.nextToken.result = .ok (some t)) :
    lexer.prime.result = .ok () ∧ lexer.prime.state.lookahead = .token t := by
  cases primed lexer with
  | token u ok lookahead =>
    rw [nextToken_of_token ok lookahead] at hnext
    cases hnext
    exact ⟨ok, lookahead⟩
  | endOfInput ok lookahead =>
    rw [nextToken_of_endOfInput ok lookahead] at hnext
    cases hnext
  | failed error result =>
    rw [nextToken_of_error result] at hnext
    cases hnext

/-- Taking the next token changes nothing but the lookahead, once it has been looked for. -/
theorem state_nextToken (lexer : Lexer κ) :
    ∃ lookahead, lexer.nextToken.state = { lexer.prime.state with lookahead } := by
  cases primed lexer with
  | token t ok lookahead => exact ⟨_, congrArg Outcome.state (nextToken_of_token ok lookahead)⟩
  | endOfInput ok lookahead =>
    exact ⟨_, congrArg Outcome.state (nextToken_of_endOfInput ok lookahead)⟩
  | failed error result => exact ⟨_, congrArg Outcome.state (nextToken_of_error result)⟩

/-- Once the next token is known, taking it makes no difference to when it was looked for. -/
theorem nextToken_prime (hok : lexer.prime.result = .ok ()) :
    lexer.prime.state.nextToken.result = lexer.nextToken.result ∧
      lexer.prime.state.nextToken.state = lexer.nextToken.state := by
  have hagain := prime_prime_of_ok hok
  simp only [nextToken, Outcome.andThen, hagain, hok]
  exact ⟨rfl, rfl⟩

/-! ## 2. Tokens one after another -/

/-- Tokens that are taken one after another, and the lexer behind them. -/
inductive Takes : Lexer κ → List (Token κ) → Lexer κ → Prop where
  | nil (lexer : Lexer κ) : Takes lexer [] lexer
  | cons {lexer after : Lexer κ} {t : Token κ} {ts : List (Token κ)}
      (first : lexer.nextToken.result = .ok (some t))
      (later : Takes lexer.nextToken.state ts after) : Takes lexer (t :: ts) after

theorem Takes.append {between after : Lexer κ} {ts us : List (Token κ)}
    (hfront : lexer.Takes ts between) (hback : between.Takes us after) :
    lexer.Takes (ts ++ us) after := by
  induction hfront with
  | nil => exact hback
  | cons first _ ih => exact .cons first (ih hback)

/-- Of the same lexer the same tokens are taken, so fewer tokens come first. -/
theorem Takes.exists_back {between after : Lexer κ} {us ts : List (Token κ)}
    (hfront : lexer.Takes us between) (htakes : lexer.Takes ts after) (hlength : us.length ≤ ts.length) :
    ∃ back, ts = us ++ back ∧ between.Takes back after := by
  induction hfront generalizing ts with
  | nil => exact ⟨ts, rfl, htakes⟩
  | @cons lexer between u us first later ih =>
    cases htakes with
    | nil => exact absurd hlength (by simp)
    | @cons _ _ t ts first' later' =>
      rw [first] at first'
      cases first'
      obtain ⟨back, rfl, hback⟩ := ih later' (by simpa using hlength)
      exact ⟨back, rfl, hback⟩

theorem Takes.of_prime {t : Token κ} {ts : List (Token κ)} {after : Lexer κ}
    (hok : lexer.prime.result = .ok ()) (htakes : lexer.prime.state.Takes (t :: ts) after) :
    lexer.Takes (t :: ts) after := by
  obtain ⟨hresult, hstate⟩ := nextToken_prime hok
  cases htakes with
  | cons first later =>
    rw [hresult] at first
    rw [hstate] at later
    exact .cons first later

/-! ## 3. Requiring a token, and discarding it -/

section Consume

variable [DecidableEq κ] (kind : κ) (text : Option String)

theorem consume_of_token {t : Token κ} (hok : lexer.prime.result = .ok ())
    (ht : lexer.prime.state.lookahead = .token t) :
    (lexer.consume kind text).result =
        (if suits kind text t then .ok t.text
          else .error (lexer.prime.state.unexpected kind text)) ∧
      (lexer.consume kind text).state =
        if suits kind text t then lexer.nextToken.state else lexer.prime.state := by
  have hcheck : (lexer.check kind text).result = .ok (suits kind text t) := by
    rw [result_check, hok, ht]
    rfl
  rw [nextToken_of_token hok ht, consume, Outcome.andThen_ok hcheck, state_check, take_of_token ht]
  cases suits kind text t <;> exact ⟨rfl, rfl⟩

theorem consume_of_endOfInput (hok : lexer.prime.result = .ok ())
    (hend : lexer.prime.state.lookahead = .endOfInput) :
    (lexer.consume kind text).result = .error (lexer.prime.state.unexpected kind text) ∧
      (lexer.consume kind text).state = lexer.prime.state := by
  have hcheck : (lexer.check kind text).result = .ok false := by
    rw [result_check, hok, hend]
    rfl
  rw [consume, Outcome.andThen_ok hcheck, state_check]
  exact ⟨rfl, rfl⟩

theorem consume_of_error {error : LexError κ} (herror : lexer.prime.result = .error error) :
    (lexer.consume kind text).result = .error error ∧
      (lexer.consume kind text).state = lexer.prime.state := by
  have hcheck : (lexer.check kind text).result = .error error := by
    rw [result_check, herror]
    rfl
  rw [consume, Outcome.andThen_error hcheck, state_check]
  exact ⟨rfl, rfl⟩

end Consume

/-- Where the next token, or that there is none, is known, discarding succeeds. -/
theorem discard_of_primed (hknown : lexer.prime = .done () lexer) :
    lexer.discard.result = .ok () := by
  rw [discard, hknown]
  simp only [Outcome.done, Outcome.andThen]
  rcases lexer.take with ⟨_ | t, behind⟩ <;> rfl

theorem state_discard (lexer : Lexer κ) : lexer.discard.state = lexer.nextToken.state := by
  cases primed lexer with
  | token t ok lookahead =>
    rw [nextToken_of_token ok lookahead, discard, Outcome.andThen_ok ok, take_of_token lookahead]
    rfl
  | endOfInput ok lookahead =>
    rw [nextToken_of_endOfInput ok lookahead, discard, Outcome.andThen_ok ok,
      take_of_endOfInput lookahead]
    rfl
  | failed error result => rw [nextToken_of_error result, discard, Outcome.andThen_error result]

/-! ## 4. The rules stay -/

theorem Advances.rules_eq {outcome : LexOutcome κ Unit} (h : lexer.Advances outcome) :
    outcome.state.rules = lexer.rules := by
  induction h with
  | ignored _ _ _ _ ih => exact ih
  | lineRead _ _ _ ih => exact ih
  | _ => rfl

@[simp] theorem rules_prime (lexer : Lexer κ) : lexer.prime.state.rules = lexer.rules := by
  rcases lexer.prime_cases with hknown | ⟨-, hsearch⟩
  · rw [hknown]
    rfl
  · exact hsearch.rules_eq

@[simp] theorem rules_nextToken (lexer : Lexer κ) : lexer.nextToken.state.rules = lexer.rules := by
  obtain ⟨lookahead, hstate⟩ := lexer.state_nextToken
  rw [hstate]
  exact rules_prime lexer

theorem Takes.rules_eq {ts : List (Token κ)} (h : lexer.Takes ts after) :
    after.rules = lexer.rules := by
  induction h with
  | nil => rfl
  | cons _ _ ih => exact ih.trans (rules_nextToken _)

end Lexer

end Linewise
