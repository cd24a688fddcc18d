import Linewise.Proofs.Lexer.Advance

/-!
# Requests — the nine questions about the next token

Every request first makes sure that the next token is known.  What it answers, and whether it
takes the token, then depends on that token alone: `ask_of_token`, `ask_of_endOfInput` and
`ask_of_error` say how.
-/

namespace Linewise

/-- A question about the next token, or the order to take it. -/
inductive Request (κ : Type) where
  | peek
  | check (kind : κ) (text : Option String)
  | tryConsume (kind : κ) (text : Option String)
  | consume (kind : κ) (text : Option String)
  | discard
  | nextToken

inductive Answer (κ : Type) where
  | token (found : Option (Token κ))
  | verdict (value : Bool)
  | text (text : String)
  | done

namespace Outcome

variable {σ η ε α β : Type}

def map (f : α → β) (outcome : Outcome σ η ε α) : Outcome σ η ε β :=
  ⟨outcome.result.map f, outcome.state, outcome.events⟩

/-- A result can be told from what becomes of it when different values stay different. -/
theorem result_eq_of_map {f : α → β} (hf : ∀ a b, f a = f b → a = b)
    {outcome other : Outcome σ η ε α} (h : (other.map f).result = (outcome.map f).result) :
    other.result = outcome.result := by
  simp only [map] at h
  cases hother : other.result with
  | error error =>
    cases houtcome : outcome.result <;> rw [hother, houtcome] at h <;> cases h
    rfl
  | ok value =>
    cases houtcome : outcome.result with
    | error error => rw [hother, houtcome] at h; cases h
    | ok value' =>
      rw [hother, houtcome] at h
      rw [hf value value' (Except.ok.inj h)]

theorem eq_of_map {f : α → β} (hf : ∀ a b, f a = f b → a = b) {outcome other : Outcome σ η ε α}
    (h : other.map f = outcome.map f) : other = outcome := by
  have hresult := result_eq_of_map hf (congrArg (·.result) h)
  obtain ⟨result, state, events⟩ := outcome
  obtain ⟨result', state', events'⟩ := other
  simp only [map, mk.injEq] at h hresult ⊢
  exact ⟨hresult, h.2⟩

end Outcome

namespace Lexer

variable {κ : Type}

/-! ## 1. Taking the next token -/

theorem nextToken_of_error {lexer : Lexer κ} {error : LexError κ}
    (herror : lexer.prime.result = .error error) :
    lexer.nextToken = ⟨.error error, lexer.prime.state, lexer.prime.events⟩ := by
  rw [nextToken, Outcome.andThen_error herror]

theorem nextToken_of_token {lexer : Lexer κ} {t : Token κ} (hok : lexer.prime.result = .ok ())
    (ht : lexer.prime.state.lookahead = .token t) :
    lexer.nextToken =
      ⟨.ok (some t), { lexer.prime.state with lookahead := .unprimed }, lexer.prime.events⟩ := by
  rw [nextToken, Outcome.andThen_ok hok, take_of_token ht]
  simp [Outcome.preceded, Outcome.done]

theorem nextToken_of_endOfInput {lexer : Lexer κ} (hok : lexer.prime.result = .ok ())
    (hend : lexer.prime.state.lookahead = .endOfInput) :
    lexer.nextToken = ⟨.ok none, lexer.prime.state, lexer.prime.events⟩ := by
  rw [nextToken, Outcome.andThen_ok hok, take_of_endOfInput hend]
  simp [Outcome.preceded, Outcome.done]

/-- Once the end of input is known, nothing is taken and nothing changes. -/
theorem nextToken_of_known_end {lexer : Lexer κ} (hend : lexer.lookahead = .endOfInput) :
    lexer.nextToken = .done none lexer := by
  have hprime := prime_of_endOfInput hend
  rw [nextToken_of_endOfInput (by rw [hprime]; rfl) (by rw [hprime]; exact hend), hprime]
  rfl

end Lexer

namespace Request

variable {κ : Type} [DecidableEq κ]

/-! ## 2. Asking -/

def ask (request : Request κ) (lexer : Lexer κ) : LexOutcome κ (Answer κ) :=
  match request with
  | .peek => lexer.peek.map .token
  | .check kind text => (lexer.check kind text).map .verdict
  | .tryConsume kind text => (lexer.tryConsume kind text).map .verdict
  | .consume kind text => (lexer.consume kind text).map .text
  | .discard => lexer.discard.map fun _ => .done
  | .nextToken => lexer.nextToken.map .token

/-- Whether the request takes a given next token. -/
def takes (request : Request κ) (t : Token κ) : Bool :=
  match request with
  | .peek | .check _ _ => false
  | .tryConsume kind text | .consume kind text => Lexer.suits kind text t
  | .discard | .nextToken => true

/-- The answer to the request when `t` is the next token. -/
def answerToken (request : Request κ) (t : Token κ) : Except (LexError κ) (Answer κ) :=
  match request with
  | .peek | .nextToken => .ok (.token (some t))
  | .check kind text | .tryConsume kind text => .ok (.verdict (Lexer.suits kind text t))
  | .consume kind text =>
    if Lexer.suits kind text t then .ok (.text t.text)
    else .error ⟨t.position, .unexpected kind text (some t)⟩
  | .discard => .ok .done

/-- The answer to the request when there is no next token and the lexer stands at `position`. -/
def answerEnd (request : Request κ) (position : Position) : Except (LexError κ) (Answer κ) :=
  match request with
  | .peek | .nextToken => .ok (.token none)
  | .check _ _ | .tryConsume _ _ => .ok (.verdict false)
  | .consume kind text => .error ⟨position, .unexpected kind text none⟩
  | .discard => .ok .done

/-- The events of the request when it takes `t`. -/
def takeEvents (request : Request κ) (t : Token κ) : List (LexEvent κ) :=
  match request with
  | .discard => [.tokenDiscarded t.text]
  | _ => []

/-! ## 3. What a request comes to -/

variable {lexer : Lexer κ} (request : Request κ)

theorem ask_of_error {error : LexError κ} (hprime : lexer.prime.result = .error error) :
    request.ask lexer = ⟨.error error, lexer.prime.state, lexer.prime.events⟩ := by
  have hcheck : ∀ kind text, lexer.check kind text =
      ⟨.error error, lexer.prime.state, lexer.prime.events⟩ := fun kind text => by
    rw [Lexer.check, Outcome.andThen_error hprime]
  cases request with
  | peek => rw [ask, Lexer.peek, Outcome.andThen_error hprime]; rfl
  | check kind text => rw [ask, hcheck]; rfl
  | tryConsume kind text => rw [ask, Lexer.tryConsume, hcheck]; rfl
  | consume kind text => rw [ask, Lexer.consume, hcheck]; rfl
  | discard => rw [ask, Lexer.discard, Outcome.andThen_error hprime]; rfl
  | nextToken => rw [ask, Lexer.nextToken, Outcome.andThen_error hprime]; rfl

theorem ask_of_endOfInput (hprime : lexer.prime.result = .ok ())
    (hend : lexer.prime.state.lookahead = .endOfInput) :
    request.ask lexer =
      ⟨request.answerEnd lexer.prime.state.position, lexer.prime.state, lexer.prime.events⟩ := by
  have htake := Lexer.take_of_endOfInput hend
  have hcheck : ∀ kind text, lexer.check kind text =
      ⟨.ok false, lexer.prime.state, lexer.prime.events⟩ := fun kind text => by
    rw [Lexer.check, Outcome.andThen_ok hprime, hend]
    simp [Outcome.preceded, Outcome.done, Lookahead.token?]
  cases request with
  | peek =>
    rw [ask, Lexer.peek, Outcome.andThen_ok hprime, hend]
    simp [Outcome.map, Outcome.preceded, Outcome.done, answerEnd, Lookahead.token?, Except.map]
  | check kind text => rw [ask, hcheck]; rfl
  | tryConsume kind text =>
    rw [ask, Lexer.tryConsume, hcheck]
    simp [Outcome.map, Outcome.andThen, Outcome.preceded, Outcome.done, answerEnd, Except.map]
  | consume kind text =>
    rw [ask, Lexer.consume, hcheck]
    simp [Outcome.map, Outcome.andThen, Outcome.preceded, Outcome.fail, answerEnd, Except.map,
      Lexer.unexpected, hend, Lookahead.token?]
  | discard =>
    rw [ask, Lexer.discard, Outcome.andThen_ok hprime, htake]
    simp [Outcome.map, Outcome.preceded, Outcome.done, answerEnd, Except.map]
  | nextToken =>
    rw [ask, Lexer.nextToken, Outcome.andThen_ok hprime, htake]
    simp [Outcome.map, Outcome.preceded, Outcome.done, answerEnd, Except.map]

theorem ask_of_token {t : Token κ} (hprime : lexer.prime.result = .ok ())
    (htoken : lexer.prime.state.lookahead = .token t) :
    request.ask lexer =
      ⟨request.answerToken t,
        if request.takes t then { lexer.prime.state with lookahead := .unprimed }
        else lexer.prime.state,
        lexer.prime.events ++ if request.takes t then request.takeEvents t else []⟩ := by
  have htake := Lexer.take_of_token htoken
  have hcheck : ∀ kind text, lexer.check kind text =
      ⟨.ok (Lexer.suits kind text t), lexer.prime.state, lexer.prime.events⟩ := fun kind text => by
    rw [Lexer.check, Outcome.andThen_ok hprime, htoken]
    simp [Outcome.preceded, Outcome.done, Lookahead.token?]
  cases request with
  | peek =>
    rw [ask, Lexer.peek, Outcome.andThen_ok hprime, htoken]
    simp [Outcome.map, Outcome.preceded, Outcome.done, answerToken, takes, Lookahead.token?,
      Except.map]
  | check kind text =>
    rw [ask, hcheck]
    simp [Outcome.map, answerToken, takes, Except.map]
  | tryConsume kind text =>
    rw [ask, Lexer.tryConsume, hcheck]
    cases hsuits : Lexer.suits kind text t <;>
      simp [Outcome.map, Outcome.andThen, Outcome.preceded, Outcome.done, answerToken, takes,
        takeEvents, Except.map, hsuits, htake]
  | consume kind text =>
    rw [ask, Lexer.consume, hcheck]
    cases hsuits : Lexer.suits kind text t <;>
      simp [Outcome.map, Outcome.andThen, Outcome.preceded, Outcome.done, Outcome.fail,
        answerToken, takes, takeEvents, Except.map, hsuits, htake, Lexer.unexpected, htoken,
        Lookahead.token?]
  | discard =>
    rw [ask, Lexer.discard, Outcome.andThen_ok hprime, htake]
    simp [Outcome.map, Outcome.preceded, answerToken, takes, takeEvents, Except.map]
  | nextToken =>
    rw [ask, Lexer.nextToken, Outcome.andThen_ok hprime, htake]
    simp [Outcome.map, Outcome.preceded, Outcome.done, answerToken, takes, takeEvents, Except.map]

end Request

end Linewise
