/-!
# Outcomes — what an operation leaves behind

An operation on a state yields a result or an error, the state afterwards in either case, and the
events that happened meanwhile, in order.
-/

namespace Linewise

/-- The result of an operation or its error, the state afterwards, and the events in between. -/
structure Outcome (σ η ε α : Type) where
  result : Except ε α
  state : σ
  events : List η

namespace Outcome

variable {σ τ η θ ε δ α β : Type}

def done (value : α) (state : σ) : Outcome σ η ε α := ⟨.ok value, state, []⟩

def fail (error : ε) (state : σ) : Outcome σ η ε α := ⟨.error error, state, []⟩

def preceded (events : List η) (outcome : Outcome σ η ε α) : Outcome σ η ε α :=
  { outcome with events := events ++ outcome.events }

/-- Goes on with a successful result; an error ends the operation. -/
def andThen (outcome : Outcome σ η ε α) (next : α → σ → Outcome σ η ε β) : Outcome σ η ε β :=
  match outcome.result with
  | .ok value => (next value outcome.state).preceded outcome.events
  | .error error => ⟨.error error, outcome.state, outcome.events⟩

/-- Goes on with an error; success ends the operation. -/
def orElse (outcome : Outcome σ η ε α) (next : ε → σ → Outcome σ η ε α) : Outcome σ η ε α :=
  match outcome.result with
  | .ok _ => outcome
  | .error error => (next error outcome.state).preceded outcome.events

/-- The outcome of an operation as part of one on a larger state. -/
def embed (state : σ → τ) (event : η → θ) (error : ε → δ) (outcome : Outcome σ η ε α) :
    Outcome τ θ δ α :=
  ⟨outcome.result.mapError error, state outcome.state, outcome.events.map event⟩

@[simp] theorem result_preceded (events : List η) (outcome : Outcome σ η ε α) :
    (outcome.preceded events).result = outcome.result := rfl

@[simp] theorem state_preceded (events : List η) (outcome : Outcome σ η ε α) :
    (outcome.preceded events).state = outcome.state := rfl

@[simp] theorem events_preceded (events : List η) (outcome : Outcome σ η ε α) :
    (outcome.preceded events).events = events ++ outcome.events := rfl

theorem andThen_ok {outcome : Outcome σ η ε α} {value : α} (h : outcome.result = .ok value)
    (next : α → σ → Outcome σ η ε β) :
    outcome.andThen next = (next value outcome.state).preceded outcome.events := by
  simp [andThen, h]

theorem andThen_error {outcome : Outcome σ η ε α} {error : ε}
    (h : outcome.result = .error error) (next : α → σ → Outcome σ η ε β) :
    outcome.andThen next = ⟨.error error, outcome.state, outcome.events⟩ := by
  simp [andThen, h]

/-- Events in front of an operation are events in front of what it goes on with. -/
theorem andThen_preceded (events : List η) (outcome : Outcome σ η ε α)
    (next : α → σ → Outcome σ η ε β) :
    (outcome.preceded events).andThen next = (outcome.andThen next).preceded events := by
  unfold andThen
  cases h : outcome.result with
  | ok value => simp only [result_preceded, h]; simp [preceded, List.append_assoc]
  | error error => simp only [result_preceded, h]; rfl

@[simp] theorem result_embed (state : σ → τ) (event : η → θ) (error : ε → δ)
    (outcome : Outcome σ η ε α) :
    (outcome.embed state event error).result = outcome.result.mapError error := rfl

@[simp] theorem state_embed (state : σ → τ) (event : η → θ) (error : ε → δ)
    (outcome : Outcome σ η ε α) :
    (outcome.embed state event error).state = state outcome.state := rfl

theorem embed_preceded (state : σ → τ) (event : η → θ) (error : ε → δ) (events : List η)
    (outcome : Outcome σ η ε α) :
    (outcome.preceded events).embed state event error =
      (outcome.embed state event error).preceded (events.map event) := by
  simp [embed, preceded]

theorem result_embed_ok {outcome : Outcome σ η ε α} {value : α} (h : outcome.result = .ok value)
    (state : σ → τ) (event : η → θ) (error : ε → δ) :
    (outcome.embed state event error).result = .ok value := by
  rw [result_embed, h]
  rfl

theorem result_embed_error {outcome : Outcome σ η ε α} {fault : ε}
    (h : outcome.result = .error fault) (state : σ → τ) (event : η → θ) (error : ε → δ) :
    (outcome.embed state event error).result = .error (error fault) := by
  rw [result_embed, h]
  rfl

end Outcome

end Linewise
