import Linewise.Lexer.Progress

/-!
# Token streams — the tokens of a lexer one after another

A stream yields the lexer's tokens up to the end of input.  The first error it meets is its last
item, so that it never lingers at text that no rule matches.
-/

namespace Linewise

/-- A lexer whose tokens are being enumerated, and whether the enumeration has met an error. -/
structure TokenStream (κ : Type) where
  lexer : Lexer κ
  failed : Bool

/-- An item of a stream: a token, or the error that ends the stream. -/
abbrev StreamItem (κ : Type) := Except (LexError κ) (Token κ)

namespace TokenStream

variable {κ : Type}

def ofLexer (lexer : Lexer κ) : TokenStream κ := ⟨lexer, false⟩

/-- The next item of the stream, if there is one, the stream behind it, and what happened. -/
def next (stream : TokenStream κ) :
    Option (StreamItem κ) × TokenStream κ × List (LexEvent κ) :=
  if stream.failed then (none, stream, [])
  else
    let outcome := stream.lexer.nextToken
    match outcome.result with
    | .ok token => (token.map .ok, ⟨outcome.state, false⟩, outcome.events)
    | .error error => (some (.error error), ⟨outcome.state, true⟩, outcome.events)

/-- A bound on the number of items still to come. -/
def bound (stream : TokenStream κ) : Nat := if stream.failed then 0 else stream.lexer.budget + 1

theorem bound_next_lt {stream : TokenStream κ} {item : StreamItem κ}
    (h : stream.next.1 = some item) : stream.next.2.1.bound < stream.bound := by
  unfold next at h ⊢
  split
  · next hf => simp [hf] at h
  · next hf =>
    simp only [hf, Bool.false_eq_true, if_false] at h ⊢
    split
    · next token hr =>
      simp only [hr, Option.map_eq_some_iff] at h
      obtain ⟨t, rfl, -⟩ := h
      have := Lexer.budget_nextToken_lt hr
      simp only [bound, hf, Bool.false_eq_true, if_false]
      omega
    · simp [bound, hf]

/-- The items of several calls of `next`, the stream behind them, and what happened.  Calls
beyond the end give nothing. -/
def nextMany (count : Nat) (stream : TokenStream κ) :
    List (Option (StreamItem κ)) × TokenStream κ × List (LexEvent κ) :=
  match count with
  | 0 => ([], stream, [])
  | count + 1 =>
    let (item, behind, events) := stream.next
    let (items, last, later) := nextMany count behind
    (item :: items, last, events ++ later)

theorem next_of_failed (lexer : Lexer κ) :
    next ⟨lexer, true⟩ = (none, ⟨lexer, true⟩, []) :=
  if_pos rfl

/-- A stream that has met an error has no more items. -/
theorem nextMany_of_failed (count : Nat) (lexer : Lexer κ) :
    nextMany count ⟨lexer, true⟩ = (List.replicate count none, ⟨lexer, true⟩, []) := by
  induction count with
  | zero => rfl
  | succ count ih =>
    rw [nextMany, next_of_failed]
    simp only [ih]
    rfl

def all (stream : TokenStream κ) :
    List (StreamItem κ) × TokenStream κ × List (LexEvent κ) :=
  match h : stream.next with
  | (none, behind, events) => ([], behind, events)
  | (some item, behind, events) =>
    have : behind.bound < stream.bound := by
      have hlt : stream.next.2.1.bound < stream.bound := bound_next_lt (congrArg Prod.fst h)
      rwa [h] at hlt
    let (items, last, later) := all behind
    (item :: items, last, events ++ later)
termination_by stream.bound

end TokenStream

end Linewise
