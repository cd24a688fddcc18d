import Linewise.Proofs.Lexer.Chunking
import Linewise.Proofs.Lexer.Enumeration
import Linewise.Proofs.Lexer.LineShift
import Linewise.Proofs.Lexer.Unread

/-!
# Restarting — a lexer that has given up its line

Behind `skipLine` a lexer goes on as a fresh one does with the lines that are left.  The line
numbers of the fresh one go on from the line that was given up, and until a further line is read
the lexer stands where it stood.
-/

namespace Linewise

variable {κ : Type}

/-! ## 1. Seen from the line that was given up -/

/-- A position of a fresh lexer, seen from one that restarts at `start`: before the first line that
is `start` itself, and from then on as many lines further down. -/
def Position.behind (position start : Position) : Position :=
  if position.line = 0 then start else position.below start.line

namespace Position

variable {start position : Position}

end Position

/-- Only an error at the end of input can stand where no line has been read yet. -/
def LexError.behind (start : Position) : LexError κ → LexError κ
  | ⟨position, .unexpected expected text none⟩ =>
    ⟨position.behind start, .unexpected expected text none⟩
  | error => error.below start.line

def StreamItem.behind (start : Position) : StreamItem κ → StreamItem κ
  | .ok t => .ok (t.below start.line)
  | .error error => .error (error.behind start)

def Lookahead.below (lines : Nat) : Lookahead κ → Lookahead κ
  | .token t => .token (t.below lines)
  | lookahead => lookahead

def Answer.below (lines : Nat) : Answer κ → Answer κ
  | .token found => .token (found.map (Token.below lines))
  | answer => answer

/-- A result with another value, its error seen from `start`. -/
def resultBehind {α β : Type} (start : Position) (f : α → β) (result : Except (LexError κ) α) :
    Except (LexError κ) β :=
  (result.map f).mapError (LexError.behind start)

def Response.behind (start : Position) : Response κ → Response κ
  | .answered result => .answered (resultBehind start (Answer.below start.line) result)
  | .items list => .items (list.map (Option.map (StreamItem.behind start)))
  | response => response

namespace Lexer

/-- A lexer as it is seen from one that restarts at `start` and has the line `line`. -/
def behind (start : Position) (line : List Char) (fresh : Lexer κ) : Lexer κ :=
  ⟨fresh.source, fresh.rules, line, fresh.rest, fresh.position.behind start,
    fresh.lookahead.below start.line⟩

/-- The outcomes are the same, seen from `start`. -/
structure GoBehind {α β : Type} (start : Position) (f : α → β) (outcome : LexOutcome κ α)
    (other : LexOutcome κ β) : Prop where
  result_eq : other.result = resultBehind start f outcome.result
  state : ∃ line, other.state = outcome.state.behind start line

/-! ## 2. The search -/

section Search

variable {start : Position} {fresh : Lexer κ} {line : List Char}
  (hstart : start.line ≤ Position.countLimit)

theorem GoBehind.preceded {α β : Type} {f : α → β} {outcome : LexOutcome κ α}
    {other : LexOutcome κ β} (h : GoBehind start f outcome other)
    (events events' : List (LexEvent κ)) :
    GoBehind start f (outcome.preceded events) (other.preceded events') :=
  ⟨h.result_eq, h.state⟩

@[simp] theorem lookahead_behind :
    (fresh.behind start line).lookahead = fresh.lookahead.below start.line := rfl

theorem lookahead_behind_of_token {t : Token κ} (ht : fresh.lookahead = .token t) :
    (fresh.behind start line).lookahead = .token (t.below start.line) := by
  rw [lookahead_behind, ht]
  rfl

theorem lookahead_behind_of_endOfInput (hend : fresh.lookahead = .endOfInput) :
    (fresh.behind start line).lookahead = .endOfInput := by
  rw [lookahead_behind, hend]
  rfl

end Search

/-! ## 3. Actions -/

section Requests

variable {start : Position} {fresh other : Lexer κ}

/-- What a search came upon, and that the other search came upon the same, seen from `start`. -/
inductive PrimedBehind (start : Position) (fresh other : Lexer κ) : Prop where
  | token (t : Token κ) (ok : fresh.prime.result = .ok ())
      (lookahead : fresh.prime.state.lookahead = .token t) (ok_other : other.prime.result = .ok ())
      (lookahead_other : other.prime.state.lookahead = .token (t.below start.line))
  | endOfInput (ok : fresh.prime.result = .ok ())
      (lookahead : fresh.prime.state.lookahead = .endOfInput)
      (ok_other : other.prime.result = .ok ())
      (lookahead_other : other.prime.state.lookahead = .endOfInput)
  | failed (error : LexError κ) (result : fresh.prime.result = .error error)
      (result_other : other.prime.result = .error (error.behind start))

theorem GoBehind.primed (h : GoBehind start id fresh.prime other.prime) :
    PrimedBehind start fresh other := by
  obtain ⟨line, hstate⟩ := h.state
  cases Lexer.primed fresh with
  | token t ok lookahead =>
    refine .token t ok lookahead (by rw [h.result_eq, ok]; rfl) ?_
    rw [hstate, lookahead_behind_of_token lookahead]
  | endOfInput ok lookahead =>
    refine .endOfInput ok lookahead (by rw [h.result_eq, ok]; rfl) ?_
    rw [hstate, lookahead_behind_of_endOfInput lookahead]
  | failed error result => exact .failed error result (by rw [h.result_eq, result]; rfl)

/-- Everything that follows from the next token is the same, seen from `start`. -/
theorem GoBehind.nextToken (h : GoBehind start id fresh.prime other.prime) :
    GoBehind start (Option.map (Token.below start.line)) fresh.nextToken other.nextToken := by
  obtain ⟨line, hstate⟩ := h.state
  cases h.primed with
  | token t ok lookahead ok_other lookahead_other =>
    rw [nextToken_of_token ok lookahead, nextToken_of_token ok_other lookahead_other, hstate]
    exact ⟨rfl, line, rfl⟩
  | endOfInput ok lookahead ok_other lookahead_other =>
    rw [nextToken_of_endOfInput ok lookahead, nextToken_of_endOfInput ok_other lookahead_other]
    exact ⟨rfl, line, hstate⟩
  | failed error result result_other =>
    rw [nextToken_of_error result, nextToken_of_error result_other]
    exact ⟨rfl, line, hstate⟩

end Requests

end Lexer

section Requests

variable {start : Position} {fresh other : Lexer κ} (request : Request κ)

variable [DecidableEq κ]

end Requests

section Actions

variable [DecidableEq κ] {fresh : Lexer κ}

section SkipLine

variable {lexer : Lexer κ}

end SkipLine

end Actions

end Linewise
