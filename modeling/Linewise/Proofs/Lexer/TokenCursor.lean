import Linewise.Proofs.Lexer.Advance
import Linewise.Proofs.Lexer.Transcript
import Mathlib.Data.List.Induction

/-!
# Cursors — a lexer as a place in the sequence of its tokens

What `nextToken` finds when it is called over and over is a sequence of sights.  A cursor is a
place in this sequence: it answers every request from the sight in front of it, and moves by one
when a token is taken or a failure of the source has been reported.  `transcript_eq_run` says that
a lexer asked in any way is such a cursor.
-/

namespace Linewise

variable {κ : Type}

inductive Sight (κ : Type) where
  | token (token : Token κ)
  | endOfInput (position : Position)
  | failed (error : LexError κ)

namespace Sight

def token? : Sight κ → Option (Token κ)
  | .token t => some t
  | .endOfInput _ | .failed _ => none

end Sight

namespace Lexer

/-- The lexer after `count` calls of `nextToken`. -/
def afterCalls (lexer : Lexer κ) : Nat → Lexer κ
  | 0 => lexer
  | count + 1 => (lexer.afterCalls count).nextToken.state

def front (lexer : Lexer κ) : Sight κ :=
  match lexer.nextToken.result with
  | .ok (some t) => .token t
  | .ok none => .endOfInput lexer.nextToken.state.position
  | .error error => .failed error

/-- What the call of `nextToken` with the given number, counted from zero, comes upon. -/
def sight (lexer : Lexer κ) (number : Nat) : Sight κ := (lexer.afterCalls number).front

end Lexer

/-! ## 1. The cursor -/

namespace Request

variable [DecidableEq κ]

/-- The answer to a request in front of a sight. -/
def answerSight (request : Request κ) : Sight κ → Except (LexError κ) (Answer κ)
  | .token t => request.answerToken t
  | .endOfInput position => request.answerEnd position
  | .failed error => .error error

/-- Whether a request passes the sight in front of it.  Text that no rule matches and the end of
input are never passed. -/
def passes (request : Request κ) : Sight κ → Bool
  | .token t => request.takes t
  | .failed ⟨_, .device _⟩ => true
  | .endOfInput _ | .failed _ => false

end Request

/-- A place in a sequence of sights, and the answers given on the way there. -/
structure TokenCursor (κ : Type) where
  place : Nat
  answers : List (Except (LexError κ) (Answer κ))

namespace TokenCursor

/-- Whether a match has split a character. -/
def isOver (cursor : TokenCursor κ) : Bool :=
  cursor.answers.any fun answer => (Response.answered answer).isSplit

variable [DecidableEq κ]

def perform (sights : Nat → Sight κ) (cursor : TokenCursor κ) (request : Request κ) : TokenCursor κ :=
  if cursor.isOver then cursor
  else
    let sight := sights cursor.place
    ⟨if request.passes sight then cursor.place + 1 else cursor.place,
      cursor.answers ++ [request.answerSight sight]⟩

theorem perform_of_isOver {sights : Nat → Sight κ} {cursor : TokenCursor κ}
    (hover : cursor.isOver = true) (request : Request κ) :
    cursor.perform sights request = cursor := by
  rw [perform, if_pos hover]

theorem perform_of_not_isOver {sights : Nat → Sight κ} {cursor : TokenCursor κ}
    (hgoing : cursor.isOver = false) (request : Request κ) :
    cursor.perform sights request =
      ⟨if request.passes (sights cursor.place) then cursor.place + 1 else cursor.place,
        cursor.answers ++ [request.answerSight (sights cursor.place)]⟩ := by
  rw [perform, if_neg (by simp [hgoing])]

/-- The cursor that starts at the first sight, after some requests. -/
def run (sights : Nat → Sight κ) (requests : List (Request κ)) : TokenCursor κ :=
  requests.foldl (perform sights) ⟨0, []⟩

end TokenCursor

/-! ## 2. Asking again -/

namespace Lexer

/-- Once the next token, or that there is none, is known, nothing more is looked for. -/
theorem prime_prime_of_ok {lexer : Lexer κ} (hok : lexer.prime.result = .ok ()) :
    lexer.prime.state.prime = .done () lexer.prime.state := by
  rcases prime_ok hok with ⟨t, ht⟩ | hend
  · exact prime_of_token ht
  · exact prime_of_endOfInput hend

theorem Advances.advance_of_unmatched {lexer : Lexer κ} {outcome : LexOutcome κ Unit}
    (h : Advances lexer outcome) (hprimed : lexer.lookahead = .unprimed)
    {position : Position} {remainder : String}
    (herror : outcome.result = .error ⟨position, .unmatched remainder⟩) :
    outcome.state.lookahead = .unprimed ∧
      outcome.state.advance = .fail ⟨position, .unmatched remainder⟩ outcome.state := by
  induction h with
  | ignored _ _ _ _ ih => exact ih hprimed herror
  | lineRead _ _ _ ih => exact ih hprimed herror
  | token => cases herror
  | finished => cases herror
  | lineLost => cases herror
  | unmatched hrest hnone =>
    cases herror
    exact ⟨hprimed, Lexer.advance_of_unmatched hprimed hrest hnone⟩
  | splitCharacter => cases herror

/-- Text that no rule matches is met again and again. -/
theorem prime_prime_of_unmatched {lexer : Lexer κ} {position : Position} {remainder : String}
    (herror : lexer.prime.result = .error ⟨position, .unmatched remainder⟩) :
    lexer.prime.state.prime = .fail ⟨position, .unmatched remainder⟩ lexer.prime.state := by
  cases hlook : lexer.lookahead with
  | unprimed =>
    rw [prime_of_unprimed hlook] at herror ⊢
    -- the search stopped in front of the text, with nothing left to pass on the way to it
    obtain ⟨hprimed, hagain⟩ := (advances_advance lexer hlook).advance_of_unmatched hlook herror
    rw [prime_of_unprimed hprimed, hagain]
  | token t => rw [prime_of_token hlook] at herror; cases herror
  | endOfInput => rw [prime_of_endOfInput hlook] at herror; cases herror

/-! ## 3. Sights -/

theorem front_of_error {lexer : Lexer κ} {error : LexError κ}
    (herror : lexer.prime.result = .error error) : lexer.front = .failed error := by
  rw [front, nextToken_of_error herror]

theorem front_of_token {lexer : Lexer κ} {t : Token κ} (hok : lexer.prime.result = .ok ())
    (ht : lexer.prime.state.lookahead = .token t) : lexer.front = .token t := by
  rw [front, nextToken_of_token hok ht]

theorem front_of_endOfInput {lexer : Lexer κ} (hok : lexer.prime.result = .ok ())
    (hend : lexer.prime.state.lookahead = .endOfInput) :
    lexer.front = .endOfInput lexer.prime.state.position := by
  rw [front, nextToken_of_endOfInput hok hend]

/-- Two lexers agree when looking for the next token gives the same result and the same lexer. -/
def Agrees (lexer other : Lexer κ) : Prop :=
  lexer.prime.result = other.prime.result ∧ lexer.prime.state = other.prime.state

section Agrees

variable [DecidableEq κ] {lexer other : Lexer κ} (hagrees : lexer.Agrees other)
  (request : Request κ)

include hagrees

theorem Agrees.result_ask : (request.ask lexer).result = request.answerSight other.front := by
  obtain ⟨hresult, hstate⟩ := hagrees
  cases hprime : other.prime.result with
  | error error =>
    rw [request.ask_of_error (hresult.trans hprime), front_of_error hprime]
    rfl
  | ok =>
    have hok := hresult.trans hprime
    rcases prime_ok hprime with ⟨t, ht⟩ | hend
    · rw [request.ask_of_token hok (hstate ▸ ht), front_of_token hprime ht]
      rfl
    · rw [request.ask_of_endOfInput hok (hstate ▸ hend), front_of_endOfInput hprime hend, hstate]
      rfl

/-- The token that a request takes is the one in front, if the request passes it. -/
theorem Agrees.filter_takes :
    lexer.prime.state.lookahead.token?.toList.filter request.takes =
      if request.passes other.front then other.front.token?.toList else [] := by
  obtain ⟨hresult, hstate⟩ := hagrees
  rw [hstate]
  cases hprime : other.prime.result with
  | error error =>
    rw [lookahead_prime_of_error hprime, front_of_error hprime]
    simp [Lookahead.token?, Sight.token?]
  | ok =>
    rcases prime_ok hprime with ⟨t, ht⟩ | hend
    · rw [ht, front_of_token hprime ht]
      simp only [Lookahead.token?, Sight.token?, Request.passes, Option.toList_some,
        List.filter_cons, List.filter_nil]
      rfl
    · rw [hend, front_of_endOfInput hprime hend]
      simp [Lookahead.token?, Sight.token?]

/-- A request leads to a lexer that agrees with the other one, or with its successor if the
request passes what is in front. -/
theorem Agrees.state_ask
    (hwhole : (Response.answered (request.answerSight other.front)).isSplit = false) :
    (request.ask lexer).state.Agrees
      (if request.passes other.front then other.nextToken.state else other) := by
  obtain ⟨hresult, hstate⟩ := hagrees
  cases hprime : other.prime.result with
  | error error =>
    rw [front_of_error hprime] at hwhole ⊢
    rw [request.ask_of_error (hresult.trans hprime), hstate]
    obtain ⟨position, cause⟩ := error
    cases cause with
    | unmatched remainder =>
      -- the search starts again in front of the same text
      show Agrees _ other
      rw [Agrees, prime_prime_of_unmatched hprime]
      exact ⟨hprime.symm, rfl⟩
    | unexpected expected text found => exact absurd hprime prime_ne_unexpected
    | device failure =>
      -- the lost line is behind both lexers
      rw [nextToken_of_error hprime]
      exact ⟨rfl, rfl⟩
    | splitCharacter => cases hwhole
  | ok =>
    have hok := hresult.trans hprime
    -- what has been found once is found again at once
    have hstay : other.prime.state.Agrees other := by
      rw [Agrees, prime_prime_of_ok hprime]
      exact ⟨hprime.symm, rfl⟩
    rcases prime_ok hprime with ⟨t, ht⟩ | hend
    · rw [request.ask_of_token hok (hstate ▸ ht), front_of_token hprime ht, hstate]
      show Agrees (if request.takes t then _ else _) (if request.takes t then _ else _)
      by_cases htakes : request.takes t = true
      · rw [if_pos htakes, if_pos htakes, nextToken_of_token hprime ht]
        exact ⟨rfl, rfl⟩
      · rw [if_neg htakes, if_neg htakes]
        exact hstay
    · rw [request.ask_of_endOfInput hok (hstate ▸ hend), front_of_endOfInput hprime hend, hstate]
      exact hstay

end Agrees

end Lexer

/-! ## 4. A lexer is a cursor -/

/-- A transcript and a cursor have given the same answers and stand in front of the same sight,
and the tokens gone from the lookahead are those behind the cursor. -/
structure Simulates (start : Lexer κ) (transcript : Transcript κ) (cursor : TokenCursor κ) :
    Prop where
  responses : transcript.responses = cursor.answers.map .answered
  removed : transcript.removed =
    (List.range cursor.place).filterMap fun number => (start.sight number).token?
  agrees : cursor.isOver = false → transcript.lexer.Agrees (start.afterCalls cursor.place)

theorem Simulates.isOver_eq {start : Lexer κ} {transcript : Transcript κ}
    {cursor : TokenCursor κ} (h : Simulates start transcript cursor) :
    transcript.isOver = cursor.isOver := by
  rw [Transcript.isOver, h.responses, TokenCursor.isOver, List.any_map]
  rfl

variable [DecidableEq κ]

theorem Simulates.perform {start : Lexer κ} {transcript : Transcript κ} {cursor : TokenCursor κ}
    (h : Simulates start transcript cursor) (request : Request κ) :
    Simulates start (transcript.perform (.request request))
      (cursor.perform start.sight request) := by
  cases hover : cursor.isOver with
  | true =>
    rw [Transcript.perform_of_isOver (h.isOver_eq.trans hover),
      TokenCursor.perform_of_isOver hover]
    exact h
  | false =>
    rw [Transcript.perform_of_not_isOver (h.isOver_eq.trans hover),
      TokenCursor.perform_of_not_isOver hover]
    have hagrees := h.agrees hover
    refine ⟨?_, ?_, fun hwhole => ?_⟩
    · show transcript.responses ++ [.answered (request.ask transcript.lexer).result] = _
      rw [h.responses, List.map_append, hagrees.result_ask request]
      rfl
    · show transcript.removed ++ List.filter _ _ = _
      rw [h.removed, hagrees.filter_takes request, Lexer.sight]
      by_cases hpasses : request.passes (start.afterCalls cursor.place).front = true
      · rw [if_pos hpasses, if_pos hpasses, List.range_succ, List.filterMap_append]
        cases hsight : (start.afterCalls cursor.place).front <;>
          simp [Lexer.sight, hsight, Sight.token?]
      · rw [if_neg hpasses, if_neg hpasses, List.append_nil]
    · have hnext := hagrees.state_ask request (by
        simp only [TokenCursor.isOver, List.any_append, Bool.or_eq_false_iff] at hwhole
        simpa [Lexer.sight] using hwhole.2)
      show (request.ask transcript.lexer).state.Agrees (start.afterCalls (if _ then _ else _))
      rw [Lexer.sight]
      by_cases hpasses : request.passes (start.afterCalls cursor.place).front = true
      · rw [if_pos hpasses] at hnext ⊢
        exact hnext
      · rw [if_neg hpasses] at hnext ⊢
        exact hnext

/-- A fresh lexer answers any requests as a cursor over the sights of `nextToken` does.  The
tokens that the requests took are the tokens behind the cursor, in order. -/
theorem transcript_eq_run (reader : Reader) (rules : List (Rule κ))
    (requests : List (Request κ)) :
    let lexer := (Lexer.ofReader reader).addRules rules
    let transcript := lexer.transcript (requests.map .request)
    let cursor := TokenCursor.run lexer.sight requests
    transcript.responses = cursor.answers.map .answered ∧
      transcript.removed =
        (List.range cursor.place).filterMap fun number => (lexer.sight number).token? := by
  intro lexer transcript cursor
  have h : Simulates lexer transcript cursor := by
    -- from the last request backwards: both have simulated each other up to it
    induction requests using List.reverseRecOn with
    | nil => exact ⟨rfl, rfl, fun _ => ⟨rfl, rfl⟩⟩
    | append_singleton requests request ih =>
      have hlast := ih.perform request
      simp only [transcript, cursor, TokenCursor.run, List.map_append, List.foldl_append]
      rw [List.map_singleton, Lexer.transcript_concat]
      exact hlast
  exact ⟨h.responses, h.removed⟩

end Linewise
