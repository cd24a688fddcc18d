import Linewise.Proofs.Lexer.TokenCursor

/-!
# Looking — what stays behind a look and behind a refusal

A look at the next token may read lines and pass ignored matches.  It does so once: `peek` stands
for every operation that looks and takes nothing, and text that no rule matches is met at the same
place however often it is asked about.
-/

namespace Linewise

variable {κ : Type}

namespace Lexer

variable {lexer : Lexer κ}

/-! ## 1. A look is a search -/

theorem prime_of_peek_ok {found : Option (Token κ)} (hpeek : lexer.peek.result = .ok found) :
    lexer.prime = ⟨.ok (), lexer.peek.state, lexer.peek.events⟩ ∧
      lexer.peek.state.lookahead.token? = found := by
  cases hprime : lexer.prime.result with
  | error error => rw [peek, Outcome.andThen_error hprime] at hpeek; cases hpeek
  | ok =>
    rw [peek, Outcome.andThen_ok hprime] at hpeek ⊢
    cases hpeek
    refine ⟨?_, rfl⟩
    simp [Outcome.preceded, Outcome.done, ← hprime]

theorem prime_of_peek_error {error : LexError κ} (hpeek : lexer.peek.result = .error error) :
    lexer.prime = ⟨.error error, lexer.peek.state, lexer.peek.events⟩ := by
  cases hprime : lexer.prime.result with
  | ok => rw [peek, Outcome.andThen_ok hprime] at hpeek; cases hpeek
  | error fault =>
    rw [peek, Outcome.andThen_error hprime] at hpeek ⊢
    cases hpeek
    simp [← hprime]

/-! ## 2. Operations that take nothing -/

section Refusal

variable [DecidableEq κ] {found : Option (Token κ)} (hpeek : lexer.peek.result = .ok found)
  (kind : κ) (text : Option String)

include hpeek

theorem check_of_peek :
    lexer.check kind text =
      ⟨.ok (found.any (suits kind text)), lexer.peek.state, lexer.peek.events⟩ := by
  obtain ⟨hprime, hfound⟩ := prime_of_peek_ok hpeek
  rw [check, hprime, Outcome.andThen_ok rfl, hfound]
  simp [Outcome.preceded, Outcome.done]

theorem result_tryConsume_of_peek :
    (lexer.tryConsume kind text).result = .ok (found.any (suits kind text)) := by
  rw [tryConsume, check_of_peek hpeek, Outcome.andThen_ok rfl]
  cases found.any (suits kind text) <;> rfl

theorem tryConsume_of_unsuited (hunsuited : found.any (suits kind text) = false) :
    lexer.tryConsume kind text = ⟨.ok false, lexer.peek.state, lexer.peek.events⟩ := by
  rw [tryConsume, check_of_peek hpeek, Outcome.andThen_ok rfl, hunsuited]
  simp [Outcome.preceded, Outcome.done]

theorem consume_of_unsuited (hunsuited : found.any (suits kind text) = false) :
    lexer.consume kind text =
      ⟨.error ⟨(found.map Token.position).getD lexer.peek.state.position,
          .unexpected kind text found⟩,
        lexer.peek.state, lexer.peek.events⟩ := by
  have hfound := (prime_of_peek_ok hpeek).2
  rw [consume, check_of_peek hpeek, Outcome.andThen_ok rfl, hunsuited]
  simp [Outcome.preceded, Outcome.fail, unexpected, hfound]

theorem consume_of_suited {t : Token κ} (ht : found = some t) (hsuits : suits kind text t = true) :
    (lexer.consume kind text).result = .ok t.text := by
  obtain ⟨hprime, hfound⟩ := prime_of_peek_ok hpeek
  have htoken : lexer.peek.state.lookahead = .token t := by
    cases hlook : lexer.peek.state.lookahead <;> simp_all [Lookahead.token?]
  rw [consume, check_of_peek hpeek, Outcome.andThen_ok rfl, ht, Option.any_some, hsuits,
    take_of_token htoken]
  rfl

end Refusal

/-! ## 3. Text that no rule matches -/

section Stuck

variable {stuck : Lexer κ} {error : LexError κ}

/-- What is on record after some requests that all met the same error. -/
def refusals (stuck : Lexer κ) (error : LexError κ) (count : Nat) (events : List (LexEvent κ)) :
    Transcript κ :=
  ⟨stuck, List.replicate count (.answered (.error error)), [], events,
    LineRecord.blank.after events error.lostLines⟩

theorem isOver_refusals (hwhole : error.cause ≠ .splitCharacter) (count : Nat)
    (events : List (LexEvent κ)) : (refusals stuck error count events).isOver = false := by
  have hresponse : (Response.answered (.error error)).isSplit = false := by
    unfold Response.isSplit
    split
    · next position heq => cases heq; exact absurd rfl hwhole
    · next heq => cases heq
    · rfl
  rw [Transcript.isOver, List.any_eq_false]
  intro response hmem
  rw [List.eq_of_mem_replicate hmem, hresponse]
  exact Bool.false_ne_true

variable [DecidableEq κ]

theorem perform_of_error (herror : lexer.prime.result = .error error) (request : Request κ) :
    (Action.request request).perform lexer =
      ⟨.answered (.error error), lexer.prime.state, [], lexer.prime.events⟩ := by
  rw [Action.perform, request.ask_of_error herror, lookahead_prime_of_error herror]
  rfl

/-- Requests to a lexer that looks for the next token in vain, and stays where it is. -/
theorem foldl_refusals (hstuck : stuck.prime = .fail error stuck)
    (hwhole : error.cause ≠ .splitCharacter) (requests : List (Request κ)) (count : Nat)
    (events : List (LexEvent κ)) :
    (requests.map Action.request).foldl Transcript.perform (refusals stuck error count events) =
      refusals stuck error (count + requests.length) events := by
  -- from the first request on: each is answered from the same place
  induction requests generalizing count with
  | nil => rfl
  | cons request requests ih =>
    have herror : stuck.prime.result = .error error := by rw [hstuck]; rfl
    have hstep : (refusals stuck error count events).perform (.request request) =
        refusals stuck error (count + 1) events := by
      rw [Transcript.perform_of_not_isOver (isOver_refusals hwhole count events), refusals]
      simp only [perform_of_error herror, hstuck, Outcome.fail, Action.note, Response.failures,
        lostLines_error, LineRecord.after_after_nil, List.append_nil, refusals,
        List.replicate_succ']
    rw [List.map_cons, List.foldl_cons, hstep, ih, List.length_cons, Nat.add_right_comm,
      Nat.add_assoc]

/-- The first request finds out what all the others meet again. -/
theorem transcript_refusals (herror : lexer.prime.result = .error error)
    (hstuck : lexer.prime.state.prime = .fail error lexer.prime.state)
    (hwhole : error.cause ≠ .splitCharacter) {requests : List (Request κ)} (hsome : requests ≠ []) :
    lexer.transcript (requests.map .request) =
      refusals lexer.prime.state error requests.length lexer.prime.events := by
  cases requests with
  | nil => exact absurd rfl hsome
  | cons request requests =>
    have hfirst : (Transcript.ofLexer lexer).perform (.request request) =
        refusals lexer.prime.state error 1 lexer.prime.events := by
      rw [Transcript.perform_of_not_isOver rfl]
      simp only [Transcript.ofLexer, perform_of_error herror]
      rfl
    rw [transcript, List.map_cons, List.foldl_cons, hfirst, foldl_refusals hstuck hwhole,
      List.length_cons, Nat.add_comm]

end Stuck

end Lexer

/-! ## 4. Looking and failing -/

/-- Looking and failing leave a lexer as a peek leaves it.  Where the peek finds a token or the end
of input, `check` answers from what it found, `tryConsume` that does not get its token and `consume`
that fails leave the very same lexer, and the error names what was found.  Where the peek meets text
that no rule matches, so does every request, from the lexer in front of the peek or behind it and
any number of times. -/
theorem looking_and_failing [DecidableEq κ] (lexer : Lexer κ) :
    let seen := lexer.peek
    (∀ found, seen.result = .ok found →
      found = seen.state.lookahead.token? ∧
        ∀ kind text,
          lexer.check kind text =
              ⟨.ok (found.any (Lexer.suits kind text)), seen.state, seen.events⟩ ∧
            (lexer.tryConsume kind text).result = .ok (found.any (Lexer.suits kind text)) ∧
            (∀ t, found = some t → Lexer.suits kind text t = true →
              (lexer.consume kind text).result = .ok t.text) ∧
            (found.any (Lexer.suits kind text) = false →
              lexer.tryConsume kind text = ⟨.ok false, seen.state, seen.events⟩ ∧
                lexer.consume kind text =
                  ⟨.error ⟨(found.map Token.position).getD seen.state.position,
                      .unexpected kind text found⟩,
                    seen.state, seen.events⟩)) ∧
      ∀ position remainder, seen.result = .error ⟨position, .unmatched remainder⟩ →
        ∀ requests : List (Request κ),
          let met := List.replicate requests.length
            (Response.answered (.error ⟨position, .unmatched remainder⟩))
          seen.state.transcript (requests.map .request) = ⟨seen.state, met, [], [], .blank⟩ ∧
            (requests ≠ [] →
              lexer.transcript (requests.map .request) =
                ⟨seen.state, met, [], seen.events, LineRecord.blank.after seen.events 0⟩) := by
  intro seen
  refine ⟨fun found hfound => ⟨(Lexer.prime_of_peek_ok hfound).2.symm, fun kind text =>
    ⟨Lexer.check_of_peek hfound kind text, Lexer.result_tryConsume_of_peek hfound kind text,
      fun t ht hsuits => Lexer.consume_of_suited hfound kind text ht hsuits, fun hunsuited =>
      ⟨Lexer.tryConsume_of_unsuited hfound kind text hunsuited,
        Lexer.consume_of_unsuited hfound kind text hunsuited⟩⟩⟩, ?_⟩
  intro position remainder herror requests met
  have hprime := Lexer.prime_of_peek_error herror
  have hresult : lexer.prime.result = .error ⟨position, .unmatched remainder⟩ := by rw [hprime]
  have hstate : lexer.prime.state = seen.state := by rw [hprime]
  have hevents : lexer.prime.events = seen.events := by rw [hprime]
  have hstuck := Lexer.prime_prime_of_unmatched hresult
  have hwhole : (⟨position, .unmatched remainder⟩ : LexError κ).cause ≠ .splitCharacter := by
    simp
  refine ⟨?_, fun hsome => ?_⟩
  · -- behind the peek the search has nothing left to pass
    rw [hstate] at hstuck
    have hagain := Lexer.foldl_refusals hstuck hwhole requests 0 []
    rw [Nat.zero_add] at hagain
    exact hagain
  · rw [Lexer.transcript_refusals hresult hstuck hwhole hsome, hstate, hevents]
    rfl

/-- A second `a` is no `b`, and stays.  Behind it a look reads two lines and meets the `1`; asked
three times more, the lexer reads nothing more. -/
theorem looking_and_failing_letters :
    let rules : List (Rule Unit) := (Rule.make () "(a)" false).toOption.toList
    let start := (Lexer.ofReader (.ofBytes [97, 32, 97, 10, 10, 49])).addRules rules
    let first := start.nextToken.state
    let second := first.nextToken.state
    let refused := first.consume () (some "b")
    let requests := [.peek, .discard, .nextToken]
    let transcript := second.transcript (requests.map .request)
    refused = ⟨.error ⟨⟨1, 1⟩, .unexpected () (some "b") (some ⟨(), "a", ⟨1, 1⟩⟩)⟩,
        first.peek.state, first.peek.events⟩ ∧
      second.peek.result = .error ⟨⟨3, 0⟩, .unmatched "1"⟩ ∧
      second.peek.events = [.lineRead 2 0, .lineRead 3 1] ∧
      transcript.lexer = second.peek.state ∧ transcript.events = second.peek.events ∧
      transcript.responses = List.replicate 3 (.answered (.error ⟨⟨3, 0⟩, .unmatched "1"⟩)) := by
  intro rules start first second refused requests transcript
  have hfound : first.peek.result = .ok (some ⟨(), "a", ⟨1, 1⟩⟩) := by decide +kernel
  have hmet : second.peek.result = .error ⟨⟨3, 0⟩, .unmatched "1"⟩ := by decide +kernel
  have hrefused := (((looking_and_failing first).1 _ hfound).2 () (some "b")).2.2.2 (by decide)
  have hagain := ((looking_and_failing second).2 _ _ hmet requests).2 (by simp [requests])
  refine ⟨hrefused.2, hmet, by decide +kernel, ?_, ?_, ?_⟩
  · exact congrArg Transcript.lexer hagain
  · exact congrArg Transcript.events hagain
  · exact congrArg Transcript.responses hagain

end Linewise
