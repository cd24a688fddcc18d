import Linewise.Proofs.Lexer.Alike
import Linewise.Proofs.Lexer.Taking

/-!
# Later rules — what is registered behind changes nothing in front

The first rule that has a match is the one that counts, so rules registered behind others are tried
only on text that none of the others matches.  Up to the first such text a lexer with more rules
does all that it does without them, and goes through the same states.
-/

namespace Linewise

variable {κ : Type}

/-! ## 1. The first match -/

theorem Rule.firstMatch?_append_of_some {rules : List (Rule κ)} {text : List Char}
    {found : Rule κ × RuleMatch} (hfirst : firstMatch? rules text = some found)
    (later : List (Rule κ)) : firstMatch? (rules ++ later) text = some found := by
  rw [firstMatch?] at hfirst
  rw [firstMatch?, List.findSome?_append, hfirst, Option.some_or]

/-! ## 2. The search -/

/-- Whether a result reports text that no rule matches. -/
def reportsUnmatched {α : Type} : Except (LexError κ) α → Bool
  | .ok _ => false
  | .error error => error.cause.isUnmatched

/-- The outcome with more rules in the lexer that it leaves behind. -/
def Outcome.addRules {α : Type} (outcome : LexOutcome κ α) (later : List (Rule κ)) :
    LexOutcome κ α :=
  { outcome with state := outcome.state.addRules later }

namespace Lexer

variable {lexer : Lexer κ} {later : List (Rule κ)}

/-- Each move of a search is a move with more rules, too, except for the stop at text that no rule
matches. -/
theorem Advances.addRules {outcome : LexOutcome κ Unit} (h : lexer.Advances outcome)
    (hmatched : reportsUnmatched outcome.result = false) :
    (lexer.addRules later).Advances (outcome.addRules later) := by
  induction h with
  | @ignored lexer _ _ _ _ first behind ignored _ ih =>
    exact @Advances.ignored κ (lexer.addRules later) _ _ _ _
      (Rule.firstMatch?_append_of_some first later) behind ignored (ih hmatched)
  | @lineRead lexer _ _ _ rest line _ ih =>
    exact @Advances.lineRead κ (lexer.addRules later) _ _ _ rest line (ih hmatched)
  | @token lexer _ _ _ first behind kept =>
    exact @Advances.token κ (lexer.addRules later) _ _ _
      (Rule.firstMatch?_append_of_some first later) behind kept
  | @finished lexer _ rest finished =>
    exact @Advances.finished κ (lexer.addRules later) _ rest finished
  | @lineLost lexer _ _ rest failed =>
    exact @Advances.lineLost κ (lexer.addRules later) _ _ rest failed
  | unmatched => cases hmatched
  | @splitCharacter lexer _ _ rest first behind =>
    exact @Advances.splitCharacter κ (lexer.addRules later) _ _ rest
      (Rule.firstMatch?_append_of_some first later) behind

theorem prime_addRules (hmatched : reportsUnmatched lexer.prime.result = false) :
    (lexer.addRules later).prime = lexer.prime.addRules later := by
  cases hlook : lexer.lookahead with
  | unprimed =>
    rw [prime_of_unprimed hlook] at hmatched ⊢
    rw [@prime_of_unprimed κ (lexer.addRules later) hlook]
    exact (((advances_advance lexer hlook).addRules hmatched).eq_advance hlook).symm
  | token t => rw [prime_of_token hlook, @prime_of_token κ (lexer.addRules later) t hlook]; rfl
  | endOfInput =>
    rw [prime_of_endOfInput hlook, @prime_of_endOfInput κ (lexer.addRules later) hlook]
    rfl

end Lexer

/-! ## 3. Actions -/

section Actions

variable [DecidableEq κ] {lexer : Lexer κ} {later : List (Rule κ)}

theorem Request.ask_addRules (request : Request κ)
    (hmatched : reportsUnmatched (request.ask lexer).result = false) :
    request.ask (lexer.addRules later) = (request.ask lexer).addRules later := by
  cases Lexer.primed lexer with
  | token t ok lookahead =>
    have hprime := @Lexer.prime_addRules κ lexer later (by rw [ok]; rfl)
    rw [request.ask_of_token ok lookahead, request.ask_of_token (by rw [hprime]; exact ok)
      (by rw [hprime]; exact lookahead), hprime]
    by_cases htakes : request.takes t = true
    · simp only [if_pos htakes]
      rfl
    · simp only [if_neg htakes]
      rfl
  | endOfInput ok lookahead =>
    have hprime := @Lexer.prime_addRules κ lexer later (by rw [ok]; rfl)
    rw [request.ask_of_endOfInput ok lookahead, request.ask_of_endOfInput (by rw [hprime]; exact ok)
      (by rw [hprime]; exact lookahead), hprime]
    rfl
  | failed error result =>
    rw [request.ask_of_error result] at hmatched ⊢
    have hprime := @Lexer.prime_addRules κ lexer later (by rw [result]; exact hmatched)
    rw [request.ask_of_error (by rw [hprime]; exact result), hprime]
    rfl

theorem Lexer.nextToken_addRules (hmatched : reportsUnmatched lexer.nextToken.result = false) :
    (lexer.addRules later).nextToken = lexer.nextToken.addRules later := by
  have hask : reportsUnmatched (Request.nextToken.ask lexer).result = false := by
    rw [← hmatched]
    show reportsUnmatched (lexer.nextToken.result.map _) = _
    cases lexer.nextToken.result <;> rfl
  exact Outcome.eq_of_map (fun _ _ => Answer.token.inj) (Request.nextToken.ask_addRules hask)

/-- Whether an item of a stream reports text that no rule matches. -/
def StreamItem.isUnmatched : Option (StreamItem κ) → Bool
  | some item => reportsUnmatched item
  | none => false

theorem TokenStream.next_addRules {failed : Bool}
    (hmatched : StreamItem.isUnmatched (next ⟨lexer, failed⟩).1 = false) :
    next ⟨lexer.addRules later, failed⟩ =
      ((next ⟨lexer, failed⟩).1,
        ⟨(next ⟨lexer, failed⟩).2.1.lexer.addRules later, (next ⟨lexer, failed⟩).2.1.failed⟩,
        (next ⟨lexer, failed⟩).2.2) := by
  cases failed with
  | true => rfl
  | false =>
    have hnext : reportsUnmatched lexer.nextToken.result = false := by
      rw [next] at hmatched
      cases hresult : lexer.nextToken.result with
      | ok token => rfl
      | error error =>
        simp only [hresult] at hmatched
        exact hmatched
    simp only [next, Bool.false_eq_true, if_false, Lexer.nextToken_addRules hnext, Outcome.addRules]
    cases lexer.nextToken.result <;> rfl

theorem TokenStream.nextMany_addRules (count : Nat) {lexer : Lexer κ} {failed : Bool}
    (hmatched : ∀ item ∈ (nextMany count ⟨lexer, failed⟩).1, StreamItem.isUnmatched item = false) :
    nextMany count ⟨lexer.addRules later, failed⟩ =
      ((nextMany count ⟨lexer, failed⟩).1,
        ⟨(nextMany count ⟨lexer, failed⟩).2.1.lexer.addRules later,
          (nextMany count ⟨lexer, failed⟩).2.1.failed⟩,
        (nextMany count ⟨lexer, failed⟩).2.2) := by
  induction count generalizing lexer failed with
  | zero => rfl
  | succ count ih =>
    simp only [nextMany, List.forall_mem_cons] at hmatched ⊢
    rw [next_addRules hmatched.1]
    simp only [ih hmatched.2]

/-- Whether the response reports text that no rule matches. -/
def Response.isUnmatched : Response κ → Bool
  | .answered result => reportsUnmatched result
  | .items list => list.any StreamItem.isUnmatched
  | .done | .refused _ => false

theorem Action.perform_addRules {action : Action κ} (hadded : action.added = [])
    (hmatched : (action.perform lexer).response.isUnmatched = false) :
    action.perform (lexer.addRules later) =
      { action.perform lexer with lexer := (action.perform lexer).lexer.addRules later } := by
  cases action with
  | request request =>
    have hask := @Request.ask_addRules κ _ lexer later request hmatched
    have hlook : (lexer.addRules later).prime.state.lookahead = lexer.prime.state.lookahead := by
      have hprime : reportsUnmatched lexer.prime.result = false := by
        cases hresult : lexer.prime.result with
        | ok => rfl
        | error error =>
          simp only [perform, request.ask_of_error hresult] at hmatched
          exact hmatched
      rw [Lexer.prime_addRules hprime]
      rfl
    simp only [perform, hask, hlook]
    rfl
  | tokens count =>
    have hitems : ∀ item ∈ ((TokenStream.ofLexer lexer).nextMany count).1,
        StreamItem.isUnmatched item = false := by
      simpa [perform, Response.isUnmatched] using hmatched
    have hmany := @TokenStream.nextMany_addRules κ _ later count lexer false hitems
    simp only [perform, TokenStream.ofLexer, hmany]
  | skipLine => rfl
  | addRules rules =>
    obtain rfl : rules = [] := hadded
    simp [perform, Lexer.addRules]
  | define kind pattern ignored =>
    simp only [perform, Lexer.define]
    simp only [added] at hadded
    cases hmake : Rule.make kind pattern ignored with
    | ok rule => rw [hmake] at hadded; cases hadded
    | error error => rfl

/-! ## 4. Transcripts -/

/-- The transcript with more rules in the lexer that it has come to. -/
def Transcript.addRules (transcript : Transcript κ) (later : List (Rule κ)) : Transcript κ :=
  { transcript with lexer := transcript.lexer.addRules later }

theorem Transcript.perform_addRules {transcript : Transcript κ} {action : Action κ}
    (hadded : action.added = [])
    (hmatched : ∀ response ∈ (transcript.perform action).responses, response.isUnmatched = false) :
    (transcript.addRules later).perform action = (transcript.perform action).addRules later := by
  cases hover : transcript.isOver with
  | true =>
    rw [perform_of_isOver hover, perform_of_isOver (by exact hover)]
  | false =>
    rw [perform_of_not_isOver hover] at hmatched ⊢
    have hlast : (action.perform transcript.lexer).response.isUnmatched = false :=
      hmatched _ (List.mem_append_right _ (List.mem_singleton_self _))
    rw [perform_of_not_isOver (by exact hover)]
    simp only [addRules, Action.perform_addRules hadded hlast]
    cases action <;> rfl

theorem Transcript.responses_prefix_perform (transcript : Transcript κ) (action : Action κ) :
    transcript.responses <+: (transcript.perform action).responses := by
  cases hover : transcript.isOver with
  | true => rw [perform_of_isOver hover]
  | false =>
    rw [perform_of_not_isOver hover]
    exact List.prefix_append _ _

theorem Lexer.transcript_addRules {actions : List (Action κ)}
    (hadded : ∀ action ∈ actions, action.added = [])
    (hmatched : ∀ response ∈ (lexer.transcript actions).responses, response.isUnmatched = false) :
    (lexer.addRules later).transcript actions = (lexer.transcript actions).addRules later := by
  induction actions using List.reverseRecOn with
  | nil => rfl
  | append_singleton actions action ih =>
    rw [transcript_concat] at hmatched ⊢
    have hbefore := ih (fun a ha => hadded a (by simp [ha])) fun response hresponse =>
      hmatched response ((Transcript.responses_prefix_perform _ action).subset hresponse)
    rw [transcript_concat, hbefore, Transcript.perform_addRules (hadded action (by simp)) hmatched]

/-- Rules that are registered behind others change nothing, whatever is done, until without them
text is met that none of the others matches: up to there all answers, tokens and events are the
same, and the lexers differ in their rules only. -/
theorem transcript_of_later_rules (reader : Reader) (rules later : List (Rule κ))
    (actions : List (Action κ)) (hadded : ∀ action ∈ actions, action.added = []) :
    let alone := (Lexer.ofReader reader).addRules rules
    let joined := (Lexer.ofReader reader).addRules (rules ++ later)
    ∀ count, (∀ response ∈ (alone.transcript (actions.take count)).responses,
        response.isUnmatched = false) →
      let first := alone.transcript (actions.take count)
      let second := joined.transcript (actions.take count)
      second.responses = first.responses ∧ second.removed = first.removed ∧
        second.events = first.events ∧ second.lexer.position = first.lexer.position ∧
        second.lexer.remaining = first.lexer.remaining ∧
        second.lexer.lookahead = first.lexer.lookahead ∧
        second.lexer.isReleased = first.lexer.isReleased ∧
        second.lexer = first.lexer.addRules later := by
  intro alone joined count hmatched first second
  have hjoined : joined = alone.addRules later := by
    simp [joined, alone, Lexer.addRules, List.append_assoc]
  have hwhole : second = first.addRules later := by
    rw [show second = joined.transcript (actions.take count) from rfl, hjoined]
    exact Lexer.transcript_addRules
      (fun action haction => hadded action (List.mem_of_mem_take haction)) hmatched
  rw [hwhole]
  exact ⟨rfl, rfl, rfl, rfl, rfl, rfl, rfl, rfl⟩

/-- A rule that would match more, and one that matches what the first rule does not: up to the third
request, which meets the `b`, they make no difference. -/
theorem transcript_of_later_rules_letters :
    let rules : List (Rule Unit) := (Rule.make () "(a)" false).toOption.toList
    let later : List (Rule Unit) := (Rule.make () "(aa|b)" false).toOption.toList
    let reader : Reader := .ofBytes [97, 97, 98]
    let actions : List (Action Unit) := [.request .nextToken, .tokens 1, .request .peek]
    let alone := (Lexer.ofReader reader).addRules rules
    let joined := (Lexer.ofReader reader).addRules (rules ++ later)
    let first := alone.transcript (actions.take 2)
    let second := joined.transcript (actions.take 2)
    (∀ action ∈ actions, action.added = []) ∧
      (∀ response ∈ first.responses, response.isUnmatched = false) ∧
      second.responses = first.responses ∧ second.removed = first.removed ∧
      second.removed = [⟨(), "a", ⟨1, 0⟩⟩, ⟨(), "a", ⟨1, 1⟩⟩] ∧
      (∃ response ∈ (alone.transcript actions).responses, response.isUnmatched = true) := by
  intro rules later reader actions alone joined first second
  have hadded : ∀ action ∈ actions, action.added = [] := by simp [actions, Action.added]
  have hmatched : ∀ response ∈ first.responses, response.isUnmatched = false := by decide +kernel
  obtain ⟨hresponses, hremoved, -⟩ :=
    transcript_of_later_rules reader rules later actions hadded 2 hmatched
  exact ⟨hadded, hmatched, hresponses, hremoved, by decide +kernel, by decide +kernel⟩

end Actions

end Linewise
