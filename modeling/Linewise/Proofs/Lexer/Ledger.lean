import Linewise.Proofs.Lexer.Transcript
import Mathlib.Data.List.Induction
import Mathlib.Logic.Relation

/-!
# Ledgers — everything a lexer goes through, move by move

A ledger is a lexer with its history.  Every action is a sequence of a few kinds of moves, so a
property that each move keeps holds of every transcript (`reaches_transcript`).
-/

namespace Linewise

variable {κ : Type}

/-- A lexer, the tokens that have left its lookahead, the events so far, the number of failures of
the source, and what happened on the current line. -/
structure Ledger (κ : Type) where
  lexer : Lexer κ
  removed : List (Token κ)
  events : List (LexEvent κ)
  failures : Nat
  lineRecord : LineRecord κ

/-- That the reader is let go says nothing of the line. -/
theorem LineRecord.after_releaseEvents (record : LineRecord κ) (source : Source) :
    record.after (Lexer.releaseEvents source) 0 = record := by
  rw [Lexer.releaseEvents]
  split <;> rfl

namespace Ledger

def ofLexer (lexer : Lexer κ) : Ledger κ := ⟨lexer, [], [], 0, .blank⟩

/-- A single change of a lexer; rules that are added must be `allowed`. -/
inductive Move (allowed : Rule κ → Prop) : Ledger κ → Ledger κ → Prop where
  | ignored {ledger : Ledger κ} {rule : Rule κ} {m : RuleMatch} {next : List Char}
      (primed : ledger.lexer.lookahead = .unprimed)
      (first : Rule.firstMatch? ledger.lexer.rules ledger.lexer.rest = some (rule, m))
      (behind : Scan.behind? m ledger.lexer.rest = some next) (ignored : rule.ignored = true) :
      Move allowed ledger
        { ledger with
          lexer := ledger.lexer.pass m next
          events := ledger.events ++ [.matchIgnored ledger.lexer.position] }
  | token {ledger : Ledger κ} {rule : Rule κ} {m : RuleMatch} {next : List Char}
      (primed : ledger.lexer.lookahead = .unprimed)
      (first : Rule.firstMatch? ledger.lexer.rules ledger.lexer.rest = some (rule, m))
      (behind : Scan.behind? m ledger.lexer.rest = some next) (kept : rule.ignored = false) :
      Move allowed ledger
        { ledger with
          lexer :=
            { ledger.lexer.pass m next with
              lookahead := .token (rule.tokenAt m ledger.lexer.position) }
          events := ledger.events ++ [.tokenFound (rule.tokenAt m ledger.lexer.position)]
          lineRecord := ledger.lineRecord.note
            (.tokenFound (rule.tokenAt m ledger.lexer.position)) }
  | lineRead {ledger : Ledger κ} {text : List Char} {source : Source}
      (primed : ledger.lexer.lookahead = .unprimed) (rest : ledger.lexer.rest = [])
      (line : ledger.lexer.source.nextLine = (.line text, source)) :
      Move allowed ledger
        { ledger with
          lexer := ledger.lexer.startLine source text
          events := ledger.events ++
            [.lineRead ledger.lexer.position.nextLine.line (byteLength text)]
          lineRecord := .blank }
  | lineLost {ledger : Ledger κ} {failure : Failure} {source : Source}
      (primed : ledger.lexer.lookahead = .unprimed) (rest : ledger.lexer.rest = [])
      (failed : ledger.lexer.source.nextLine = (.failed failure, source)) :
      Move allowed ledger
        { ledger with
          lexer := ledger.lexer.loseLine source
          failures := ledger.failures + 1
          lineRecord := .blank }
  | finished {ledger : Ledger κ} {source : Source}
      (primed : ledger.lexer.lookahead = .unprimed) (rest : ledger.lexer.rest = [])
      (finished : ledger.lexer.source.nextLine = (.finished, source)) :
      Move allowed ledger
        { ledger with
          lexer := { ledger.lexer with source, lookahead := .endOfInput }
          events := ledger.events ++ Lexer.releaseEvents ledger.lexer.source }
  | taken {ledger : Ledger κ} {t : Token κ} (held : ledger.lexer.lookahead = .token t)
      (events : List (LexEvent κ)) (quiet : events = [] ∨ events = [.tokenDiscarded t.text]) :
      Move allowed ledger
        { ledger with
          lexer := { ledger.lexer with lookahead := .unprimed }
          removed := ledger.removed ++ [t]
          events := ledger.events ++ events }
  | skipped {ledger : Ledger κ} :
      Move allowed ledger
        { ledger with
          lexer := ledger.lexer.skipLine.1
          removed := ledger.removed ++ ledger.lexer.lookahead.token?.toList
          events := ledger.events ++ ledger.lexer.skipLine.2
          lineRecord := { ledger.lineRecord with isSkipped := true } }
  | rulesAdded {ledger : Ledger κ} (rules : List (Rule κ)) (fit : ∀ rule ∈ rules, allowed rule) :
      Move allowed ledger { ledger with lexer := ledger.lexer.addRules rules }

/-- Any number of moves, one after another. -/
def Reaches (allowed : Rule κ → Prop) : Ledger κ → Ledger κ → Prop :=
  Relation.ReflTransGen (Move allowed)

theorem Reaches.preserves {allowed : Rule κ → Prop} {P : Ledger κ → Prop} {first last : Ledger κ}
    (h : Reaches allowed first last) (hfirst : P first)
    (hmove : ∀ ledger next, Move allowed ledger next → P ledger → P next) : P last := by
  induction h with
  | refl => exact hfirst
  | tail _ hlast ih => exact hmove _ _ hlast ih

theorem Move.allowed_of_mem {allowed : Rule κ → Prop} {ledger next : Ledger κ}
    (hmove : Move allowed ledger next) (h : ∀ rule ∈ ledger.lexer.rules, allowed rule) :
    ∀ rule ∈ next.lexer.rules, allowed rule := by
  cases hmove with
  | rulesAdded rules fit =>
    intro rule hmem
    rcases List.mem_append.mp hmem with hold | hnew
    · exact h rule hold
    · exact fit rule hnew
  | _ => exact h

theorem Reaches.allowed_of_mem {allowed : Rule κ → Prop} {first last : Ledger κ}
    (hreaches : Reaches allowed first last) (h : ∀ rule ∈ first.lexer.rules, allowed rule) :
    ∀ rule ∈ last.lexer.rules, allowed rule :=
  hreaches.preserves h fun _ _ hmove => hmove.allowed_of_mem

/-! ## 1. The search -/

/-- The ledger with the outcome of an operation on its lexer. -/
def follow {α : Type} (ledger : Ledger κ) (outcome : LexOutcome κ α) : Ledger κ :=
  { ledger with
    lexer := outcome.state
    events := ledger.events ++ outcome.events
    failures := ledger.failures + lostLines outcome.result
    lineRecord := ledger.lineRecord.after outcome.events (lostLines outcome.result) }

variable {allowed : Rule κ → Prop}

theorem reaches_of_advances {lexer : Lexer κ} {outcome : LexOutcome κ Unit}
    (h : lexer.Advances outcome) (hprimed : lexer.lookahead = .unprimed)
    (removed : List (Token κ)) (events : List (LexEvent κ)) (failures : Nat)
    (record : LineRecord κ) :
    Reaches allowed ⟨lexer, removed, events, failures, record⟩
      ⟨outcome.state, removed, events ++ outcome.events, failures + lostLines outcome.result,
        record.after outcome.events (lostLines outcome.result)⟩ := by
  -- on the search, which adds its events behind those of the ledger
  induction h generalizing events record with
  | @ignored lexer _ _ _ outcome first behind ignored _ ih =>
    have hlater := ih hprimed (events ++ [.matchIgnored lexer.position]) record
    rw [List.append_assoc] at hlater
    rw [Outcome.events_preceded, LineRecord.after_append]
    exact .head (.ignored hprimed first behind ignored) hlater
  | @lineRead lexer text _ outcome rest line _ ih =>
    have hlater := ih hprimed
      (events ++ [.lineRead lexer.position.nextLine.line (byteLength text)]) .blank
    rw [List.append_assoc] at hlater
    rw [Outcome.events_preceded, LineRecord.after_append]
    exact .head (.lineRead hprimed rest line) hlater
  | token first behind kept => exact .single (.token hprimed first behind kept)
  | finished rest finished =>
    rw [lostLines_ok, LineRecord.after_releaseEvents]
    exact .single (.finished hprimed rest finished)
  | lineLost rest failed =>
    rw [Outcome.fail, List.append_nil]
    exact .single (.lineLost hprimed rest failed)
  | unmatched =>
    rw [Outcome.fail, List.append_nil]
    exact .refl
  | splitCharacter =>
    rw [Outcome.fail, List.append_nil]
    exact .refl

theorem reaches_follow_prime (ledger : Ledger κ) :
    Reaches allowed ledger (ledger.follow ledger.lexer.prime) := by
  obtain ⟨lexer, removed, events, failures, record⟩ := ledger
  show Reaches allowed _ (follow _ lexer.prime)
  rcases lexer.prime_cases with hknown | ⟨hprimed, hsearch⟩
  · rw [hknown, follow, Outcome.done, List.append_nil]
    exact .refl
  · exact reaches_of_advances hsearch hprimed removed events failures record

/-! ## 2. Requests -/

section Requests

variable [DecidableEq κ]

/-- The ledger after a request. -/
def ask (ledger : Ledger κ) (request : Request κ) : Ledger κ :=
  { ledger.follow (request.ask ledger.lexer) with
    removed := ledger.removed ++
      ledger.lexer.prime.state.lookahead.token?.toList.filter request.takes }

theorem lostLines_answerToken (request : Request κ) (t : Token κ) :
    lostLines (request.answerToken t) = 0 := by
  cases request with
  | consume kind text =>
    rw [Request.answerToken]
    split <;> rfl
  | _ => rfl

omit [DecidableEq κ] in
theorem lostLines_answerEnd (request : Request κ) (position : Position) :
    lostLines (request.answerEnd position) = 0 := by
  cases request <;> rfl

theorem reaches_ask (ledger : Ledger κ) (request : Request κ) :
    Reaches allowed ledger (ledger.ask request) := by
  have hprime : Reaches allowed ledger (ledger.follow ledger.lexer.prime) :=
    reaches_follow_prime ledger
  cases hresult : ledger.lexer.prime.result with
  | error error =>
    have hunprimed := Lexer.lookahead_prime_of_error hresult
    rw [ask, follow, request.ask_of_error hresult, hunprimed]
    rw [follow, hresult] at hprime
    simpa [Lookahead.token?] using hprime
  | ok =>
    rcases Lexer.prime_ok hresult with ⟨t, ht⟩ | hend
    · rw [ask, follow, request.ask_of_token hresult ht, ht]
      simp only [lostLines_answerToken, Lookahead.token?, Option.toList_some, List.filter_cons,
        List.filter_nil]
      rw [follow, hresult] at hprime
      by_cases htakes : request.takes t = true
      · -- the token found first leaves the lookahead in a move of its own
        have hquiet : request.takeEvents t = [] ∨ request.takeEvents t = [.tokenDiscarded t.text] := by
          cases request <;> simp [Request.takeEvents]
        have htaken := hprime.tail (.taken ht (request.takeEvents t) hquiet)
        have hrecord : ledger.lineRecord.after (ledger.lexer.prime.events ++ request.takeEvents t) 0 =
            ledger.lineRecord.after ledger.lexer.prime.events 0 := by
          rw [LineRecord.after_append]
          rcases hquiet with hnone | hdiscarded
          · rw [hnone]
            rfl
          · rw [hdiscarded]
            rfl
        rw [if_pos htakes, if_pos htakes, if_pos htakes, hrecord, ← List.append_assoc]
        exact htaken
      · rw [if_neg htakes, if_neg htakes, if_neg htakes, List.append_nil, List.append_nil]
        exact hprime
    · rw [ask, follow, request.ask_of_endOfInput hresult hend, hend, lostLines_answerEnd]
      rw [follow, hresult] at hprime
      simpa [Lookahead.token?] using hprime

/-! ## 3. Streams -/

theorem reaches_next (ledger : Ledger κ) (failed : Bool) :
    Reaches allowed ledger
      ⟨(TokenStream.next ⟨ledger.lexer, failed⟩).2.1.lexer,
        ledger.removed ++
          (StreamItem.token? (TokenStream.next ⟨ledger.lexer, failed⟩).1).toList,
        ledger.events ++ (TokenStream.next ⟨ledger.lexer, failed⟩).2.2,
        ledger.failures + (TokenStream.next ⟨ledger.lexer, failed⟩).1.elim 0 lostLines,
        ledger.lineRecord.after (TokenStream.next ⟨ledger.lexer, failed⟩).2.2
          ((TokenStream.next ⟨ledger.lexer, failed⟩).1.elim 0 lostLines)⟩ := by
  cases failed with
  | true =>
    simp only [TokenStream.next, if_true, StreamItem.token?, Option.toList_none, List.append_nil]
    exact .refl
  | false =>
    have hask : Reaches allowed ledger (ledger.ask .nextToken) := reaches_ask ledger .nextToken
    cases hresult : ledger.lexer.prime.result with
    | error error =>
      have hunprimed := Lexer.lookahead_prime_of_error hresult
      have hnext := Lexer.nextToken_of_error hresult
      rw [ask, follow, Request.ask_of_error _ hresult, hunprimed] at hask
      simpa [TokenStream.next, hnext, StreamItem.token?, Lookahead.token?] using hask
    | ok =>
      rcases Lexer.prime_ok hresult with ⟨t, ht⟩ | hend
      · have hnext := Lexer.nextToken_of_token hresult ht
        rw [ask, follow, Request.ask_of_token _ hresult ht, ht] at hask
        simpa [TokenStream.next, hnext, StreamItem.token?, Lookahead.token?, List.filter_cons,
          Request.takes, Request.takeEvents, Request.answerToken] using hask
      · have hnext := Lexer.nextToken_of_endOfInput hresult hend
        rw [ask, follow, Request.ask_of_endOfInput _ hresult hend, hend] at hask
        simpa [TokenStream.next, hnext, StreamItem.token?, Lookahead.token?,
          Request.answerEnd] using hask

omit [DecidableEq κ] in
/-- A stream stops at a failure, so that what it records behind its first item adds up. -/
theorem after_nextMany (record : LineRecord κ) (count : Nat) {lexer behind : Lexer κ}
    {failed stopped : Bool} {item : Option (StreamItem κ)} {events : List (LexEvent κ)}
    (hnext : TokenStream.next ⟨lexer, failed⟩ = (item, ⟨behind, stopped⟩, events)) :
    let later := TokenStream.nextMany count ⟨behind, stopped⟩
    (record.after events (item.elim 0 lostLines)).after later.2.2
        (Response.items later.1).failures =
      record.after (events ++ later.2.2)
        (item.elim 0 lostLines + (Response.items later.1).failures) := by
  cases stopped with
  | true =>
    rw [TokenStream.nextMany_of_failed]
    simp [Response.failures]
  | false =>
    intro later
    have hkept : item.elim 0 lostLines = 0 := by
      cases failed with
      | true => cases hnext
      | false =>
        simp only [TokenStream.next, Bool.false_eq_true, if_false] at hnext
        split at hnext
        · next found _ =>
          obtain ⟨rfl, -⟩ := Prod.mk.inj hnext
          cases found <;> rfl
        · cases hnext
    rw [hkept, LineRecord.after_append, Nat.zero_add]

theorem reaches_nextMany (count : Nat) (ledger : Ledger κ) (failed : Bool) :
    Reaches allowed ledger
      ⟨(TokenStream.nextMany count ⟨ledger.lexer, failed⟩).2.1.lexer,
        ledger.removed ++
          (TokenStream.nextMany count ⟨ledger.lexer, failed⟩).1.filterMap StreamItem.token?,
        ledger.events ++ (TokenStream.nextMany count ⟨ledger.lexer, failed⟩).2.2,
        ledger.failures + (Response.items
          (TokenStream.nextMany count ⟨ledger.lexer, failed⟩).1).failures,
        ledger.lineRecord.after (TokenStream.nextMany count ⟨ledger.lexer, failed⟩).2.2
          (Response.items (TokenStream.nextMany count ⟨ledger.lexer, failed⟩).1).failures⟩ := by
  induction count generalizing ledger failed with
  | zero =>
    simp only [TokenStream.nextMany, List.filterMap_nil, List.append_nil]
    exact .refl
  | succ count ih =>
    have hnext : Reaches allowed ledger _ := reaches_next ledger failed
    rcases hstream : TokenStream.next ⟨ledger.lexer, failed⟩ with ⟨item, ⟨behind, stopped⟩, events⟩
    simp only [hstream] at hnext
    have hlater : Reaches allowed ledger _ := hnext.trans (ih _ stopped)
    rw [after_nextMany ledger.lineRecord count hstream] at hlater
    simp only [TokenStream.nextMany, hstream]
    cases htoken : StreamItem.token? item <;>
      simpa [htoken, List.filterMap_cons, Response.failures, Nat.add_assoc] using hlater

end Requests

/-! ## 4. Transcripts -/

end Ledger

def Transcript.ledger (transcript : Transcript κ) : Ledger κ :=
  ⟨transcript.lexer, transcript.removed, transcript.events, transcript.failures,
    transcript.lineRecord⟩

section Transcripts

variable [DecidableEq κ] {allowed : Rule κ → Prop}

theorem Transcript.ledger_perform {transcript : Transcript κ}
    (hgoing : transcript.isOver = false) (action : Action κ) :
    (transcript.perform action).ledger =
      ⟨(action.perform transcript.lexer).lexer,
        transcript.removed ++ (action.perform transcript.lexer).removed,
        transcript.events ++ (action.perform transcript.lexer).events,
        transcript.failures + (action.perform transcript.lexer).response.failures,
        action.note (action.perform transcript.lexer) transcript.lineRecord⟩ := by
  rw [perform_of_not_isOver hgoing]
  simp [ledger, failures]

theorem reaches_ledger_perform (transcript : Transcript κ) (action : Action κ)
    (hadded : ∀ rule ∈ action.added, allowed rule) :
    Ledger.Reaches allowed transcript.ledger (transcript.perform action).ledger := by
  cases hover : transcript.isOver with
  | true =>
    -- nothing is done any more
    rw [Transcript.perform_of_isOver hover]
    exact .refl
  | false =>
    rw [Transcript.ledger_perform hover]
    cases action with
    | request request =>
      simp only [Action.perform, Action.note]
      exact Ledger.reaches_ask transcript.ledger request
    | tokens count =>
      simp only [Action.perform, Action.note]
      exact Ledger.reaches_nextMany count transcript.ledger false
    | skipLine => exact .single .skipped
    | addRules rules =>
      simp only [Action.perform, Action.note, List.append_nil]
      exact .single (.rulesAdded rules hadded)
    | define kind pattern ignored =>
      simp only [Action.perform, Action.note, Lexer.define]
      cases hmake : Rule.make kind pattern ignored with
      | ok rule =>
        have hfit : ∀ added ∈ [rule], allowed added := by
          simpa [Action.added, hmake, Except.toOption] using hadded
        simp only [Except.map, List.append_nil]
        exact .single (.rulesAdded [rule] hfit)
      | error error =>
        simp only [Except.map, List.append_nil]
        exact .refl

theorem reaches_transcript_append (lexer : Lexer κ) (actions later : List (Action κ))
    (hadded : ∀ action ∈ later, ∀ rule ∈ action.added, allowed rule) :
    Ledger.Reaches allowed (lexer.transcript actions).ledger
      (lexer.transcript (actions ++ later)).ledger := by
  induction later using List.reverseRecOn with
  | nil =>
    rw [List.append_nil]
    exact .refl
  | append_singleton later action ih =>
    rw [← List.append_assoc, Lexer.transcript_concat]
    have hbefore := ih fun a ha => hadded a (by simp [ha])
    exact hbefore.trans (reaches_ledger_perform _ action (hadded action (by simp)))

/-- Every transcript is a sequence of moves. -/
theorem reaches_transcript (lexer : Lexer κ) (actions : List (Action κ))
    (hadded : ∀ action ∈ actions, ∀ rule ∈ action.added, allowed rule) :
    Ledger.Reaches allowed (.ofLexer lexer) (lexer.transcript actions).ledger :=
  reaches_transcript_append lexer [] actions hadded

end Transcripts

end Linewise
