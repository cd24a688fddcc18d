import Linewise.Proofs.Lexer.LineCover

/-!
# Logs — what the events tell of a run

Every token that is found is on record once, whatever becomes of it; so is every line that is read
and the end of the source.  `Ledger.Recorded` says so of a ledger, and each kind of move keeps it.
-/

namespace Linewise

variable {κ : Type}

/-! ## 1. Events -/

namespace LexEvent

/-- The token that an event reports as found. -/
def token? : LexEvent κ → Option (Token κ)
  | .tokenFound t => some t
  | _ => none

def isRelease : LexEvent κ → Bool
  | .sourceReleased => true
  | _ => false

section Records

variable [TokenKind κ]

/-- What the log shows of a token. -/
def tokenRecord (t : Token κ) : LogRecord :=
  ⟨.trace, "token",
    [("kind", TokenKind.name t.kind), ("text", t.text)] ++ positionFields t.position⟩

theorem filter_record (events : List (LexEvent κ)) :
    (events.map record).filter (fun line => line.message == "token") =
      (events.filterMap token?).map tokenRecord := by
  induction events with
  | nil => rfl
  | cons event events ih =>
    cases event with
    | tokenFound t => simpa [record, List.filterMap_cons, token?, tokenRecord] using ih
    | _ => simpa [record, List.filterMap_cons, token?] using ih

/-- Where only some events are written with a message, the log has as many lines with it as there
are such events. -/
theorem countP_record {message : String} {test : LexEvent κ → Bool}
    (hmessage : ∀ event : LexEvent κ, (event.record.message == message) = test event)
    (events : List (LexEvent κ)) :
    (events.map record).countP (fun line => line.message == message) = events.countP test := by
  rw [List.countP_map]
  exact List.countP_congr fun event _ => by rw [Function.comp_apply, hmessage]

theorem record_lineRead (event : LexEvent κ) :
    (event.record.message == "read line") = event.isLineRead := by
  cases event <;> simp [record, isLineRead]

theorem record_release (event : LexEvent κ) :
    (event.record.message == "line source exhausted, reader released") = event.isRelease := by
  cases event <;> simp [record, isRelease]

end Records

end LexEvent

/-! ## 2. What an event-giving step reports -/

namespace Lexer

theorem filterMap_token?_releaseEvents (source : Source) :
    (releaseEvents (κ := κ) source).filterMap LexEvent.token? = [] := by
  cases source <;> rfl

-- The one event of a release is missing where the source was released before.
theorem countP_isRelease_releaseEvents (source : Source) :
    source.isReleased.toNat + (releaseEvents (κ := κ) source).countP LexEvent.isRelease = 1 := by
  cases source <;> rfl

theorem filterMap_token?_skipLine (lexer : Lexer κ) :
    lexer.skipLine.2.filterMap LexEvent.token? = [] := by
  simp only [skipLine]
  split <;> rfl

theorem countP_isRelease_skipLine (lexer : Lexer κ) :
    lexer.skipLine.2.countP LexEvent.isRelease = 0 := by
  simp only [skipLine]
  split <;> rfl

end Lexer

/-- Before and behind a line or a failure the source is not released. -/
theorem Source.isReleased_of_nextLine {source after : Source} {found : NextLine}
    (hnext : source.nextLine = (found, after)) (hfound : found ≠ .finished) :
    source.isReleased = false ∧ after.isReleased = false := by
  refine ⟨?_, ?_⟩
  · cases source with
    | reading reader => rfl
    | released =>
      cases hnext
      exact absurd rfl hfound
  · simpa [hnext, hfound] using isReleased_nextLine source

/-! ## 3. The invariant -/

/-- The events report the tokens made, in order, and the release of the source. -/
structure Ledger.Recorded (ledger : Ledger κ) : Prop where
  tokens : ledger.events.filterMap LexEvent.token? = ledger.made
  release : ledger.events.countP LexEvent.isRelease = ledger.lexer.isReleased.toNat

namespace Ledger

variable {allowed : Rule κ → Prop} {ledger next : Ledger κ}

/-- A token is reported when it is found, and made by nothing else. -/
theorem Move.filterMap_token? (hmove : Move allowed ledger next)
    (h : ledger.events.filterMap LexEvent.token? = ledger.made) :
    next.events.filterMap LexEvent.token? = next.made := by
  cases hmove with
  | ignored primed first behind ignored =>
    rw [List.filterMap_append, h]
    exact List.append_nil ledger.made
  | token primed first behind kept =>
    rw [List.filterMap_append, h, made_of_unprimed primed]
    rfl
  | lineRead primed rest line =>
    rw [List.filterMap_append, h]
    exact List.append_nil ledger.made
  | lineLost primed rest failed => exact h
  | finished primed rest finished =>
    rw [List.filterMap_append, h, made_of_unprimed primed, Lexer.filterMap_token?_releaseEvents]
    rfl
  | taken held events quiet =>
    -- the token goes from the lookahead to those removed
    have hnone : events.filterMap LexEvent.token? = [] := by
      rcases quiet with rfl | rfl <;> rfl
    rw [List.filterMap_append, h, hnone, made, held, made_of_unprimed rfl, List.append_nil]
    rfl
  | skipped =>
    rw [List.filterMap_append, h, Lexer.filterMap_token?_skipLine, List.append_nil, made, made,
      Lexer.token?_lookahead_skipLine, Option.toList_none, List.append_nil]
  | rulesAdded rules fit => exact h

/-- The release is reported by the move that finds the end, and by no other. -/
theorem Move.countP_isRelease (hmove : Move allowed ledger next)
    (h : ledger.events.countP LexEvent.isRelease = ledger.lexer.isReleased.toNat) :
    next.events.countP LexEvent.isRelease = next.lexer.isReleased.toNat := by
  cases hmove with
  | ignored primed first behind ignored =>
    rw [List.countP_append, h]
    rfl
  | token primed first behind kept =>
    rw [List.countP_append, h]
    rfl
  | lineRead primed rest line =>
    obtain ⟨hbefore, hafter⟩ := Source.isReleased_of_nextLine line (by simp)
    rw [List.countP_append, h, Lexer.isReleased, Lexer.isReleased, hbefore]
    exact congrArg Bool.toNat hafter.symm
  | lineLost primed rest failed =>
    obtain ⟨hbefore, hafter⟩ := Source.isReleased_of_nextLine failed (by simp)
    rw [h, Lexer.isReleased, Lexer.isReleased, hbefore]
    exact congrArg Bool.toNat hafter.symm
  | finished primed rest finished =>
    obtain rfl := Source.eq_released_of_nextLine_finished finished
    rw [List.countP_append, h]
    exact Lexer.countP_isRelease_releaseEvents ledger.lexer.source
  | taken held events quiet =>
    have hnone : events.countP LexEvent.isRelease = 0 := by
      rcases quiet with rfl | rfl <;> rfl
    rw [List.countP_append, h, hnone]
    rfl
  | skipped =>
    rw [List.countP_append, h, Lexer.countP_isRelease_skipLine]
    rfl
  | rulesAdded rules fit => exact h

theorem Recorded.move (h : ledger.Recorded) (hmove : Move allowed ledger next) : next.Recorded :=
  ⟨hmove.filterMap_token? h.tokens, hmove.countP_isRelease h.release⟩

theorem recorded_ofReader (reader : Reader) (rules : List (Rule κ)) :
    (ofLexer ((Lexer.ofReader reader).addRules rules)).Recorded :=
  ⟨rfl, rfl⟩

end Ledger

/-! ## 4. Every transcript -/

section Transcripts

variable [DecidableEq κ] [TokenKind κ]

/-- Whatever is done to a fresh lexer, its log tells what came of it: the tokens that have left
the lookahead and the one in it, all lines but those lost to failures, and whether the source has
been released. -/
theorem log_transcript (reader : Reader) (rules : List (Rule κ)) (actions : List (Action κ)) :
    let reached := ((Lexer.ofReader reader).addRules rules).transcript actions
    let made := reached.removed ++ reached.lexer.lookahead.token?.toList
    let log := reached.events.map LexEvent.record
    reached.events.filterMap LexEvent.token? = made ∧
      log.filter (fun line => line.message == "token") = made.map LexEvent.tokenRecord ∧
      min (log.countP (fun line => line.message == "read line") + reached.failures)
          Position.countLimit = reached.lexer.position.line ∧
      log.countP (fun line => line.message == "line source exhausted, reader released") =
        if reached.lexer.isReleased then 1 else 0 := by
  intro reached made log
  have hreaches : Ledger.Reaches (fun _ => True)
      (.ofLexer ((Lexer.ofReader reader).addRules rules)) reached.ledger :=
    reaches_transcript _ actions fun _ _ _ _ => trivial
  have hsound : reached.ledger.Sound :=
    hreaches.preserves (Ledger.sound_ofReader reader rules) fun _ _ hmove h => h.move hmove
  have hrecorded : reached.ledger.Recorded :=
    hreaches.preserves (Ledger.recorded_ofReader reader rules) fun _ _ hmove h => h.move hmove
  have htokens : reached.events.filterMap LexEvent.token? = made := hrecorded.tokens
  refine ⟨htokens, ?_, ?_, ?_⟩
  · rw [LexEvent.filter_record, htokens]
  · rw [LexEvent.countP_record LexEvent.record_lineRead]
    exact hsound.line_eq.symm
  · rw [LexEvent.countP_record LexEvent.record_release]
    exact hrecorded.release.trans (Bool.cond_eq_ite _ _ _)

end Transcripts

end Linewise
