import Linewise.Proofs.Lexer.Enumeration
import Linewise.Proofs.Lexer.LineCover
import Linewise.Proofs.Lexer.Recovery
import Linewise.Proofs.Source.Stream

/-!
# Line numbers — which line of its input a token stands on

A lexer takes its stream piece by piece, and counts one line for each.  A piece ends behind a line
feed or at a failure of the reader, so a failure moves all later lines down by one.  The piece
behind a failure begins with whatever is delivered next, be it the rest of a line that was torn.
-/

namespace Linewise

variable {κ : Type}

/-! ## 1. How far a lexer has come -/

/-- The lexer has taken the pieces `past` from the front of a stream, and what it has not scanned
yet belongs to the line of the last one. -/
structure Lexer.IsPast (lexer : Lexer κ) (stream : List Delivery) (past : List (List Delivery)) :
    Prop where
  pieces_eq : pieces stream = past ++ pieces lexer.source.stream
  line_eq : lexer.position.IsOnLine past.length
  isSteady : lexer.source.IsSteady
  line : lexer.rest ≠ [] → ∃ before piece text, past = before ++ [piece] ∧
    Source.lineOfPiece piece = .line text ∧ lexer.rest <:+ text

namespace Lexer.IsPast

variable {lexer : Lexer κ} {stream : List Delivery} {past : List (List Delivery)}

theorem ofReader {reader : Reader} (hsteady : reader.IsSteady) (rules : List (Rule κ)) :
    ((Lexer.ofReader reader).addRules rules).IsPast reader.stream [] where
  pieces_eq := rfl
  line_eq := rfl
  isSteady := hsteady
  line hrest := absurd rfl hrest

variable (h : lexer.IsPast stream past)

include h

theorem pass {m : RuleMatch} {next : List Char}
    (hbehind : Scan.behind? m lexer.rest = some next) : (lexer.pass m next).IsPast stream past where
  pieces_eq := h.pieces_eq
  line_eq := h.line_eq
  isSteady := h.isSteady
  line _ := by
    obtain ⟨before, piece, text, hpast, hline, htext⟩ := h.line (Scan.ne_nil_of_behind? hbehind)
    exact ⟨before, piece, text, hpast, hline, (Scan.behind?_suffix hbehind).trans htext⟩

theorem withLookahead (lookahead : Lookahead κ) : { lexer with lookahead }.IsPast stream past :=
  ⟨h.pieces_eq, h.line_eq, h.isSteady, h.line⟩

theorem startLine {text : List Char} {source : Source}
    (hline : lexer.source.nextLine = (.line text, source)) :
    ∃ piece, (lexer.startLine source text).IsPast stream (past ++ [piece]) := by
  obtain ⟨piece, hpieces, hpiece, hsteady⟩ :=
    Source.pieces_of_nextLine h.isSteady hline (by simp)
  refine ⟨piece, ?_, ?_, hsteady, fun _ => ?_⟩
  · rw [h.pieces_eq, hpieces, List.append_assoc]
    rfl
  · rw [List.length_append]
    exact h.line_eq.nextLine
  · exact ⟨past, piece, text, rfl, hpiece, trimBlanks_suffix text⟩

theorem loseLine {failure : Failure} {source : Source}
    (hfailed : lexer.source.nextLine = (.failed failure, source)) :
    ∃ piece, (lexer.loseLine source).IsPast stream (past ++ [piece]) ∧
      Source.lineOfPiece piece = .failed failure := by
  obtain ⟨piece, hpieces, hpiece, hsteady⟩ :=
    Source.pieces_of_nextLine h.isSteady hfailed (by simp)
  refine ⟨piece, ⟨?_, ?_, hsteady, fun hrest => absurd rfl hrest⟩, hpiece⟩
  · rw [h.pieces_eq, hpieces, List.append_assoc]
    rfl
  · rw [List.length_append]
    exact h.line_eq.nextLine

theorem finish {source : Source} (hfinished : lexer.source.nextLine = (.finished, source)) :
    { lexer with source, lookahead := .endOfInput }.IsPast stream past := by
  obtain ⟨hstream, rfl⟩ := Source.stream_of_nextLine_finished h.isSteady hfinished
  refine ⟨?_, h.line_eq, trivial, h.line⟩
  rw [h.pieces_eq, hstream]
  rfl

theorem skipLine : lexer.skipLine.1.IsPast stream past :=
  ⟨h.pieces_eq, h.line_eq, h.isSteady, fun hrest => absurd rfl hrest⟩

end Lexer.IsPast

/-! ## 2. What was found on a piece -/

/-- A known rule makes the token of what was left of the line that the piece holds. -/
def Token.IsMadeOn (known : Rule κ → Prop) (piece : List Delivery) (t : Token κ) : Prop :=
  ∃ text rest rule m, Source.lineOfPiece piece = .line text ∧ rest <:+ text ∧ known rule ∧
    rule.matchStart? rest = some m ∧ t = rule.tokenAt m t.position

/-- Every token made so far stands on a piece of the stream and has its number. -/
structure Ledger.Numbered (known : Rule κ → Prop) (stream : List Delivery) (ledger : Ledger κ) :
    Prop where
  rules : ∀ rule ∈ ledger.lexer.rules, known rule
  isPast : ∃ past, ledger.lexer.IsPast stream past
  tokens : ∀ t ∈ ledger.made, ∃ before piece later, pieces stream = before ++ piece :: later ∧
    t.IsMadeOn known piece ∧ t.position.IsOnLine (before.length + 1)

theorem Lexer.IsPast.exists_isMadeOn {lexer : Lexer κ} {stream : List Delivery}
    {past : List (List Delivery)} (h : lexer.IsPast stream past) {known : Rule κ → Prop}
    (hknown : ∀ rule ∈ lexer.rules, known rule) {rule : Rule κ} {m : RuleMatch}
    (hrest : lexer.rest ≠ []) (hfirst : Rule.firstMatch? lexer.rules lexer.rest = some (rule, m)) :
    ∃ before piece later, pieces stream = before ++ piece :: later ∧
      (rule.tokenAt m lexer.position).IsMadeOn known piece ∧
      (rule.tokenAt m lexer.position).position.IsOnLine (before.length + 1) := by
  obtain ⟨before, piece, text, rfl, hline, hsuffix⟩ := h.line hrest
  obtain ⟨hmem, hmatch⟩ := Rule.matchStart?_of_firstMatch? hfirst
  refine ⟨before, piece, pieces lexer.source.stream, ?_, ?_, ?_⟩
  · rw [h.pieces_eq, List.append_assoc]
    rfl
  · exact ⟨text, lexer.rest, rule, m, hline, hsuffix, hknown rule hmem, hmatch, rfl⟩
  · have hline := h.line_eq
    rwa [List.length_append] at hline

theorem Ledger.Move.exists_isPast {allowed : Rule κ → Prop} {stream : List Delivery}
    {ledger next : Ledger κ} (hmove : Move allowed ledger next)
    (h : ∃ past, ledger.lexer.IsPast stream past) : ∃ past, next.lexer.IsPast stream past := by
  obtain ⟨past, hpast⟩ := h
  cases hmove with
  | ignored primed first behind ignored => exact ⟨past, hpast.pass behind⟩
  | token primed first behind kept => exact ⟨past, (hpast.pass behind).withLookahead _⟩
  | lineRead primed rest line =>
    obtain ⟨piece, hstarted⟩ := hpast.startLine line
    exact ⟨past ++ [piece], hstarted⟩
  | lineLost primed rest failed =>
    obtain ⟨piece, hlost, -⟩ := hpast.loseLine failed
    exact ⟨past ++ [piece], hlost⟩
  | finished primed rest finished => exact ⟨past, hpast.finish finished⟩
  | taken held events quiet => exact ⟨past, hpast.withLookahead .unprimed⟩
  | skipped => exact ⟨past, hpast.skipLine⟩
  | rulesAdded rules fit =>
    exact ⟨past, hpast.pieces_eq, hpast.line_eq, hpast.isSteady, hpast.line⟩

theorem Ledger.Numbered.move {known : Rule κ → Prop} {stream : List Delivery}
    {ledger next : Ledger κ} (h : ledger.Numbered known stream) (hmove : Move known ledger next) :
    next.Numbered known stream := by
  refine ⟨hmove.allowed_of_mem h.rules, hmove.exists_isPast h.isPast, fun t ht => ?_⟩
  rcases hmove.made_cases with hmade | ⟨rule, m, hfirst, hrest, -, hmade⟩
  · exact h.tokens t (by rwa [← hmade])
  · rw [hmade, List.mem_append, List.mem_singleton] at ht
    rcases ht with hold | rfl
    · exact h.tokens t hold
    · obtain ⟨past, hpast⟩ := h.isPast
      exact hpast.exists_isMadeOn h.rules hrest hfirst

theorem Ledger.numbered_ofReader {reader : Reader} (hsteady : reader.IsSteady)
    {known : Rule κ → Prop} {rules : List (Rule κ)} (hrules : ∀ rule ∈ rules, known rule) :
    (Ledger.ofLexer ((Lexer.ofReader reader).addRules rules)).Numbered known reader.stream where
  rules := hrules
  isPast := ⟨[], .ofReader hsteady rules⟩
  tokens := nofun

/-! ## 3. What was lost with a piece -/

section Failures

variable {lexer : Lexer κ} {stream : List Delivery} {past : List (List Delivery)}
  {position : Position} {failure : Failure}

/-- The lexer has just lost the line of a failure, at a position. -/
def Lexer.HasLost (lexer : Lexer κ) (stream : List Delivery) (position : Position)
    (failure : Failure) : Prop :=
  ∃ before piece, lexer.IsPast stream (before ++ [piece]) ∧
    Source.lineOfPiece piece = .failed failure ∧
    position = ⟨min (before.length + 1) Position.countLimit, 0⟩ ∧
    lexer.rest = []

theorem Lexer.IsPast.hasLost_of_advances {outcome : LexOutcome κ Unit}
    (h : lexer.IsPast stream past) (hadvances : lexer.Advances outcome)
    (herror : outcome.result = .error ⟨position, .device failure⟩) :
    outcome.state.HasLost stream position failure := by
  -- on the search: only its last move can fail
  induction hadvances generalizing past with
  | ignored first behind ignored later ih => exact ih (h.pass behind) herror
  | lineRead rest line later ih =>
    obtain ⟨piece, hstarted⟩ := h.startLine line
    exact ih hstarted herror
  | lineLost rest failed =>
    obtain ⟨piece, hlost, hpiece⟩ := h.loseLine failed
    cases herror
    refine ⟨past, piece, hlost, hpiece, ?_, rfl⟩
    rw [← h.line_eq.nextLine]
    rfl
  | token => cases herror
  | finished => cases herror
  | unmatched => cases herror
  | splitCharacter => cases herror

theorem Lexer.IsPast.hasLost_of_prime (h : lexer.IsPast stream past)
    (herror : lexer.prime.result = .error ⟨position, .device failure⟩) :
    lexer.prime.state.HasLost stream position failure := by
  rcases lexer.prime_cases with hknown | ⟨-, hsearch⟩
  · rw [hknown] at herror
    cases herror
  · exact h.hasLost_of_advances hsearch herror

end Failures

section Responses

variable [DecidableEq κ] {lexer : Lexer κ} {stream : List Delivery} {position : Position}
  {failure : Failure}

/-- The errors that a response reports. -/
def Response.errors : Response κ → List (LexError κ)
  | .answered (.error error) => [error]
  | .items list => list.filterMap fun
    | some (.error error) => some error
    | _ => none
  | _ => []

/-- A request fails with the device only where looking for the next token does. -/
theorem Request.prime_of_ask_device {request : Request κ}
    (herror : (request.ask lexer).result = .error ⟨position, .device failure⟩) :
    lexer.prime.result = .error ⟨position, .device failure⟩ ∧
      (request.ask lexer).state = lexer.prime.state := by
  cases hprime : lexer.prime.result with
  | error error =>
    rw [request.ask_of_error hprime] at herror ⊢
    cases herror
    exact ⟨rfl, rfl⟩
  | ok =>
    have hlost : lostLines (request.ask lexer).result = 1 := by rw [herror]; rfl
    rcases Lexer.prime_ok hprime with ⟨t, ht⟩ | hend
    · rw [request.ask_of_token hprime ht, Ledger.lostLines_answerToken] at hlost
      cases hlost
    · rw [request.ask_of_endOfInput hprime hend, Ledger.lostLines_answerEnd] at hlost
      cases hlost

/-- A stream stops where looking for its next token fails. -/
theorem TokenStream.exists_prime_of_nextMany {allowed : Rule κ → Prop} {count : Nat}
    {ledger : Ledger κ} {error : LexError κ}
    (hmem : some (.error error) ∈ (TokenStream.nextMany count ⟨ledger.lexer, false⟩).1) :
    ∃ middle, Ledger.Reaches allowed ledger middle ∧ middle.lexer.prime.result = .error error ∧
      (TokenStream.nextMany count ⟨ledger.lexer, false⟩).2.1.lexer = middle.lexer.prime.state := by
  induction count generalizing ledger with
  | zero => cases hmem
  | succ count ih =>
    simp only [TokenStream.nextMany] at hmem ⊢
    cases hresult : ledger.lexer.nextToken.result with
    | ok token =>
      have hstep := TokenStream.next_of_ok hresult
      simp only [TokenStream.ofLexer] at hstep
      obtain ⟨next, hnext, hlexer⟩ : ∃ next : Ledger κ, Ledger.Reaches allowed ledger next ∧
          next.lexer = ledger.lexer.nextToken.state :=
        ⟨_, Ledger.reaches_next ledger false, by rw [hstep]⟩
      simp only [hstep, ← hlexer] at hmem ⊢
      have hlater : some (.error error) ∈ (TokenStream.nextMany count ⟨next.lexer, false⟩).1 := by
        rcases List.mem_cons.mp hmem with hfirst | hrest
        · cases token <;> cases hfirst
        · exact hrest
      obtain ⟨middle, hreaches, hprime, hstate⟩ := ih hlater
      exact ⟨middle, hnext.trans hreaches, hprime, hstate⟩
    | error other =>
      have hstep := TokenStream.next_of_error hresult
      simp only [TokenStream.ofLexer] at hstep
      simp only [hstep, TokenStream.nextMany_of_failed] at hmem ⊢
      obtain ⟨hprime, hstate⟩ := Lexer.prime_of_nextToken_error hresult
      refine ⟨ledger, .refl, ?_, hstate⟩
      rcases List.mem_cons.mp hmem with hfirst | hrest
      · cases hfirst
        exact hprime
      · cases List.eq_of_mem_replicate hrest

/-- An action that reports a failure of the source ends with the look for a token that failed. -/
theorem Action.exists_prime_of_device {allowed : Rule κ → Prop} {action : Action κ}
    {ledger : Ledger κ}
    (hmem : ⟨position, .device failure⟩ ∈ (action.perform ledger.lexer).response.errors) :
    ∃ middle, Ledger.Reaches allowed ledger middle ∧
      middle.lexer.prime.result = .error ⟨position, .device failure⟩ ∧
      (action.perform ledger.lexer).lexer = middle.lexer.prime.state := by
  cases action with
  | request request =>
    rw [Action.perform, Response.errors.eq_def] at hmem
    cases hresult : (request.ask ledger.lexer).result with
    | ok answer => simp only [hresult] at hmem; cases hmem
    | error error =>
      simp only [hresult] at hmem
      rw [← List.mem_singleton.mp hmem] at hresult
      obtain ⟨hprime, hstate⟩ := Request.prime_of_ask_device hresult
      exact ⟨ledger, .refl, hprime, hstate⟩
  | tokens count =>
    apply TokenStream.exists_prime_of_nextMany
    obtain ⟨item, hitem, herror⟩ := List.mem_filterMap.mp hmem
    split at herror
    · cases herror
      exact hitem
    · cases herror
  | skipLine => cases hmem
  | addRules rules => cases hmem
  | define kind pattern ignored =>
    rw [Action.perform] at hmem
    cases hdefine : ledger.lexer.define kind pattern ignored with
    | ok defined => simp only [hdefine] at hmem; cases hmem
    | error error => simp only [hdefine] at hmem; cases hmem

theorem Action.hasLost_perform {action : Action κ} (h : ∃ past, lexer.IsPast stream past)
    (hmem : ⟨position, .device failure⟩ ∈ (action.perform lexer).response.errors) :
    (action.perform lexer).lexer.HasLost stream position failure := by
  obtain ⟨middle, hreaches, hprime, hstate⟩ : ∃ middle, Ledger.Reaches (fun _ => False)
      (.ofLexer lexer) middle ∧ middle.lexer.prime.result = .error ⟨position, .device failure⟩ ∧
      (action.perform lexer).lexer = middle.lexer.prime.state :=
    Action.exists_prime_of_device hmem
  obtain ⟨past, hpast⟩ := hreaches.preserves
    (P := fun ledger => ∃ past, ledger.lexer.IsPast stream past) h
    fun _ _ hmove h => hmove.exists_isPast h
  rw [hstate]
  exact hpast.hasLost_of_prime hprime

end Responses

/-! ## 4. Every transcript -/

section Transcripts

variable [DecidableEq κ]

/-- Whatever is done to a fresh lexer, its tokens carry the numbers of the pieces that they stand
on, as far as line numbers go: one more than line feeds and failures were delivered before.  A failure
has the number of the piece that it ends, and the lexer goes on with the piece behind. -/
theorem lineNumber_transcript (reader : Reader) (rules : List (Rule κ))
    (actions : List (Action κ)) (hsteady : reader.IsSteady) :
    let known := fun rule => rule ∈ rules ∨ ∃ action ∈ actions, rule ∈ action.added
    let reached := ((Lexer.ofReader reader).addRules rules).transcript actions
    (∀ t ∈ reached.removed ++ reached.lexer.lookahead.token?.toList,
      ∃ before piece later, pieces reader.stream = before ++ piece :: later ∧
        t.IsMadeOn known piece ∧
        t.position.line = min (1 + (before.flatten.countP Delivery.isFeed +
          before.flatten.countP Delivery.isFailure)) Position.countLimit) ∧
      ∀ (action : Action κ) (position : Position) (failure : Failure),
        ⟨position, .device failure⟩ ∈ (action.perform reached.lexer).response.errors →
        ∃ before piece later, pieces reader.stream = before ++ piece :: later ∧
          Source.lineOfPiece piece = .failed failure ∧
          position = ⟨min (1 + (before.flatten.countP Delivery.isFeed +
            before.flatten.countP Delivery.isFailure)) Position.countLimit, 0⟩ ∧
          (action.perform reached.lexer).lexer.rest = [] ∧
          pieces (action.perform reached.lexer).lexer.source.stream = later := by
  intro known reached
  have hnumbered : reached.ledger.Numbered known reader.stream :=
    (reaches_transcript _ actions fun action haction rule hrule =>
      .inr ⟨action, haction, hrule⟩).preserves
      (Ledger.numbered_ofReader hsteady fun rule hrule => .inl hrule) fun _ _ hmove h => h.move hmove
  refine ⟨fun t ht => ?_, fun action position failure herror => ?_⟩
  · obtain ⟨before, piece, later, hpieces, hmade, hline⟩ := hnumbered.tokens t ht
    refine ⟨before, piece, later, hpieces, hmade, ?_⟩
    rw [hline, ← length_of_pieces_eq hpieces, Nat.add_comm]
  · obtain ⟨before, piece, hpast, hpiece, hposition, hrest⟩ :=
      Action.hasLost_perform hnumbered.isPast herror
    have hpieces := hpast.pieces_eq
    rw [List.append_assoc] at hpieces
    refine ⟨before, piece, _, hpieces, hpiece, ?_, hrest, rfl⟩
    rw [hposition, ← length_of_pieces_eq hpieces, Nat.add_comm]

/-- A line that is torn by a failure, and one that is not text. -/
theorem lineNumber_transcript_torn :
    let reader : Reader :=
      ⟨[.data [49, 32], .failure ⟨"TimedOut", "slow"⟩, .data [50, 10, 255, 10, 51]]⟩
    let rules : List (Rule Unit) := (Rule.make () "(\\d)" false).toOption.toList
    let reached := ((Lexer.ofReader reader).addRules rules).transcript
      [.request .nextToken, .request .nextToken, .tokens 1, .request .peek]
    reached.removed ++ reached.lexer.lookahead.token?.toList =
        [⟨(), "2", ⟨2, 0⟩⟩, ⟨(), "3", ⟨4, 0⟩⟩] ∧
      ∀ t ∈ reached.removed ++ reached.lexer.lookahead.token?.toList,
        ∃ before piece later, pieces reader.stream = before ++ piece :: later ∧
          t.position.line = min (1 + (before.flatten.countP Delivery.isFeed +
            before.flatten.countP Delivery.isFailure)) Position.countLimit := by
  intro reader rules reached
  refine ⟨by decide +kernel, fun t ht => ?_⟩
  obtain ⟨before, piece, later, hpieces, -, hline⟩ := (lineNumber_transcript reader rules
    [.request .nextToken, .request .nextToken, .tokens 1, .request .peek] (by decide)).1 t ht
  exact ⟨before, piece, later, hpieces, hline⟩

/-- The rest of a torn line is read as a line of its own: its token is numbered as if a line feed
stood in front of it. -/
theorem line_ne_of_torn_line :
    let reader : Reader := ⟨[.data [49, 32], .failure ⟨"TimedOut", "slow"⟩, .data [50, 10, 51]]⟩
    let rules : List (Rule Unit) := (Rule.make () "(\\d)" false).toOption.toList
    let reached := ((Lexer.ofReader reader).addRules rules).transcript
      [.request .nextToken, .request .nextToken]
    reached.removed = [⟨(), "2", ⟨2, 0⟩⟩] ∧
      1 + (reader.stream.takeWhile (· != .byte 50)).countP Delivery.isFeed = 1 := by
  decide +kernel

end Transcripts

end Linewise
