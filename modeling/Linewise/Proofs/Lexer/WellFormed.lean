import Linewise.Proofs.Lexer.Ledger
import Linewise.Proofs.Rule.Anchor

/-!
# Well-formed lexers — what holds between any two actions

`Ledger.Sound` is the invariant of a ledger that starts with a fresh lexer.  Each kind of move
keeps it, so it holds behind every sequence of actions.  If moreover all matches begin where the
text begins, no action ever meets a match that splits a character.
-/

namespace Linewise

variable {κ : Type}

/-! ## 1. The invariant -/

def IsTrimmed (text : List Char) : Prop := ∀ c back, text = c :: back → isBlank c = false

theorem isTrimmed_trimBlanks (text : List Char) : IsTrimmed (trimBlanks text) :=
  fun _ _ h => not_isBlank_of_trimBlanks_eq_cons h

theorem isTrimmed_nil : IsTrimmed [] := nofun

def LexEvent.isLineRead : LexEvent κ → Bool
  | .lineRead _ _ => true
  | _ => false

/-- The parts of a lexer fit together. -/
structure Lexer.WellFormed (lexer : Lexer κ) : Prop where
  fits : lexer.position.Fits
  trimmed : IsTrimmed lexer.rest
  ended_iff : lexer.lookahead = .endOfInput ↔ lexer.isReleased = true
  rest_of_ended : lexer.lookahead = .endOfInput → lexer.rest = []
  token : ∀ t, lexer.lookahead = .token t →
    t.position.line = lexer.position.line ∧
      (t.position.column < Position.countLimit → t.position.column < lexer.position.column)
  start : lexer.position.line = 0 →
    lexer.rest = [] ∧ (lexer.lookahead = .unprimed ∨ lexer.lookahead = .endOfInput)

/-- The number of lines that have been read, those that were lost included. -/
def Ledger.linesRead (ledger : Ledger κ) : Nat :=
  ledger.events.countP LexEvent.isLineRead + ledger.failures

/-- The lexer is well-formed, and its line number counts the lines read. -/
structure Ledger.Sound (ledger : Ledger κ) : Prop where
  wellFormed : ledger.lexer.WellFormed
  line_eq : ledger.lexer.position.IsOnLine ledger.linesRead

/-- Only the read that finds nothing more releases the source. -/
theorem Source.isReleased_nextLine (source : Source) :
    source.nextLine.2.isReleased = true ↔ source.nextLine.1 = .finished := by
  cases source with
  | released => simp [nextLine, isReleased]
  | reading reader =>
    rw [nextLine]
    split
    · simp [isReleased]
    · split
      · simp [isReleased]
      · next hfound => simpa [isReleased] using hfound

namespace Lexer

variable {lexer : Lexer κ}

-- Without a lookahead there is little left to check.
theorem wellFormed_of_unprimed (hprimed : lexer.lookahead = .unprimed)
    (hreading : lexer.isReleased = false) (hfits : lexer.position.Fits)
    (htrimmed : IsTrimmed lexer.rest)
    (hstart : lexer.position.line = 0 → lexer.rest = []) : lexer.WellFormed where
  fits := hfits
  trimmed := htrimmed
  ended_iff := by simp [hprimed, hreading]
  rest_of_ended hended := by simp [hprimed] at hended
  token t htoken := by simp [hprimed] at htoken
  start hzero := ⟨hstart hzero, .inl hprimed⟩

theorem wellFormed_ofReader (reader : Reader) (rules : List (Rule κ)) :
    ((ofReader reader).addRules rules).WellFormed :=
  wellFormed_of_unprimed rfl rfl Position.fits_start isTrimmed_nil fun _ => rfl

namespace WellFormed

variable (h : lexer.WellFormed)

include h

theorem isReleased_of_ne_endOfInput (hne : lexer.lookahead ≠ .endOfInput) :
    lexer.isReleased = false := by
  cases hreleased : lexer.isReleased with
  | false => rfl
  | true => exact absurd (h.ended_iff.mpr hreleased) hne

-- A match has at least one character, and there is none on line zero.
theorem line_pos_of_firstMatch? {rule : Rule κ} {m : RuleMatch}
    (hfirst : Rule.firstMatch? lexer.rules lexer.rest = some (rule, m)) :
    0 < lexer.position.line := by
  by_contra hline
  have hrest := (h.start (by omega)).1
  obtain ⟨-, hmatch⟩ := Rule.matchStart?_of_firstMatch? hfirst
  obtain ⟨found, -, -, hlexeme, -⟩ := Rule.matchStart?_eq_some_iff.mp hmatch
  apply m.lexeme_ne_nil
  rw [hlexeme, hrest, Match.text]
  simp

section Match

variable {rule : Rule κ} {m : RuleMatch} {next : List Char}
  (hprimed : lexer.lookahead = .unprimed)
  (hfirst : Rule.firstMatch? lexer.rules lexer.rest = some (rule, m))
  (hbehind : Scan.behind? m lexer.rest = some next)

include hprimed hfirst hbehind

theorem pass : (lexer.pass m next).WellFormed := by
  have hline := h.line_pos_of_firstMatch? hfirst
  have hreading := h.isReleased_of_ne_endOfInput (by rw [hprimed]; simp)
  refine wellFormed_of_unprimed hprimed hreading (h.fits.advance m.chars) ?_ (fun hzero => ?_)
  · simp only [Scan.behind?, Option.map_eq_some_iff] at hbehind
    obtain ⟨back, -, rfl⟩ := hbehind
    exact isTrimmed_trimBlanks back
  · simp only [Lexer.pass, Position.line_advance] at hzero
    omega

theorem passToken :
    { lexer.pass m next with
      lookahead := .token (rule.tokenAt m lexer.position) }.WellFormed := by
  have hline := h.line_pos_of_firstMatch? hfirst
  have hreading := h.isReleased_of_ne_endOfInput (by rw [hprimed]; simp)
  have hpass := h.pass hprimed hfirst hbehind
  refine ⟨hpass.fits, hpass.trimmed, ⟨nofun, fun hended => ?_⟩, nofun, fun t ht => ?_, fun hzero => ?_⟩
  · exact absurd (hreading.symm.trans hended) (by simp)
  · cases ht
    exact ⟨rfl, fun hcolumn => Position.lt_countOn hcolumn m.chars_pos⟩
  · simp only [Lexer.pass, Position.line_advance] at hzero
    omega

end Match

theorem startLine (hprimed : lexer.lookahead = .unprimed) {text : List Char} {source : Source}
    (hline : lexer.source.nextLine = (.line text, source)) :
    (lexer.startLine source text).WellFormed := by
  have hreading : source.isReleased = false := by
    simpa [hline] using Source.isReleased_nextLine lexer.source
  refine wellFormed_of_unprimed hprimed hreading h.fits.nextLine (isTrimmed_trimBlanks text)
    fun hzero => ?_
  exact absurd hzero (Nat.ne_of_gt (Position.countOn_pos _ Nat.one_pos))

theorem loseLine (hprimed : lexer.lookahead = .unprimed) {failure : Failure} {source : Source}
    (hfailed : lexer.source.nextLine = (.failed failure, source)) :
    (lexer.loseLine source).WellFormed := by
  have hreading : source.isReleased = false := by
    simpa [hfailed] using Source.isReleased_nextLine lexer.source
  exact wellFormed_of_unprimed hprimed hreading h.fits.nextLine isTrimmed_nil fun _ => rfl

theorem finish (hrest : lexer.rest = []) {source : Source}
    (hfinished : lexer.source.nextLine = (.finished, source)) :
    { lexer with source, lookahead := .endOfInput }.WellFormed := by
  have hreleased : source.isReleased = true := by
    simpa [hfinished] using Source.isReleased_nextLine lexer.source
  exact ⟨h.fits, h.trimmed, ⟨fun _ => hreleased, fun _ => rfl⟩, fun _ => hrest, nofun,
    fun _ => ⟨hrest, .inr rfl⟩⟩

theorem unprime {t : Token κ} (hheld : lexer.lookahead = .token t) :
    { lexer with lookahead := .unprimed }.WellFormed :=
  wellFormed_of_unprimed rfl (h.isReleased_of_ne_endOfInput (by rw [hheld]; simp)) h.fits
    h.trimmed fun hzero => (h.start hzero).1

theorem skipLine : lexer.skipLine.1.WellFormed := by
  by_cases hended : lexer.lookahead = .endOfInput
  · -- the end of input stays in the lookahead
    simp only [Lexer.skipLine, hended]
    exact ⟨h.fits, isTrimmed_nil, ⟨fun _ => h.ended_iff.mp hended, fun _ => rfl⟩, fun _ => rfl,
      fun _ htoken => absurd htoken (by simp), fun _ => ⟨rfl, .inr rfl⟩⟩
  · -- a pending token belongs to the line and goes with it
    have hunprimed : lexer.skipLine.1.lookahead = .unprimed := by
      cases hlook : lexer.lookahead with
      | endOfInput => exact absurd hlook hended
      | _ => simp [Lexer.skipLine, hlook]
    exact wellFormed_of_unprimed hunprimed (h.isReleased_of_ne_endOfInput hended) h.fits
      isTrimmed_nil fun _ => rfl

theorem addRules (rules : List (Rule κ)) : (lexer.addRules rules).WellFormed :=
  ⟨h.fits, h.trimmed, h.ended_iff, h.rest_of_ended, h.token, h.start⟩

end WellFormed

end Lexer

namespace Ledger

theorem countP_isLineRead_releaseEvents (source : Source) :
    (Lexer.releaseEvents (κ := κ) source).countP LexEvent.isLineRead = 0 := by
  cases source <;> rfl

theorem countP_isLineRead_skipLine (lexer : Lexer κ) :
    lexer.skipLine.2.countP LexEvent.isLineRead = 0 := by
  simp only [Lexer.skipLine]
  split <;> rfl

theorem Move.wellFormed {allowed : Rule κ → Prop} {ledger next : Ledger κ}
    (hmove : Move allowed ledger next) (h : ledger.lexer.WellFormed) : next.lexer.WellFormed := by
  cases hmove with
  | ignored primed first behind ignored => exact h.pass primed first behind
  | token primed first behind kept => exact h.passToken primed first behind
  | lineRead primed rest line => exact h.startLine primed line
  | lineLost primed rest failed => exact h.loseLine primed failed
  | finished primed rest finished => exact h.finish rest finished
  | taken held events quiet => exact h.unprime held
  | skipped => exact h.skipLine
  | rulesAdded rules fit => exact h.addRules rules

theorem Reaches.wellFormed {allowed : Rule κ → Prop} {first last : Ledger κ}
    (hreaches : Reaches allowed first last) (h : first.lexer.WellFormed) : last.lexer.WellFormed :=
  hreaches.preserves h fun _ _ hmove h => hmove.wellFormed h

/-- A move reads or loses a line and leads to the next one, or stays on the line. -/
theorem Move.linesRead_cases {allowed : Rule κ → Prop} {ledger next : Ledger κ}
    (hmove : Move allowed ledger next) :
    next.linesRead = ledger.linesRead ∧
        next.lexer.position.line = ledger.lexer.position.line ∨
      next.linesRead = ledger.linesRead + 1 ∧
        next.lexer.position = ledger.lexer.position.nextLine := by
  cases hmove with
  | ignored => exact .inl ⟨by simp [linesRead, LexEvent.isLineRead], rfl⟩
  | token => exact .inl ⟨by simp [linesRead, LexEvent.isLineRead], rfl⟩
  | lineRead =>
    refine .inr ⟨?_, rfl⟩
    simp only [linesRead, List.countP_append, List.countP_singleton, LexEvent.isLineRead, if_true]
    omega
  | lineLost => exact .inr ⟨rfl, rfl⟩
  | finished => exact .inl ⟨by simp [linesRead, countP_isLineRead_releaseEvents], rfl⟩
  | taken held events quiet =>
    refine .inl ⟨?_, rfl⟩
    rcases quiet with rfl | rfl <;> simp [linesRead, LexEvent.isLineRead]
  | skipped => exact .inl ⟨by simp [linesRead, countP_isLineRead_skipLine], rfl⟩
  | rulesAdded => exact .inl ⟨rfl, rfl⟩

theorem Sound.move {allowed : Rule κ → Prop} {ledger next : Ledger κ} (h : ledger.Sound)
    (hmove : Move allowed ledger next) : next.Sound := by
  obtain ⟨hwell, hline⟩ := h
  refine ⟨hmove.wellFormed hwell, ?_⟩
  rcases hmove.linesRead_cases with ⟨hcount, hsame⟩ | ⟨hcount, hnext⟩
  · rw [Position.IsOnLine, hcount, hsame]
    exact hline
  · rw [hcount, hnext]
    exact hline.nextLine

theorem sound_ofReader (reader : Reader) (rules : List (Rule κ)) :
    (ofLexer ((Lexer.ofReader reader).addRules rules)).Sound :=
  ⟨Lexer.wellFormed_ofReader reader rules, rfl⟩

/-- Once the end of input is known, only rules can still be added. -/
theorem Move.of_endOfInput {allowed : Rule κ → Prop} {ledger next : Ledger κ}
    (hmove : Move allowed ledger next) (hended : ledger.lexer.lookahead = .endOfInput)
    (hrest : ledger.lexer.rest = []) :
    next.lexer.lookahead = .endOfInput ∧ next.lexer.rest = [] ∧
      next.lexer.position = ledger.lexer.position ∧
      next.lexer.source = ledger.lexer.source ∧ next.events = ledger.events := by
  -- a search starts without a lookahead, so no move of a search is left
  have hunprimed : ledger.lexer.lookahead ≠ .unprimed := by rw [hended]; simp
  cases hmove with
  | ignored primed => exact absurd primed hunprimed
  | token primed => exact absurd primed hunprimed
  | lineRead primed => exact absurd primed hunprimed
  | lineLost primed => exact absurd primed hunprimed
  | finished primed => exact absurd primed hunprimed
  | taken held => exact absurd (hended.symm.trans held) (by simp)
  | skipped => simp [Lexer.skipLine, hended, hrest]
  | rulesAdded rules fit => exact ⟨hended, hrest, rfl, rfl, rfl⟩

end Ledger

theorem Lexer.WellFormed.prime {lexer : Lexer κ} (h : lexer.WellFormed) :
    lexer.prime.state.WellFormed := by
  have hreaches : Ledger.Reaches (fun _ => True) (.ofLexer lexer) _ :=
    Ledger.reaches_follow_prime (.ofLexer lexer)
  exact hreaches.wellFormed h

/-! ## 2. No match splits a character -/

section Anchored

variable {lexer : Lexer κ}

theorem Lexer.Advances.ne_splitCharacter {outcome : LexOutcome κ Unit}
    (h : lexer.Advances outcome) (hanchored : ∀ rule ∈ lexer.rules, rule.IsAnchored)
    (position : Position) : outcome.result ≠ .error ⟨position, .splitCharacter⟩ := by
  induction h with
  | ignored _ _ _ _ ih => exact ih hanchored
  | lineRead _ _ _ ih => exact ih hanchored
  | splitCharacter _ hfirst hbehind =>
    -- the bytes of a match at the beginning are whole characters
    obtain ⟨hmem, hmatch⟩ := Rule.matchStart?_of_firstMatch? hfirst
    obtain ⟨back, -, hsome⟩ := Rule.behind?_of_isAnchored (hanchored _ hmem) hmatch
    exact absurd (hbehind.symm.trans hsome) (by simp)
  | _ => simp [Outcome.fail]

theorem Lexer.prime_ne_splitCharacter (hanchored : ∀ rule ∈ lexer.rules, rule.IsAnchored)
    (position : Position) : lexer.prime.result ≠ .error ⟨position, .splitCharacter⟩ := by
  rcases lexer.prime_cases with hknown | ⟨-, hsearch⟩
  · rw [hknown]
    simp [Outcome.done]
  · exact hsearch.ne_splitCharacter hanchored position

theorem LexError.isSplit_answered {error : LexError κ}
    (h : ∀ position, error ≠ ⟨position, .splitCharacter⟩) :
    (Response.answered (.error error)).isSplit = false := by
  obtain ⟨position, cause⟩ := error
  cases cause with
  | splitCharacter => exact absurd rfl (h position)
  | _ => rfl

variable [DecidableEq κ]

theorem Request.isSplit_ask (hanchored : ∀ rule ∈ lexer.rules, rule.IsAnchored)
    (request : Request κ) : (Response.answered (request.ask lexer).result).isSplit = false := by
  cases hresult : lexer.prime.result with
  | error error =>
    rw [request.ask_of_error hresult]
    have hne := Lexer.prime_ne_splitCharacter hanchored
    rw [hresult] at hne
    exact LexError.isSplit_answered fun position h => hne position (by rw [h])
  | ok =>
    rcases Lexer.prime_ok hresult with ⟨t, ht⟩ | hend
    · rw [request.ask_of_token hresult ht]
      cases request with
      | consume kind text =>
        simp only [answerToken]
        split <;> rfl
      | _ => rfl
    · rw [request.ask_of_endOfInput hresult hend]
      cases request <;> rfl

theorem TokenStream.isSplit_next {stream : TokenStream κ}
    (hanchored : ∀ rule ∈ stream.lexer.rules, rule.IsAnchored) :
    (Response.items [stream.next.1]).isSplit = false := by
  have hask := Request.isSplit_ask hanchored .nextToken
  simp only [Request.ask, Outcome.map] at hask
  rw [next]
  split
  · rfl
  · cases hresult : stream.lexer.nextToken.result with
    | ok token => cases token <;> simp [hresult, Response.isSplit]
    | error error =>
      obtain ⟨position, cause⟩ := error
      cases cause with
      | splitCharacter =>
        rw [hresult] at hask
        cases hask
      | _ => simp [hresult, Response.isSplit]

theorem TokenStream.isSplit_nextMany (count : Nat) {stream : TokenStream κ}
    (hanchored : ∀ rule ∈ stream.lexer.rules, rule.IsAnchored) :
    (Response.items (stream.nextMany count).1).isSplit = false := by
  induction count generalizing stream with
  | zero => rfl
  | succ count ih =>
    have hnext := isSplit_next hanchored
    have hlater : ∀ rule ∈ stream.next.2.1.lexer.rules, rule.IsAnchored :=
      (Ledger.reaches_next (.ofLexer stream.lexer) stream.failed).allowed_of_mem hanchored
    have hrest := ih hlater
    simp only [Response.isSplit, List.any_cons, List.any_nil, Bool.or_false] at hnext hrest
    simp only [nextMany, Response.isSplit, List.any_cons, Bool.or_eq_false_iff]
    exact ⟨hnext, hrest⟩

theorem Action.isSplit_perform (hanchored : ∀ rule ∈ lexer.rules, rule.IsAnchored)
    (action : Action κ) : (action.perform lexer).response.isSplit = false := by
  cases action with
  | request request => exact request.isSplit_ask hanchored
  | tokens count => exact TokenStream.isSplit_nextMany count hanchored
  | skipLine => rfl
  | addRules rules => rfl
  | define kind pattern ignored =>
    simp only [Action.perform]
    split <;> rfl

end Anchored

/-! ## 3. Every transcript -/

section Transcripts

variable [DecidableEq κ]

/-- With anchored rules every action is answered, and no answer reports a split character. -/
theorem isOver_transcript {lexer : Lexer κ} {actions : List (Action κ)}
    (hrules : ∀ rule ∈ lexer.rules, rule.IsAnchored)
    (hadded : ∀ action ∈ actions, ∀ rule ∈ action.added, rule.IsAnchored) :
    (lexer.transcript actions).isOver = false ∧
      (lexer.transcript actions).responses.length = actions.length := by
  induction actions using List.reverseRecOn with
  | nil => exact ⟨rfl, rfl⟩
  | append_singleton actions action ih =>
    have hbefore : ∀ a ∈ actions, ∀ rule ∈ a.added, rule.IsAnchored :=
      fun a ha => hadded a (by simp [ha])
    obtain ⟨hgoing, hlength⟩ := ih hbefore
    -- the rules behind the actions are those at first and those added
    have hanchored : ∀ rule ∈ (lexer.transcript actions).lexer.rules, rule.IsAnchored :=
      (reaches_transcript lexer actions hbefore).allowed_of_mem hrules
    have hwhole := action.isSplit_perform hanchored
    rw [Lexer.transcript_concat, Transcript.perform_of_not_isOver hgoing]
    rw [Transcript.isOver] at hgoing
    simp [Transcript.isOver, hgoing, hwhole, hlength]

/-- Whatever is done to a fresh lexer whose matches begin where the text begins, every action is
answered and no match splits a character.  The lexer stays well-formed, its line number counts the
lines read or lost up to the largest one, and from the end of input on nothing is read and nothing
moves. -/
theorem wellFormed_transcript (reader : Reader) (rules : List (Rule κ))
    (actions : List (Action κ)) (hrules : ∀ rule ∈ rules, rule.IsAnchored)
    (hadded : ∀ action ∈ actions, ∀ rule ∈ action.added, rule.IsAnchored) :
    let lexer := (Lexer.ofReader reader).addRules rules
    let reached := lexer.transcript actions
    reached.responses.length = actions.length ∧
      (∀ response ∈ reached.responses, response.isSplit = false) ∧
      reached.lexer.WellFormed ∧
      reached.lexer.position.line =
        min (reached.events.countP LexEvent.isLineRead + reached.failures)
          Position.countLimit ∧
      (reached.lexer.lookahead = .endOfInput → ∀ later,
        (lexer.transcript (actions ++ later)).lexer.lookahead = .endOfInput ∧
        (lexer.transcript (actions ++ later)).lexer.position = reached.lexer.position ∧
        (lexer.transcript (actions ++ later)).lexer.source = reached.lexer.source ∧
        (lexer.transcript (actions ++ later)).events = reached.events) := by
  intro lexer reached
  have hlexer : ∀ rule ∈ lexer.rules, rule.IsAnchored := hrules
  obtain ⟨hgoing, hlength⟩ := isOver_transcript hlexer hadded
  have hsound : reached.ledger.Sound :=
    (reaches_transcript lexer actions hadded).preserves (Ledger.sound_ofReader reader rules)
      fun _ _ hmove h => h.move hmove
  refine ⟨hlength, ?_, hsound.wellFormed, hsound.line_eq, fun hended later => ?_⟩
  · simpa [Transcript.isOver] using hgoing
  · have hrest := hsound.wellFormed.rest_of_ended hended
    have hlater : Ledger.Reaches (fun _ => True) reached.ledger
        (lexer.transcript (actions ++ later)).ledger :=
      reaches_transcript_append lexer actions later fun _ _ _ _ => trivial
    -- the end of input is kept by every move, together with what it leaves alone
    have hkept := hlater.preserves
      (P := fun ledger => ledger.lexer.lookahead = .endOfInput ∧ ledger.lexer.rest = [] ∧
        ledger.lexer.position = reached.lexer.position ∧
        ledger.lexer.source = reached.lexer.source ∧ ledger.events = reached.events)
      ⟨hended, hrest, rfl, rfl, rfl⟩ (by
        rintro ledger next hmove ⟨hended, hrest, hposition, hsource, hevents⟩
        obtain ⟨hended', hrest', hposition', hsource', hevents'⟩ := hmove.of_endOfInput hended hrest
        exact ⟨hended', hrest', hposition'.trans hposition, hsource'.trans hsource,
          hevents'.trans hevents⟩)
    exact ⟨hkept.1, hkept.2.2.1, hkept.2.2.2.1, hkept.2.2.2.2⟩

/-- Two lines, and a rule that is registered between them. -/
theorem wellFormed_transcript_letters :
    let rules : List (Rule Unit) := (Rule.make () "(a)" false).toOption.toList
    let reached := ((Lexer.ofReader ⟨[.data [97, 98, 10, 97]]⟩).addRules rules).transcript
      [.request .nextToken, .define () "(b)" true, .skipLine, .tokens 2]
    reached.responses.length = 4 ∧ reached.lexer.WellFormed := by
  intro rules reached
  have hfirst : ∀ rule ∈ (Rule.make () "(a)" false).toOption, rule.IsAnchored :=
    Rule.isAnchored_of_mem_make (Reading.keepsGroup_iff.mpr (by decide +kernel))
  have hlater : ∀ rule ∈ (Rule.make () "(b)" true).toOption, rule.IsAnchored :=
    Rule.isAnchored_of_mem_make (Reading.keepsGroup_iff.mpr (by decide +kernel))
  obtain ⟨hlength, -, hwell, -, -⟩ := wellFormed_transcript ⟨[.data [97, 98, 10, 97]]⟩ rules
    [.request .nextToken, .define () "(b)" true, .skipLine, .tokens 2]
    (by simpa [rules] using hfirst) (by simpa [Action.added] using hlater)
  exact ⟨hlength, hwell⟩

end Transcripts

end Linewise
