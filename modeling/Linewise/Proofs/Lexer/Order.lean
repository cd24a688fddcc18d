import Linewise.Proofs.Lexer.LineNumbers

/-!
# The order of tokens — in the source as in time

A lexer never goes back.  It stands behind every token that it has made, by line and then by
column: a match takes at least one character, so passing it moves the column, and a new line moves
the line.  A line that is lost to a failure has no tokens: those made before stand on the lines in
front of it, and what is made later is found behind it.  Numbers that have come to their limit tell
nothing any more, so all this is said of tokens and failures below it.
-/

namespace Linewise

variable {κ : Type}

/-! ## 1. Tokens -/

theorem Position.line_lt_of_lt {p q : Position} (h : p < q) (hcolumn : q.column = 0) :
    p.line < q.line := by
  rcases (lt_def p q).mp h with hline | ⟨-, hless⟩
  · exact hline
  · rw [hcolumn] at hless
    exact absurd hless (Nat.not_lt_zero _)

/-- The tokens made so far stand in their order, and in front of the lexer. -/
structure Ledger.Ordered (ledger : Ledger κ) : Prop where
  pairwise : ledger.made.Pairwise fun earlier later =>
    earlier.position.BelowLimits → earlier.position < later.position
  passed : ∀ t ∈ ledger.made, t.position.BelowLimits → t.position < ledger.lexer.position

namespace Ledger

variable {allowed : Rule κ → Prop} {ledger next : Ledger κ}

/-- No move goes back. -/
theorem Move.lt_position (hmove : Move allowed ledger next) {p : Position} (hp : p.BelowLimits)
    (h : p < ledger.lexer.position) : p < next.lexer.position := by
  cases hmove with
  | @ignored _ m => exact Position.lt_advance_of_lt h m.chars
  | @token _ m => exact Position.lt_advance_of_lt h m.chars
  | lineRead => exact Position.lt_nextLine_of_lt hp h
  | lineLost => exact Position.lt_nextLine_of_lt hp h
  | _ => exact h

theorem Ordered.move (h : ledger.Ordered) (hmove : Move allowed ledger next) : next.Ordered := by
  have hpassed : ∀ t ∈ ledger.made, t.position.BelowLimits → t.position < next.lexer.position :=
    fun t ht hbelow => hmove.lt_position hbelow (h.passed t ht hbelow)
  rcases hmove.made_cases with hmade | ⟨rule, m, -, -, hposition, hmade⟩
  · rw [← hmade] at hpassed
    exact ⟨hmade ▸ h.pairwise, hpassed⟩
  · -- the new token stands where the lexer stood
    have hnew (hbelow : ledger.lexer.position.BelowLimits) :
        ledger.lexer.position < next.lexer.position := by
      rw [hposition]
      exact Position.lt_advance hbelow m.chars_pos
    refine ⟨?_, ?_⟩
    · rw [hmade, List.pairwise_append]
      refine ⟨h.pairwise, List.pairwise_singleton _ _, fun t ht u hu => ?_⟩
      rw [List.mem_singleton.mp hu]
      exact h.passed t ht
    · intro t ht
      rw [hmade, List.mem_append, List.mem_singleton] at ht
      rcases ht with hold | rfl
      · exact hpassed t hold
      · exact hnew

theorem ordered_ofReader (reader : Reader) (rules : List (Rule κ)) :
    (ofLexer ((Lexer.ofReader reader).addRules rules)).Ordered :=
  ⟨.nil, nofun⟩

end Ledger

/-! ## 2. Lost lines -/

/-- Nothing more can be found on the line, or on one before it. -/
def Lexer.IsBehind (lexer : Lexer κ) (line : Nat) : Prop :=
  line < lexer.position.line ∨ line = lexer.position.line ∧ lexer.rest = []

theorem Lexer.IsBehind.line_lt {lexer : Lexer κ} {line : Nat} (h : lexer.IsBehind line)
    (hrest : lexer.rest ≠ []) : line < lexer.position.line :=
  h.resolve_right fun hhere => hrest hhere.2

namespace Ledger

variable {allowed : Rule κ → Prop} {ledger next : Ledger κ} {line : Nat}

theorem Move.isBehind (hmove : Move allowed ledger next) (hlimit : line < Position.countLimit)
    (h : ledger.lexer.IsBehind line) : next.lexer.IsBehind line := by
  have hnextLine : line < ledger.lexer.position.nextLine.line := by
    rcases h with hless | ⟨rfl, -⟩
    · exact hless.trans_le (Position.le_countOn _ _)
    · exact Position.lt_countOn hlimit Nat.one_pos
  cases hmove with
  | ignored primed first behind ignored => exact .inl (h.line_lt (Scan.ne_nil_of_behind? behind))
  | token primed first behind kept => exact .inl (h.line_lt (Scan.ne_nil_of_behind? behind))
  | lineRead primed rest line => exact .inl hnextLine
  | lineLost primed rest failed => exact .inl hnextLine
  | skipped => exact h.imp_right fun hhere => ⟨hhere.1, rfl⟩
  | _ => exact h

/-- A lexer behind a line stays behind it, and what it makes stands on later lines. -/
theorem Reaches.exists_later {first last : Ledger κ} (hreaches : Reaches allowed first last)
    (h : first.lexer.IsBehind line) :
    ∃ later, last.made = first.made ++ later ∧
      (line < Position.countLimit →
        last.lexer.IsBehind line ∧ ∀ t ∈ later, line < t.position.line) := by
  induction hreaches with
  | refl => exact ⟨[], (List.append_nil _).symm, fun _ => ⟨h, nofun⟩⟩
  | @tail ledger next _ hmove ih =>
    obtain ⟨later, hmade, hlater⟩ := ih
    rcases hmove.made_cases with hsame | ⟨rule, m, -, hrest, -, hnew⟩
    · exact ⟨later, hsame.trans hmade, fun hlimit =>
        ⟨hmove.isBehind hlimit (hlater hlimit).1, (hlater hlimit).2⟩⟩
    · refine ⟨later ++ [rule.tokenAt m ledger.lexer.position], ?_, fun hlimit => ?_⟩
      · rw [hnew, hmade, List.append_assoc]
      · obtain ⟨hbehind, hlines⟩ := hlater hlimit
        refine ⟨hmove.isBehind hlimit hbehind, fun t ht => ?_⟩
        rw [List.mem_append, List.mem_singleton] at ht
        rcases ht with hold | rfl
        · exact hlines t hold
        · exact hbehind.line_lt hrest

end Ledger

section Failures

variable {lexer : Lexer κ} {position : Position} {failure : Failure}

theorem Lexer.Advances.position_of_device {outcome : LexOutcome κ Unit}
    (hadvances : lexer.Advances outcome)
    (herror : outcome.result = .error ⟨position, .device failure⟩) :
    outcome.state.position = position ∧ position.column = 0 ∧ outcome.state.rest = [] := by
  -- on the search: only its last move can fail
  induction hadvances with
  | ignored first behind ignored later ih => exact ih herror
  | lineRead rest line later ih => exact ih herror
  | lineLost rest failed =>
    cases herror
    exact ⟨rfl, rfl, rfl⟩
  | token => cases herror
  | finished => cases herror
  | unmatched => cases herror
  | splitCharacter => cases herror

/-- A failure is reported at the start of the line that it costs, of which nothing is left. -/
theorem Action.position_of_device [DecidableEq κ] {action : Action κ}
    (hmem : ⟨position, .device failure⟩ ∈ (action.perform lexer).response.errors) :
    (action.perform lexer).lexer.position = position ∧ position.column = 0 ∧
      (action.perform lexer).lexer.rest = [] := by
  obtain ⟨middle, -, herror, hstate⟩ : ∃ middle, Ledger.Reaches (fun _ => False)
      (.ofLexer lexer) middle ∧ middle.lexer.prime.result = .error ⟨position, .device failure⟩ ∧
      (action.perform lexer).lexer = middle.lexer.prime.state :=
    Action.exists_prime_of_device hmem
  rw [hstate]
  rcases middle.lexer.prime_cases with hknown | ⟨-, hsearch⟩
  · rw [hknown] at herror
    cases herror
  · exact hsearch.position_of_device herror

end Failures

/-! ## 3. Every transcript -/

section Transcripts

variable [DecidableEq κ]

/-- Whatever is done to a fresh lexer, every token stands behind those made before it, and a
failure of the source costs a line between those of the tokens made before and after it; this holds
as long as the numbers in front of it are below their limit. -/
theorem ordered_transcript (reader : Reader) (rules : List (Rule κ)) (actions : List (Action κ)) :
    let reached := ((Lexer.ofReader reader).addRules rules).transcript
    let made := fun actions => (reached actions).removed ++
      (reached actions).lexer.lookahead.token?.toList
    ((made actions).Pairwise fun earlier later =>
        earlier.position.BelowLimits → earlier.position < later.position) ∧
      ∀ (before : List (Action κ)) (action : Action κ) (after : List (Action κ))
        (position : Position) (failure : Failure), actions = before ++ action :: after →
        (reached before).isOver = false →
        ⟨position, .device failure⟩ ∈ (action.perform (reached before).lexer).response.errors →
        ∃ later, made actions = made (before ++ [action]) ++ later ∧
          (∀ t ∈ made (before ++ [action]), t.position.BelowLimits →
            t.position.line < position.line) ∧
          (position.line < Position.countLimit → ∀ t ∈ later, position.line < t.position.line) := by
  intro reached made
  have hordered (actions : List (Action κ)) : (reached actions).ledger.Ordered := by
    have hreaches : Ledger.Reaches (fun _ => True)
        (.ofLexer ((Lexer.ofReader reader).addRules rules)) (reached actions).ledger :=
      reaches_transcript _ actions fun _ _ _ _ => trivial
    exact hreaches.preserves (Ledger.ordered_ofReader reader rules) fun _ _ hmove h => h.move hmove
  refine ⟨(hordered actions).pairwise, ?_⟩
  rintro before action after position failure rfl hgoing herror
  have hlexer : (reached (before ++ [action])).lexer =
      (action.perform (reached before).lexer).lexer := by
    show (Lexer.transcript _ (before ++ [action])).lexer = _
    rw [Lexer.transcript_concat, Transcript.perform_of_not_isOver hgoing]
  obtain ⟨hposition, hcolumn, hrest⟩ := Action.position_of_device herror
  rw [← hlexer] at hposition hrest
  have hbehind : (reached (before ++ [action])).ledger.lexer.IsBehind position.line :=
    .inr ⟨congrArg Position.line hposition.symm, hrest⟩
  have hreaches : Ledger.Reaches (fun _ => True) (reached (before ++ [action])).ledger
      (reached (before ++ [action] ++ after)).ledger :=
    reaches_transcript_append _ (before ++ [action]) after fun _ _ _ _ => trivial
  rw [List.append_assoc] at hreaches
  obtain ⟨later, hmade, hlater⟩ := hreaches.exists_later hbehind
  refine ⟨later, hmade, fun t ht hbelow => ?_, fun hlimit => (hlater hlimit).2⟩
  have hpassed : t.position < (reached (before ++ [action])).lexer.position :=
    (hordered (before ++ [action])).passed t ht hbelow
  rw [hposition] at hpassed
  exact Position.line_lt_of_lt hpassed hcolumn

/-- Two tokens of one line, a line that is torn by a failure, and a token that is taken long after
it was found. -/
theorem ordered_transcript_torn :
    let reader : Reader :=
      ⟨[.data [49, 32, 50, 10, 51], .failure ⟨"TimedOut", "slow"⟩, .data [52, 10, 53]]⟩
    let rules : List (Rule Unit) := (Rule.make () "(\\d)" false).toOption.toList
    let reached := ((Lexer.ofReader reader).addRules rules).transcript
    let made := fun actions => (reached actions).removed ++
      (reached actions).lexer.lookahead.token?.toList
    made [.tokens 4, .request .peek, .skipLine, .request .nextToken] =
        [⟨(), "1", ⟨1, 0⟩⟩, ⟨(), "2", ⟨1, 1⟩⟩, ⟨(), "4", ⟨3, 0⟩⟩, ⟨(), "5", ⟨4, 0⟩⟩] ∧
      ⟨⟨2, 0⟩, .device ⟨"TimedOut", "slow"⟩⟩ ∈
        (Action.perform (.tokens 4) (reached []).lexer).response.errors ∧
      ∃ later, made [.tokens 4, .request .peek, .skipLine, .request .nextToken] =
          made [.tokens 4] ++ later ∧
        (∀ t ∈ made [.tokens 4], t.position.line < 2) ∧ ∀ t ∈ later, 2 < t.position.line := by
  intro reader rules reached made
  have herror : ⟨⟨2, 0⟩, .device ⟨"TimedOut", "slow"⟩⟩ ∈
      (Action.perform (.tokens 4) (reached []).lexer).response.errors := by decide +kernel
  have hbelow : ∀ t ∈ made [.tokens 4], t.position.BelowLimits := by decide +kernel
  refine ⟨by decide +kernel, herror, ?_⟩
  obtain ⟨later, hmade, hbefore, hlater⟩ := (ordered_transcript reader rules [.tokens 4,
    .request .peek, .skipLine, .request .nextToken]).2 [] (.tokens 4) [.request .peek, .skipLine,
    .request .nextToken] ⟨2, 0⟩ ⟨"TimedOut", "slow"⟩ rfl (by decide +kernel) herror
  exact ⟨later, hmade, fun t ht => hbefore t ht (hbelow t ht), hlater (by decide)⟩

end Transcripts

end Linewise
