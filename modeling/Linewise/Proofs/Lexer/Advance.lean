import Linewise.Lexer.Stream

/-!
# Looking for a token, one move at a time

`Lexer.advance` scans a whole line before it reads the next one.  `Advances` tells the same search
as single moves: pass an ignored match, read a line, and at last stop for one of five reasons.
An invariant of the search is then a fact about each move.
-/

namespace Linewise

/-! ## 1. The text behind a match -/

theorem Scan.behind?_suffix {m : RuleMatch} {rest next : List Char}
    (hbehind : behind? m rest = some next) : next <:+ rest := by
  rw [behind?, Option.map_eq_some_iff] at hbehind
  obtain ⟨back, hdrop, rfl⟩ := hbehind
  obtain ⟨front, rfl, -⟩ := eq_append_of_dropBytes? hdrop
  exact (trimBlanks_suffix back).trans (List.suffix_append front back)

namespace Lexer

variable {κ : Type}

/-! ## 2. Advancing, after the line has been scanned -/

/-- What follows on a scan of the line: the answer, or the next line if this one is used up. -/
def settle (here : Lexer κ) : Found κ → LexOutcome κ Unit
  | .token t => ⟨.ok (), { here with lookahead := .token t }, []⟩
  | .unmatched => .fail ⟨here.position, .unmatched here.remaining⟩ here
  | .splitCharacter => .fail ⟨here.position, .splitCharacter⟩ here
  | .lineEnd =>
    match here.source.nextLine with
    | (.line text, source) =>
      let next := here.startLine source text
      next.advance.preceded [.lineRead next.position.line (byteLength text)]
    | (.finished, source) =>
      ⟨.ok (), { here with source, lookahead := .endOfInput }, releaseEvents here.source⟩
    | (.failed failure, source) =>
      let next := here.loseLine source
      .fail ⟨next.position, .device failure⟩ next

theorem advance_eq_settle (lexer : Lexer κ) :
    lexer.advance =
      (lexer.scanned.settle (Scan.line lexer.rules lexer.position lexer.rest).found).preceded
        (Scan.line lexer.rules lexer.position lexer.rest).events := by
  have hsource : lexer.scanned.source = lexer.source := rfl
  rw [advance]
  cases hfound : (Scan.line lexer.rules lexer.position lexer.rest).found with
  | token t => simp [settle, Outcome.preceded]
  | unmatched => simp [settle, Outcome.preceded, Outcome.fail]
  | splitCharacter => simp [settle, Outcome.preceded, Outcome.fail]
  | lineEnd =>
    simp only [settle, hsource]
    split
    · next hline => simp [Outcome.preceded, hline]
    · next hend => simp [Outcome.preceded, hend]
    · next hfail => simp [Outcome.preceded, Outcome.fail, hfail]

/-- The lexer behind a match, `next` being the unread text behind it. -/
def pass (lexer : Lexer κ) (m : RuleMatch) (next : List Char) : Lexer κ :=
  { lexer with rest := next, position := lexer.position.advance m.chars }

section Moves

variable {lexer : Lexer κ} {rule : Rule κ} {m : RuleMatch} {next : List Char}

-- An unprimed lexer that scans nothing is left as it is.
theorem scanned_eq_self (hprimed : lexer.lookahead = .unprimed) {found : Found κ}
    (hscan : Scan.line lexer.rules lexer.position lexer.rest =
      ⟨found, lexer.rest, lexer.position, []⟩) : lexer.scanned = lexer := by
  obtain ⟨source, rules, line, rest, position, lookahead⟩ := lexer
  simp only at hprimed hscan
  simp only [scanned, hscan, hprimed]

theorem advance_of_unmatched (hprimed : lexer.lookahead = .unprimed) (hrest : lexer.rest ≠ [])
    (hnone : Rule.firstMatch? lexer.rules lexer.rest = none) :
    lexer.advance = .fail ⟨lexer.position, .unmatched lexer.remaining⟩ lexer := by
  have hscan := Scan.line_of_unmatched lexer.position hrest hnone
  rw [advance_eq_settle, scanned_eq_self hprimed hscan, hscan]
  rfl

theorem advance_of_splitCharacter (hprimed : lexer.lookahead = .unprimed)
    (hrest : lexer.rest ≠ []) (hfirst : Rule.firstMatch? lexer.rules lexer.rest = some (rule, m))
    (hbehind : Scan.behind? m lexer.rest = none) :
    lexer.advance = .fail ⟨lexer.position, .splitCharacter⟩ lexer := by
  have hscan := Scan.line_of_splitCharacter lexer.position hrest hfirst hbehind
  rw [advance_eq_settle, scanned_eq_self hprimed hscan, hscan]
  rfl

theorem advance_of_token
    (hfirst : Rule.firstMatch? lexer.rules lexer.rest = some (rule, m))
    (hbehind : Scan.behind? m lexer.rest = some next) (hkept : rule.ignored = false) :
    lexer.advance =
      ⟨.ok (), { lexer.pass m next with lookahead := .token (rule.tokenAt m lexer.position) },
        [.tokenFound (rule.tokenAt m lexer.position)]⟩ := by
  rw [advance_eq_settle, scanned, Scan.line_of_token lexer.position hfirst hbehind hkept]
  rfl

theorem advance_of_ignored
    (hfirst : Rule.firstMatch? lexer.rules lexer.rest = some (rule, m))
    (hbehind : Scan.behind? m lexer.rest = some next) (hignored : rule.ignored = true) :
    lexer.advance = (lexer.pass m next).advance.preceded [.matchIgnored lexer.position] := by
  rw [advance_eq_settle, advance_eq_settle, scanned,
    Scan.line_of_ignored lexer.position hfirst hbehind hignored]
  rfl

theorem advance_of_lineEnd (hprimed : lexer.lookahead = .unprimed) (hrest : lexer.rest = []) :
    lexer.advance = lexer.settle .lineEnd := by
  have hscan : Scan.line lexer.rules lexer.position lexer.rest =
      ⟨.lineEnd, lexer.rest, lexer.position, []⟩ := by rw [hrest, Scan.line_nil]
  rw [advance_eq_settle, scanned_eq_self hprimed hscan, hscan]
  rfl

end Moves

/-! ## 3. The search as moves -/

/-- The moves of a search from a lexer to its outcome. -/
inductive Advances : Lexer κ → LexOutcome κ Unit → Prop where
  | ignored {lexer : Lexer κ} {rule : Rule κ} {m : RuleMatch} {next : List Char}
      {outcome : LexOutcome κ Unit}
      (first : Rule.firstMatch? lexer.rules lexer.rest = some (rule, m))
      (behind : Scan.behind? m lexer.rest = some next) (ignored : rule.ignored = true)
      (later : Advances (lexer.pass m next) outcome) :
      Advances lexer (outcome.preceded [.matchIgnored lexer.position])
  | lineRead {lexer : Lexer κ} {text : List Char} {source : Source}
      {outcome : LexOutcome κ Unit} (rest : lexer.rest = [])
      (line : lexer.source.nextLine = (.line text, source))
      (later : Advances (lexer.startLine source text) outcome) :
      Advances lexer (outcome.preceded [.lineRead lexer.position.nextLine.line (byteLength text)])
  | token {lexer : Lexer κ} {rule : Rule κ} {m : RuleMatch} {next : List Char}
      (first : Rule.firstMatch? lexer.rules lexer.rest = some (rule, m))
      (behind : Scan.behind? m lexer.rest = some next) (kept : rule.ignored = false) :
      Advances lexer
        ⟨.ok (), { lexer.pass m next with lookahead := .token (rule.tokenAt m lexer.position) },
          [.tokenFound (rule.tokenAt m lexer.position)]⟩
  | finished {lexer : Lexer κ} {source : Source} (rest : lexer.rest = [])
      (finished : lexer.source.nextLine = (.finished, source)) :
      Advances lexer
        ⟨.ok (), { lexer with source, lookahead := .endOfInput }, releaseEvents lexer.source⟩
  | lineLost {lexer : Lexer κ} {failure : Failure} {source : Source} (rest : lexer.rest = [])
      (failed : lexer.source.nextLine = (.failed failure, source)) :
      Advances lexer
        (.fail ⟨lexer.position.nextLine, .device failure⟩ (lexer.loseLine source))
  | unmatched {lexer : Lexer κ} (rest : lexer.rest ≠ [])
      (unmatched : Rule.firstMatch? lexer.rules lexer.rest = none) :
      Advances lexer (.fail ⟨lexer.position, .unmatched lexer.remaining⟩ lexer)
  | splitCharacter {lexer : Lexer κ} {rule : Rule κ} {m : RuleMatch}
      (rest : lexer.rest ≠ [])
      (first : Rule.firstMatch? lexer.rules lexer.rest = some (rule, m))
      (behind : Scan.behind? m lexer.rest = none) :
      Advances lexer (.fail ⟨lexer.position, .splitCharacter⟩ lexer)

/-- The search of an unprimed lexer is made of these moves. -/
theorem advances_advance (lexer : Lexer κ) (hprimed : lexer.lookahead = .unprimed) :
    Advances lexer lexer.advance := by
  by_cases hrest : lexer.rest = []
  · rw [advance_of_lineEnd hprimed hrest, settle]
    rcases hline : lexer.source.nextLine with ⟨text | _ | failure, source⟩
    · -- a new line: the source has become lighter
      have hless := (Source.weight_nextLine_of_line hline).2
      exact .lineRead hrest hline (advances_advance (lexer.startLine source text) hprimed)
    · exact .finished hrest hline
    · exact .lineLost hrest hline
  · rcases hfirst : Rule.firstMatch? lexer.rules lexer.rest with _ | ⟨rule, m⟩
    · rw [advance_of_unmatched hprimed hrest hfirst]
      exact .unmatched hrest hfirst
    rcases hbehind : Scan.behind? m lexer.rest with _ | next
    · rw [advance_of_splitCharacter hprimed hrest hfirst hbehind]
      exact .splitCharacter hrest hfirst hbehind
    by_cases hignored : rule.ignored = true
    · -- the same line: its unread text has become shorter
      have hless := Scan.length_lt_of_behind? hbehind
      rw [advance_of_ignored hfirst hbehind hignored]
      exact .ignored hfirst hbehind hignored (advances_advance (lexer.pass m next) hprimed)
    · have hkept : rule.ignored = false := by simpa using hignored
      rw [advance_of_token hfirst hbehind hkept]
      exact .token hfirst hbehind hkept
termination_by (lexer.source.weight, lexer.rest.length)
decreasing_by
  · exact Prod.Lex.left _ _ hless
  · exact Prod.Lex.right _ hless

/-! ## 4. Priming -/

theorem prime_of_endOfInput {lexer : Lexer κ} (hend : lexer.lookahead = .endOfInput) :
    lexer.prime = .done () lexer := by
  simp [prime, hend]

theorem prime_of_unprimed {lexer : Lexer κ} (hprimed : lexer.lookahead = .unprimed) :
    lexer.prime = lexer.advance := by
  simp [prime, hprimed]

/-- Looking for the next token is a search, unless it is known already. -/
theorem prime_cases (lexer : Lexer κ) :
    lexer.prime = .done () lexer ∨
      lexer.lookahead = .unprimed ∧ lexer.Advances lexer.prime := by
  cases hlook : lexer.lookahead with
  | unprimed =>
    rw [prime_of_unprimed hlook]
    exact .inr ⟨rfl, advances_advance lexer hlook⟩
  | token t => exact .inl (prime_of_token hlook)
  | endOfInput => exact .inl (prime_of_endOfInput hlook)

theorem lookahead_prime_of_error {lexer : Lexer κ} {error : LexError κ}
    (herror : lexer.prime.result = .error error) : lexer.prime.state.lookahead = .unprimed := by
  cases hlook : lexer.lookahead with
  | unprimed =>
    rw [prime_of_unprimed hlook] at herror ⊢
    cases advanced lexer with
    | token t ok => rw [ok] at herror; cases herror
    | endOfInput ok => rw [ok] at herror; cases herror
    | unmatched _ _ lookahead => exact lookahead
    | splitCharacter _ _ lookahead => exact lookahead
    | device _ _ _ lookahead => exact lookahead
  | token t => rw [prime_of_token hlook] at herror; cases herror
  | endOfInput => rw [prime_of_endOfInput hlook] at herror; cases herror

end Lexer

end Linewise
