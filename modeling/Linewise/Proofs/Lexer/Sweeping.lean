import Linewise.Proofs.Lexer.Recovery
import Linewise.Proofs.Lexer.Taking

/-!
# Sweeping — a lexer by what it meets

Whoever takes tokens one after another, and skips the rest of a line behind text that no rule matches,
needs to know nothing of a lexer but the items of its sweep.  `Meets` says what the first item tells
of the lexer.  In a text no failure is met, however it arrives.
-/

namespace Linewise

variable {κ : Type}

namespace Lexer

variable {lexer final : Lexer κ}

/-! ## 1. The first item -/

/-- What a lexer meets up to the end of input, where it is the lexer `final`: nothing, or an item
and what it meets behind that. -/
inductive Meets (lexer final : Lexer κ) : List (StreamItem κ) → Prop where
  | token {t : Token κ} {later : List (StreamItem κ)} (ok : lexer.prime.result = .ok ())
      (lookahead : lexer.prime.state.lookahead = .token t)
      (sweep : lexer.nextToken.state.sweep = (later, final)) : Meets lexer final (.ok t :: later)
  | endOfInput (ok : lexer.prime.result = .ok ())
      (lookahead : lexer.prime.state.lookahead = .endOfInput) (state : lexer.prime.state = final) :
      Meets lexer final []
  | unmatched {position : Position} {remainder : String} {later : List (StreamItem κ)}
      (result : lexer.prime.result = .error ⟨position, .unmatched remainder⟩)
      (sweep : lexer.prime.state.skipLine.1.sweep = (later, final)) :
      Meets lexer final (.error ⟨position, .unmatched remainder⟩ :: later)
  | failed {position : Position} {failure : Failure} {later : List (StreamItem κ)}
      (result : lexer.prime.result = .error ⟨position, .device failure⟩)
      (sweep : lexer.prime.state.sweep = (later, final)) :
      Meets lexer final (.error ⟨position, .device failure⟩ :: later)

theorem meets_of_sweep (hanchored : ∀ rule ∈ lexer.rules, rule.IsAnchored)
    {items : List (StreamItem κ)} (hsweep : lexer.sweep = (items, final)) :
    lexer.Meets final items := by
  rw [sweep_eq] at hsweep
  cases primed lexer with
  | token t ok lookahead =>
    have hnext := nextToken_of_token ok lookahead
    rw [hnext] at hsweep
    cases hsweep
    exact .token ok lookahead (by rw [hnext])
  | endOfInput ok lookahead =>
    rw [nextToken_of_endOfInput ok lookahead] at hsweep
    cases hsweep
    exact .endOfInput ok lookahead rfl
  | failed error result =>
    rw [nextToken_of_error result] at hsweep
    obtain ⟨position, cause⟩ := error
    cases cause with
    | unmatched remainder =>
      cases hsweep
      exact .unmatched result rfl
    | device failure =>
      cases hsweep
      exact .failed result rfl
    | unexpected kind text found => exact absurd result prime_ne_unexpected
    | splitCharacter => exact absurd result (prime_ne_splitCharacter hanchored position)

/-- Looking for the next token first makes no difference to what is met. -/
theorem sweep_prime (hok : lexer.prime.result = .ok ()) : lexer.prime.state.sweep = lexer.sweep := by
  apply Agrees.sweep_eq
  rw [Agrees, prime_prime_of_ok hok]
  exact ⟨hok.symm, rfl⟩

theorem sweep_of_endOfInput (hend : lexer.lookahead = .endOfInput) : lexer.sweep = ([], lexer) := by
  rw [sweep_eq, nextToken_of_known_end hend]
  rfl

/-- Tokens that can be taken one after another are met in this order. -/
theorem sweep_of_takes {after : Lexer κ} {ts : List (Token κ)} (htakes : lexer.Takes ts after) :
    lexer.sweep = (ts.map .ok ++ after.sweep.1, after.sweep.2) := by
  induction htakes with
  | nil => rfl
  | cons first _ ih =>
    rw [sweep_eq, first, ih]
    rfl

end Lexer

/-! ## 2. Texts -/

/-- The source hands out what is left of a text. -/
def Source.OfText (source : Source) : Prop :=
  source = .released ∨
    ∃ (reader : Reader) (text : List Char), source = .reading reader ∧
      reader.Delivers (encodeUtf8 text)

theorem Source.OfText.nextLine {source : Source} (h : source.OfText) :
    (∀ failure, source.nextLine.1 ≠ .failed failure) ∧ source.nextLine.2.OfText := by
  rcases h with rfl | ⟨reader, text, rfl, hdelivers⟩
  · exact ⟨nofun, .inl rfl⟩
  · by_cases htext : text = []
    · subst htext
      rw [nextLine_of_delivers_nil hdelivers]
      exact ⟨nofun, .inl rfl⟩
    · rw [← List.append_nil (encodeUtf8 text)] at hdelivers
      obtain ⟨here, trail, later, rest, -, hnext, hrest, -⟩ :=
        nextLine_of_text hdelivers htext (.inl rfl)
      rw [List.append_nil] at hrest
      rw [hnext]
      exact ⟨nofun, .inr ⟨rest, later, rfl, hrest⟩⟩

namespace Lexer

variable {lexer final : Lexer κ}

theorem Advances.ofText {outcome : LexOutcome κ Unit} (h : lexer.Advances outcome)
    (htext : lexer.source.OfText) :
    outcome.state.source.OfText ∧
      ∀ position failure, outcome.result ≠ .error ⟨position, .device failure⟩ := by
  induction h with
  | ignored _ _ _ _ ih => exact ih htext
  | lineRead rest line _ ih =>
    have hnext := htext.nextLine.2
    rw [line] at hnext
    exact ih hnext
  | token => exact ⟨htext, nofun⟩
  | finished rest finished =>
    have hnext := htext.nextLine.2
    rw [finished] at hnext
    exact ⟨hnext, nofun⟩
  | lineLost rest failed =>
    have hnext := htext.nextLine.1
    rw [failed] at hnext
    exact absurd rfl (hnext _)
  | unmatched => exact ⟨htext, fun _ _ h => by cases h⟩
  | splitCharacter => exact ⟨htext, fun _ _ h => by cases h⟩

theorem ofText_prime (htext : lexer.source.OfText) :
    lexer.prime.state.source.OfText ∧
      ∀ position failure, lexer.prime.result ≠ .error ⟨position, .device failure⟩ := by
  rcases lexer.prime_cases with hknown | ⟨-, hsearch⟩
  · rw [hknown]
    exact ⟨htext, fun _ _ h => by cases h⟩
  · exact hsearch.ofText htext

/-- In a text nothing is met but tokens and text that no rule matches. -/
theorem unmatched_of_mem_sweep (hanchored : ∀ rule ∈ lexer.rules, rule.IsAnchored)
    (htext : lexer.source.OfText) {items : List (StreamItem κ)}
    (hsweep : lexer.sweep = (items, final)) {error : LexError κ} (herror : .error error ∈ items) :
    ∃ position remainder, error = ⟨position, .unmatched remainder⟩ := by
  induction items generalizing lexer with
  | nil => cases herror
  | cons item items ih =>
    obtain ⟨hsource, hdevice⟩ := ofText_prime htext
    cases meets_of_sweep hanchored hsweep with
    | token ok lookahead later =>
      rcases List.mem_cons.mp herror with hfirst | hlater
      · cases hfirst
      · refine ih (by rwa [rules_nextToken]) ?_ later hlater
        rw [nextToken_of_token ok lookahead]
        exact hsource
    | @unmatched position remainder _ result later =>
      rcases List.mem_cons.mp herror with hfirst | hlater
      · cases hfirst
        exact ⟨position, remainder, rfl⟩
      · have hskip : lexer.prime.state.skipLine.1.source.OfText := hsource
        refine ih ?_ hskip later hlater
        show ∀ rule ∈ lexer.prime.state.rules, rule.IsAnchored
        rwa [rules_prime]
    | failed result => exact absurd result (hdevice _ _)

end Lexer

end Linewise
