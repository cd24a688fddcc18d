import Linewise.Proofs.Lexer.Ledger
import Linewise.Proofs.Lexer.Taking

/-!
# Found tokens — what holds of every token that the rules can find

A token is made of a first match of the rules and of nothing else.  So what holds of the token of
every match holds of each token that a lexer finds, holds or gives away, whatever the source
delivers and whatever is asked, as long as no rules are added.
-/

namespace Linewise

variable {κ : Type} {P : Token κ → Prop}

/-- Whether the tokens of all first matches of the rules have a property. -/
def Rule.FindOnly (P : Token κ → Prop) (rules : List (Rule κ)) : Prop :=
  ∀ text rule m, firstMatch? rules text = some (rule, m) → ∀ position, P (rule.tokenAt m position)

namespace Lexer

/-- The rules find tokens with the property only, and the token that is held is none or one of
these. -/
structure Holds (P : Token κ → Prop) (lexer : Lexer κ) : Prop where
  finds : Rule.FindOnly P lexer.rules
  held : ∀ t ∈ lexer.lookahead.token?, P t

variable {lexer after : Lexer κ}

theorem Holds.of_unprimed (hfinds : Rule.FindOnly P lexer.rules)
    (hprimed : lexer.lookahead = .unprimed) : lexer.Holds P := by
  refine ⟨hfinds, ?_⟩
  rw [hprimed]
  nofun

theorem Holds.of_advances {outcome : LexOutcome κ Unit} (h : lexer.Advances outcome)
    (hfinds : Rule.FindOnly P lexer.rules) (hprimed : lexer.lookahead = .unprimed) :
    outcome.state.Holds P := by
  induction h with
  | ignored _ _ _ _ ih => exact ih hfinds hprimed
  | lineRead _ _ _ ih => exact ih hfinds hprimed
  | @token lexer rule m _ first =>
    refine ⟨hfinds, ?_⟩
    rintro _ ⟨⟩
    exact hfinds _ _ _ first lexer.position
  | finished => exact ⟨hfinds, nofun⟩
  | lineLost => exact .of_unprimed hfinds hprimed
  | unmatched => exact .of_unprimed hfinds hprimed
  | splitCharacter => exact .of_unprimed hfinds hprimed

/-! ## 1. Requests -/

namespace Holds

variable (h : lexer.Holds P)

include h

theorem prime : lexer.prime.state.Holds P := by
  rcases lexer.prime_cases with hknown | ⟨hprimed, hsearch⟩
  · rw [hknown]
    exact h
  · exact of_advances hsearch h.finds hprimed

theorem nextToken : lexer.nextToken.state.Holds P := by
  cases primed lexer with
  | token t ok lookahead =>
    rw [nextToken_of_token ok lookahead]
    exact of_unprimed h.prime.finds rfl
  | endOfInput ok lookahead => rw [nextToken_of_endOfInput ok lookahead]; exact h.prime
  | failed error result => rw [nextToken_of_error result]; exact h.prime

theorem of_nextToken {t : Token κ} (hnext : lexer.nextToken.result = .ok (some t)) : P t := by
  have hlook := (prime_of_nextToken hnext).2
  exact h.prime.held t (by rw [hlook]; rfl)

theorem skipLine : lexer.skipLine.1.Holds P := by
  refine ⟨h.finds, ?_⟩
  rw [Lexer.skipLine]
  intro t ht
  cases hlook : lexer.lookahead <;> rw [hlook] at ht <;> cases ht

theorem of_takes {ts : List (Token κ)} (htakes : lexer.Takes ts after) : ∀ t ∈ ts, P t := by
  induction htakes with
  | nil => nofun
  | cons first _ ih =>
    intro t ht
    rcases List.mem_cons.mp ht with rfl | hlater
    · exact h.of_nextToken first
    · exact ih h.nextToken t hlater

end Holds

end Lexer

/-! ## 2. Transcripts -/

/-- A move that adds no rules finds a token with the property, if it finds one. -/
theorem Ledger.Move.holds {ledger next : Ledger κ} (hmove : Ledger.Move (fun _ => False) ledger next)
    (h : ledger.lexer.Holds P ∧ ∀ t, LexEvent.tokenFound t ∈ ledger.events → P t) :
    next.lexer.Holds P ∧ ∀ t, LexEvent.tokenFound t ∈ next.events → P t := by
  obtain ⟨hholds, hfound⟩ := h
  have hbehind {events : List (LexEvent κ)} (hevents : ∀ t, LexEvent.tokenFound t ∈ events → P t) :
      ∀ t, LexEvent.tokenFound t ∈ ledger.events ++ events → P t := by
    intro t ht
    rcases List.mem_append.mp ht with hbefore | hlast
    · exact hfound t hbefore
    · exact hevents t hlast
  cases hmove with
  | ignored primed first => exact ⟨.of_unprimed hholds.finds primed, hbehind (by simp)⟩
  | @token rule m next primed first =>
    have hmatch := hholds.finds _ _ _ first ledger.lexer.position
    refine ⟨⟨hholds.finds, ?_⟩, hbehind ?_⟩
    · rintro _ ⟨⟩
      exact hmatch
    · intro t ht
      cases List.mem_singleton.mp ht
      exact hmatch
  | lineRead primed => exact ⟨.of_unprimed hholds.finds primed, hbehind (by simp)⟩
  | lineLost primed => exact ⟨.of_unprimed hholds.finds primed, hfound⟩
  | finished primed =>
    refine ⟨⟨hholds.finds, nofun⟩, hbehind ?_⟩
    rw [Lexer.releaseEvents]
    split <;> simp
  | taken held events quiet =>
    refine ⟨.of_unprimed hholds.finds rfl, hbehind ?_⟩
    rcases quiet with rfl | rfl <;> simp
  | skipped =>
    refine ⟨hholds.skipLine, hbehind ?_⟩
    rw [Lexer.skipLine]
    simp
  | rulesAdded rules fit =>
    obtain rfl : rules = [] := List.eq_nil_iff_forall_not_mem.mpr fit
    refine ⟨⟨?_, hholds.held⟩, hfound⟩
    simpa [Lexer.addRules] using hholds.finds

/-- Every token that is found in the course of actions that add no rules has the property. -/
theorem Lexer.Holds.of_tokenFound [DecidableEq κ] {lexer : Lexer κ} (h : lexer.Holds P)
    {actions : List (Action κ)} (hadded : ∀ action ∈ actions, action.added = []) {t : Token κ}
    (ht : LexEvent.tokenFound t ∈ (lexer.transcript actions).events) : P t := by
  have hreaches : Ledger.Reaches (fun _ => False) (.ofLexer lexer) (lexer.transcript actions).ledger :=
    reaches_transcript lexer actions fun action haction rule hrule => by
      rw [hadded action haction] at hrule
      cases hrule
  have hkept := hreaches.preserves (P := fun ledger => ledger.lexer.Holds P ∧
    ∀ t, LexEvent.tokenFound t ∈ ledger.events → P t) ⟨h, nofun⟩ fun _ _ hmove => hmove.holds
  exact hkept.2 t ht

end Linewise
