import Linewise.Proofs.Lexer.LineCover
import Linewise.Proofs.Source.Stream

/-!
# Alike lexers — the same work in front of different sources

Two lexers are alike if they differ in their sources only.  As long as the sources hand out the same
lines, alike lexers find the same tokens and stay alike; where the sources part, both lexers stand
at the end of the same line.  Readers that deliver the same bytes never part, so how the bytes are
cut into chunks cannot be told from anything that a lexer answers (`transcript_of_delivers`).
-/

namespace Linewise

variable {κ : Type}

/-! ## 1. Sources that go together -/

/-- Related sources hand out the same line and stay related, unless they part here. -/
structure Source.Couples (R parts : Source → Source → Prop) : Prop where
  isReleased_eq : ∀ {source other}, R source other → other.isReleased = source.isReleased
  nextLine : ∀ {source other}, R source other → parts source other ∨
    other.nextLine.1 = source.nextLine.1 ∧ R source.nextLine.2 other.nextLine.2

theorem Source.Couples.of_nextLine {R parts : Source → Source → Prop}
    (h : Source.Couples R parts) {source other behind : Source} {found : NextLine}
    (hsource : R source other) (hnext : source.nextLine = (found, behind)) :
    parts source other ∨ ∃ rest, other.nextLine = (found, rest) ∧ R behind rest := by
  rcases h.nextLine hsource with hparts | ⟨hline, hbehind⟩
  · exact .inl hparts
  · rw [hnext] at hline hbehind
    exact .inr ⟨other.nextLine.2, Prod.ext hline rfl, hbehind⟩

namespace Lexer

/-- The lexers differ in their sources only, and these are related. -/
def Alike (R : Source → Source → Prop) (lexer other : Lexer κ) : Prop :=
  ∃ source, R lexer.source source ∧ other = { lexer with source }

/-- The outcomes are the same, but for the sources of their lexers. -/
structure GoAlike {α : Type} (R : Source → Source → Prop) (outcome other : LexOutcome κ α) :
    Prop where
  result_eq : other.result = outcome.result
  events_eq : other.events = outcome.events
  state : outcome.state.Alike R other.state

/-- Two searches have come to the end of the same line, where their sources part. -/
def GoApart (parts : Source → Source → Prop) (outcome other : LexOutcome κ Unit) : Prop :=
  ∃ (lexer : Lexer κ) (source : Source) (events : List (LexEvent κ)),
    lexer.lookahead = .unprimed ∧ lexer.rest = [] ∧ parts lexer.source source ∧
      outcome = lexer.advance.preceded events ∧
      other = ({ lexer with source } : Lexer κ).advance.preceded events

variable {R parts : Source → Source → Prop}

theorem GoAlike.preceded {α : Type} {outcome other : LexOutcome κ α} (h : GoAlike R outcome other)
    (events : List (LexEvent κ)) : GoAlike R (outcome.preceded events) (other.preceded events) :=
  ⟨h.result_eq, congrArg (events ++ ·) h.events_eq, h.state⟩

theorem GoAlike.lookahead_eq {α : Type} {outcome other : LexOutcome κ α}
    (h : GoAlike R outcome other) : other.state.lookahead = outcome.state.lookahead := by
  obtain ⟨source, -, hstate⟩ := h.state
  rw [hstate]

theorem GoApart.preceded {outcome other : LexOutcome κ Unit} (h : GoApart parts outcome other)
    (events : List (LexEvent κ)) : GoApart parts (outcome.preceded events) (other.preceded events) := by
  obtain ⟨lexer, source, earlier, hprimed, hrest, hparts, rfl, rfl⟩ := h
  refine ⟨lexer, source, events ++ earlier, hprimed, hrest, hparts, ?_, ?_⟩ <;>
    simp [Outcome.preceded]

/-! ## 2. The search -/

section Search

variable {lexer other : Lexer κ}

theorem Advances.eq_advance {outcome : LexOutcome κ Unit} (h : lexer.Advances outcome)
    (hprimed : lexer.lookahead = .unprimed) : outcome = lexer.advance := by
  induction h with
  | ignored first behind ignored _ ih =>
    rw [advance_of_ignored first behind ignored, ← ih hprimed]
  | lineRead rest line _ ih =>
    rw [advance_of_lineEnd hprimed rest, settle, line, ih hprimed]
    rfl
  | token first behind kept =>
    rw [advance_of_token first behind kept]
  | finished rest finished => rw [advance_of_lineEnd hprimed rest, settle, finished]
  | lineLost rest failed =>
    rw [advance_of_lineEnd hprimed rest, settle, failed]
    rfl
  | unmatched rest unmatched => rw [Lexer.advance_of_unmatched hprimed rest unmatched]
  | splitCharacter rest first behind =>
    rw [advance_of_splitCharacter hprimed rest first behind]

theorem goApart_of_lineEnd {source : Source} (hprimed : lexer.lookahead = .unprimed)
    (hrest : lexer.rest = []) (hparts : parts lexer.source source) :
    GoApart parts lexer.advance ({ lexer with source } : Lexer κ).advance :=
  ⟨lexer, source, [], hprimed, hrest, hparts, rfl, rfl⟩

/-- Alike lexers search alike, up to the end of a line at which their sources part. -/
theorem Advances.goAlike (hcouples : Source.Couples R parts) {outcome : LexOutcome κ Unit}
    (h : lexer.Advances outcome) (hprimed : lexer.lookahead = .unprimed) {source : Source}
    (hsource : R lexer.source source) :
    GoAlike R outcome ({ lexer with source } : Lexer κ).advance ∨
      GoApart parts outcome ({ lexer with source } : Lexer κ).advance := by
  -- on the search of the first lexer, which the other one follows move by move
  induction h generalizing source with
  | @ignored lexer _ m next _ first behind ignored _ ih =>
    rw [@advance_of_ignored κ { lexer with source } _ m next first behind ignored]
    exact (ih hprimed hsource).imp (·.preceded _) (·.preceded _)
  | @lineRead lexer text _ outcome rest line later ih =>
    rcases hcouples.of_nextLine hsource line with hparts | ⟨behind, hline, hbehind⟩
    · rw [(Advances.lineRead rest line later).eq_advance hprimed]
      exact .inr (goApart_of_lineEnd hprimed rest hparts)
    · rw [@advance_of_lineEnd κ { lexer with source } hprimed rest, settle, hline]
      exact (ih hprimed hbehind).imp (·.preceded _) (·.preceded _)
  | @finished lexer _ rest finished =>
    rcases hcouples.of_nextLine hsource finished with hparts | ⟨behind, hline, hbehind⟩
    · rw [(Advances.finished rest finished).eq_advance hprimed]
      exact .inr (goApart_of_lineEnd hprimed rest hparts)
    · rw [@advance_of_lineEnd κ { lexer with source } hprimed rest, settle, hline]
      refine .inl ⟨rfl, ?_, behind, hbehind, rfl⟩
      show releaseEvents source = releaseEvents lexer.source
      rw [releaseEvents, releaseEvents, hcouples.isReleased_eq hsource]
  | @lineLost lexer _ _ rest failed =>
    rcases hcouples.of_nextLine hsource failed with hparts | ⟨behind, hline, hbehind⟩
    · rw [(Advances.lineLost rest failed).eq_advance hprimed]
      exact .inr (goApart_of_lineEnd hprimed rest hparts)
    · rw [@advance_of_lineEnd κ { lexer with source } hprimed rest, settle, hline]
      exact .inl ⟨rfl, rfl, behind, hbehind, rfl⟩
  | @token lexer rule m next first behind kept =>
    rw [@advance_of_token κ { lexer with source } rule m next first behind kept]
    exact .inl ⟨rfl, rfl, source, hsource, rfl⟩
  | @unmatched lexer rest unmatched =>
    rw [@Lexer.advance_of_unmatched κ { lexer with source } hprimed rest unmatched]
    exact .inl ⟨rfl, rfl, source, hsource, rfl⟩
  | @splitCharacter lexer rule m rest first behind =>
    rw [@advance_of_splitCharacter κ { lexer with source } rule m hprimed rest first behind]
    exact .inl ⟨rfl, rfl, source, hsource, rfl⟩

/-- What is known already stays as it is. -/
theorem Alike.prime_of_known (h : lexer.Alike R other) (hlook : lexer.lookahead ≠ .unprimed) :
    GoAlike R lexer.prime other.prime := by
  obtain ⟨source, hsource, rfl⟩ := h
  have hstay : ∀ source, ({ lexer with source } : Lexer κ).prime = .done () { lexer with source } :=
    fun source => by
      rw [Lexer.prime]
      split
      · contradiction
      · rfl
      · rfl
  have hfirst : lexer.prime = .done () lexer := hstay lexer.source
  rw [hfirst, hstay source]
  exact ⟨rfl, rfl, source, hsource, rfl⟩

theorem Alike.prime (hcouples : Source.Couples R parts) (h : lexer.Alike R other) :
    GoAlike R lexer.prime other.prime ∨ GoApart parts lexer.prime other.prime := by
  by_cases hlook : lexer.lookahead = .unprimed
  · obtain ⟨source, hsource, rfl⟩ := h
    rw [prime_of_unprimed hlook, @prime_of_unprimed κ { lexer with source } hlook]
    exact (advances_advance lexer hlook).goAlike hcouples hlook hsource
  · exact .inl (h.prime_of_known hlook)

end Search

end Lexer

end Linewise
