import Linewise.Proofs.Lexer.Supply
import Linewise.Proofs.Lexer.WellFormed

/-!
# Unread input — a lexer takes no more lines than it counts

The reader of a lexer has always delivered as many whole lines as the lexer counts, as far as line
numbers go.  A lexer that has a token, or has just given one away, counts up to the line of that token, so nothing behind
this line has been read.
-/

namespace Linewise

/-! ## 1. Bytes and their lines -/

variable {κ : Type} {lexer : Lexer κ} {bytes : List UInt8}

/-! ## 2. The lines taken -/

/-- The lexer stands on the line with the number `count`, and its source has taken so many of the
lines of `bytes`, unless it has been released. -/
structure Lexer.HasRead (lexer : Lexer κ) (bytes : List UInt8) (count : Nat) : Prop where
  line_eq : lexer.position.IsOnLine count
  unread : ∀ reader, lexer.source = .reading reader → ∃ rest, reader.Delivers rest ∧
    segments rest = (segments bytes).drop count ∧ count ≤ (segments bytes).length

namespace Lexer.HasRead

variable {count : Nat}

theorem ofReader (bytes : List UInt8) (rules : List (Rule κ)) :
    ((Lexer.ofReader (.ofBytes bytes)).addRules rules).HasRead bytes 0 where
  line_eq := rfl
  unread := by
    rintro reader ⟨rfl⟩
    exact ⟨bytes, Reader.delivers_ofBytes bytes, rfl, Nat.zero_le _⟩

/-- A line that is read or lost is the first of those that were left. -/
theorem next (h : lexer.HasRead bytes count) {found : NextLine} {source : Source}
    (hnext : lexer.source.nextLine = (found, source)) (hfound : found ≠ .finished) {behind : Lexer κ}
    (hsource : behind.source = source) (hposition : behind.position = lexer.position.nextLine) :
    behind.HasRead bytes (count + 1) := by
  refine ⟨hposition ▸ h.line_eq.nextLine, ?_⟩
  cases hhere : lexer.source with
  | released =>
    rw [hhere] at hnext
    cases hnext
    exact absurd rfl hfound
  | reading reader =>
    obtain ⟨rest, hrest, hsegments, hcount⟩ := h.unread reader hhere
    have hne : rest ≠ [] := by
      rintro rfl
      rw [hhere, Source.nextLine_of_delivers_nil hrest] at hnext
      cases hnext
      exact hfound rfl
    obtain ⟨later, hlater, -, hdelivers⟩ := Source.nextLine_of_delivers hrest hne
    rw [hhere, hlater] at hnext
    cases hnext
    rw [segments_of_ne_nil hne] at hsegments
    have hless : count < (segments bytes).length := by
      by_contra hbeyond
      rw [List.drop_eq_nil_of_le (Nat.le_of_not_lt hbeyond)] at hsegments
      cases hsegments
    rintro reader' hreader'
    obtain rfl : later = reader' := by rw [hsource] at hreader'; cases hreader'; rfl
    refine ⟨_, hdelivers, ?_, hless⟩
    rw [← List.tail_drop, ← hsegments]
    rfl

theorem move {allowed : Rule κ → Prop} {ledger next : Ledger κ}
    (h : ledger.lexer.HasRead bytes count) (hmove : Ledger.Move allowed ledger next) :
    ∃ count, next.lexer.HasRead bytes count := by
  cases hmove with
  | lineRead primed rest line => exact ⟨count + 1, h.next line (by simp) rfl rfl⟩
  | lineLost primed rest failed => exact ⟨count + 1, h.next failed (by simp) rfl rfl⟩
  | finished primed rest finished =>
    -- nothing is claimed of a source that has been released
    obtain rfl := Source.eq_released_of_nextLine_finished finished
    exact ⟨count, h.line_eq, nofun⟩
  | _ => exact ⟨count, h.line_eq, h.unread⟩

theorem of_reaches {allowed : Rule κ → Prop} {first last : Ledger κ}
    (hreaches : Ledger.Reaches allowed first last) (h : first.lexer.HasRead bytes count) :
    ∃ count, last.lexer.HasRead bytes count :=
  hreaches.preserves (P := fun ledger => ∃ count, ledger.lexer.HasRead bytes count) ⟨count, h⟩
    fun _ _ hmove ⟨_, h⟩ => h.move hmove

end Lexer.HasRead

/-! ## 3. The line of a token -/

/-- The lexer has come to the line of a token and no further, and still has its source. -/
structure Lexer.StandsAt (lexer : Lexer κ) (t : Token κ) : Prop where
  line_eq : lexer.position.line = t.position.line
  reading : lexer.isReleased = false

section Actions

variable [DecidableEq κ] {t : Token κ}

theorem Lexer.HasRead.perform {count : Nat} (h : lexer.HasRead bytes count) (action : Action κ) :
    ∃ count, (action.perform lexer).lexer.HasRead bytes count := by
  have hreaches : Ledger.Reaches (fun _ => True) (.ofLexer lexer) _ :=
    reaches_ledger_perform (Transcript.ofLexer lexer) action fun _ _ => trivial
  rw [Transcript.ledger_perform rfl] at hreaches
  exact h.of_reaches hreaches

end Actions

end Linewise
