import Linewise.Lexer.Scan

/-!
# First matches — what the lexer takes from the front of a text

The match that the lexer goes by is the non-empty match of the first rule that has one.  Where it
begins at the beginning of the text, its lexeme is a beginning of the text, and the bytes dropped
for it are the bytes of the lexeme.
-/

namespace Linewise

namespace Rule

variable {κ : Type} {rule : Rule κ} {rules : List (Rule κ)} {text : List Char} {m : RuleMatch}

theorem firstMatch?_eq_some_iff :
    firstMatch? rules text = some (rule, m) ↔
      ∃ before after, rules = before ++ rule :: after ∧
        (∀ earlier ∈ before, earlier.matchStart? text = none) ∧
        rule.matchStart? text = some m := by
  simp only [firstMatch?, List.findSome?_eq_some_iff, Option.map_eq_some_iff, Prod.mk.injEq,
    Option.map_eq_none_iff]
  constructor
  · rintro ⟨before, _, after, hrules, ⟨_, hmatch, rfl, rfl⟩, hbefore⟩
    exact ⟨before, after, hrules, hbefore, hmatch⟩
  · rintro ⟨before, after, hrules, hbefore, hmatch⟩
    exact ⟨before, rule, after, hrules, ⟨m, hmatch, rfl, rfl⟩, hbefore⟩

theorem matchStart?_of_firstMatch? (hfirst : firstMatch? rules text = some (rule, m)) :
    rule ∈ rules ∧ rule.matchStart? text = some m := by
  obtain ⟨before, after, rfl, -, hmatch⟩ := firstMatch?_eq_some_iff.mp hfirst
  exact ⟨by simp, hmatch⟩

theorem matchStart?_eq_some_iff :
    rule.matchStart? text = some m ↔
      ∃ found, rule.compiled.find? text = some found ∧ m.start = found.start ∧
        m.lexeme = found.text text ∧ m.captured = found.groupText 1 text := by
  obtain ⟨start, lexeme, captured, hne⟩ := m
  simp only [matchStart?, Option.bind_eq_bind, Option.bind_eq_some_iff]
  constructor
  · rintro ⟨found, hfind, hsome⟩
    split at hsome
    · cases hsome
    · cases hsome
      exact ⟨found, hfind, rfl, rfl, rfl⟩
  · rintro ⟨found, hfind, rfl, rfl, rfl⟩
    exact ⟨found, hfind, by rw [dif_neg hne]⟩

theorem lexeme_prefix (hmatch : rule.matchStart? text = some m) (hstart : m.start = 0) :
    m.lexeme <+: text := by
  obtain ⟨found, -, hfound, hlexeme, -⟩ := matchStart?_eq_some_iff.mp hmatch
  rw [hlexeme, Match.text, ← hfound, hstart, List.drop_zero]
  exact List.take_prefix _ _

/-- What is dropped for a match of an anchored rule is its lexeme and the blanks behind it. -/
theorem behind?_of_isAnchored (hanchored : rule.IsAnchored)
    (hmatch : rule.matchStart? text = some m) :
    ∃ back, text = m.lexeme ++ back ∧ Scan.behind? m text = some (trimBlanks back) := by
  obtain ⟨back, rfl⟩ := lexeme_prefix hmatch (hanchored text m hmatch)
  refine ⟨back, rfl, ?_⟩
  rw [Scan.behind?, RuleMatch.bytes, dropBytes?_append]
  rfl

end Rule

end Linewise
