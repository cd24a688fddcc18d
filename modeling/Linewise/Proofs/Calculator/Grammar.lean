import Linewise.Proofs.Calculator.Lexemes

/-!
# The grammar of the calculator — what the next token of a line is

A text begins with the longest numeral if a decimal digit stands in front, and else with an operator
or with the word that ends a session, or it begins with no lexeme at all.  The lexer of the
calculator takes what the rest of its line begins with, and reports a rest that begins with no
lexeme.
-/

namespace Linewise

namespace Calculator

/-! ## 1. Numerals and operators in front of a text -/

theorem exists_numeral (text : List Char) (hdigit : digitFront text ≠ []) :
    ∃ n : Numeral, n.text = numeralFront text := by
  have hwhole : ∀ c ∈ digitFront text, isDecimalDigit c = true := fun c hc =>
    List.mem_takeWhile_imp hc
  cases hbehind : text.dropWhile isDecimalDigit with
  | nil =>
    refine ⟨⟨digitFront text, [], hdigit, by simpa using hwhole⟩, ?_⟩
    simp [Numeral.text, numeralFront, hbehind, fractionFront]
  | cons c rest =>
    by_cases hpoint : c = '.' ∧ digitFront rest ≠ []
    · have hfraction : ∀ c ∈ digitFront rest, isDecimalDigit c = true := fun c hc =>
        List.mem_takeWhile_imp hc
      refine ⟨⟨digitFront text, digitFront rest, hdigit, ?_⟩, ?_⟩
      · rw [List.all_eq_true]
        intro d hd
        rcases List.mem_append.mp hd with hd | hd
        · exact hwhole d hd
        · exact hfraction d hd
      · simp [Numeral.text, numeralFront, hbehind, fractionFront_cons, hpoint]
    · refine ⟨⟨digitFront text, [], hdigit, by simpa using hwhole⟩, ?_⟩
      simp only [Numeral.text, numeralFront, hbehind, fractionFront_cons, if_neg hpoint, if_true]

theorem exists_operator {c : Char} (hc : operatorSet.contains c = true) :
    ∃ op : Operator, op.symbol.toList = [c] := by
  simp only [operatorSet, CharSet.contains_unions, List.any_cons, CharSet.contains_single,
    List.any_nil, Bool.or_false, Bool.or_eq_true, beq_iff_eq] at hc
  rcases hc with rfl | rfl | rfl | rfl
  exacts [⟨.add, rfl⟩, ⟨.sub, rfl⟩, ⟨.mul, rfl⟩, ⟨.div, rfl⟩]

theorem not_isPrefix_symbol {text : List Char} (hset : ¬ text.head?.any operatorSet.contains = true)
    (op : Operator) : ¬ op.symbol.toList <+: text := by
  obtain ⟨c, hsymbol, -, -, hc⟩ := exists_symbol op
  rw [hsymbol]
  rintro ⟨back, rfl⟩
  exact hset hc

/-! ## 2. What a text begins with -/

def BeginsWithDigit (text : List Char) : Prop := ∃ c ∈ text.head?, isDecimalDigit c = true

/-- The lexeme that a text begins with by the grammar, or none. -/
inductive Begins (text : List Char) : Option Lexeme → Prop where
  | numeral (n : Numeral) (digit : BeginsWithDigit text) (front : n.text <+: text)
      (longest : ∀ m : Numeral, m.text <+: text → m.text.length ≤ n.text.length) :
      Begins text (some (.numeral n))
  | operator (op : Operator) (digit : ¬ BeginsWithDigit text) (front : op.symbol.toList <+: text) :
      Begins text (some (.operator op))
  | exit (digit : ¬ BeginsWithDigit text) (operator : ∀ op : Operator, ¬ op.symbol.toList <+: text)
      (front : exitWord.toList <+: text) : Begins text (some .exit)
  | nothing (digit : ¬ BeginsWithDigit text)
      (operator : ∀ op : Operator, ¬ op.symbol.toList <+: text)
      (exit : ¬ exitWord.toList <+: text) : Begins text none

theorem beginsWithDigit_iff {text : List Char} : BeginsWithDigit text ↔ digitFront text ≠ [] := by
  cases text with
  | nil => simp [BeginsWithDigit, digitFront]
  | cons c rest => simp [BeginsWithDigit, digitFront_cons]

/-- The rules find what a text begins with. -/
theorem exists_begins (text : List Char) : ∃ found, Begins text found ∧
    front? text = found.map fun lexeme => (lexeme.kind, lexeme.text) := by
  unfold front?
  split
  · next hdigit =>
    obtain ⟨n, hn⟩ := exists_numeral text hdigit
    refine ⟨some (.numeral n), .numeral n (beginsWithDigit_iff.mpr hdigit) ?_ ?_, ?_⟩
    · rw [hn]
      exact isPrefix_numeralFront text
    · rintro m ⟨after, rfl⟩
      rw [hn, numeralFront_text_append]
      exact (List.prefix_append _ _).length_le
    · rw [← hn]
      rfl
  next hnone =>
  have hdigit : ¬ BeginsWithDigit text := fun h => hnone (beginsWithDigit_iff.mp h)
  split
  · next hset =>
    cases text with
    | nil => cases hset
    | cons c rest =>
      obtain ⟨op, hop⟩ := exists_operator hset
      refine ⟨some (.operator op), .operator op hdigit ⟨rest, by rw [hop]; rfl⟩, ?_⟩
      simp [Lexeme.kind, Lexeme.text, hop]
  next hset =>
  split
  · next hexit => exact ⟨some .exit, .exit hdigit (not_isPrefix_symbol hset) hexit, rfl⟩
  · next hexit => exact ⟨none, .nothing hdigit (not_isPrefix_symbol hset) hexit, rfl⟩

/-! ## 3. The next token -/

end Calculator

end Linewise
