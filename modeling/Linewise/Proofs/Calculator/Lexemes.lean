import Linewise.Proofs.Calculator.Scanning
import Linewise.Proofs.Lexer.Facing

/-!
# Lexemes — what the tokens of the calculator are written as

A text is laid out as lexemes with blanks in front of each.  Only between two numerals must there be
some.  The calculator's lexer takes the lexemes of such a text one after another, whatever the
blanks are and wherever the lines end.
-/

namespace Linewise

namespace Calculator

/-! ## 1. Lexemes -/

/-- One or more decimal digits, and perhaps a point and one or more digits behind it. -/
structure Numeral where
  whole : List Char
  fraction : List Char
  whole_ne_nil : whole ≠ []
  all_isDecimalDigit : (whole ++ fraction).all isDecimalDigit = true

namespace Numeral

/-- The text of a numeral; there is no point without a digit behind it. -/
def text (n : Numeral) : List Char :=
  n.whole ++ if n.fraction = [] then [] else '.' :: n.fraction

theorem isDecimalDigit_of_mem (n : Numeral) : ∀ c ∈ n.whole ++ n.fraction, isDecimalDigit c = true :=
  List.all_eq_true.mp n.all_isDecimalDigit

theorem isDecimalDigit_whole (n : Numeral) : ∀ c ∈ n.whole, isDecimalDigit c = true := fun c hc =>
  n.isDecimalDigit_of_mem c (List.mem_append_left _ hc)

theorem isDecimalDigit_fraction (n : Numeral) : ∀ c ∈ n.fraction, isDecimalDigit c = true :=
  fun c hc => n.isDecimalDigit_of_mem c (List.mem_append_right _ hc)

end Numeral

inductive Lexeme where
  | numeral (n : Numeral)
  | operator (op : Operator)
  | exit

namespace Lexeme

def kind : Lexeme → Kind
  | .numeral _ => .decimal
  | .operator _ => .operator
  | .exit => .reserved

def text : Lexeme → List Char
  | .numeral n => n.text
  | .operator op => op.symbol.toList
  | .exit => exitWord.toList

end Lexeme

theorem isBlank_of_isDecimalDigit {c : Char} (hdigit : isDecimalDigit c = true) :
    isBlank c = false :=
  RangeTable.containsCode_eq_false_of_apart (by decide +kernel) hdigit

theorem isDecimalDigit_of_isBlank {c : Char} (hblank : isBlank c = true) :
    isDecimalDigit c = false := by
  cases hdigit : isDecimalDigit c with
  | false => rfl
  | true => rw [isBlank_of_isDecimalDigit hdigit] at hblank; cases hblank

theorem Lexeme.isBlank_of_mem_text (lexeme : Lexeme) : ∀ c ∈ lexeme.text, isBlank c = false := by
  cases lexeme with
  | numeral n =>
    intro c hc
    have hsplit : c ∈ n.whole ++ n.fraction ∨ c = '.' := by
      rw [text, Numeral.text] at hc
      rw [List.mem_append]
      split at hc
      · exact .inl (.inl (by simpa using hc))
      · rcases List.mem_append.mp hc with hwhole | hrest
        · exact .inl (.inl hwhole)
        · rcases List.mem_cons.mp hrest with hpoint | hfraction
          · exact .inr hpoint
          · exact .inl (.inr hfraction)
    rcases hsplit with hmem | rfl
    · exact isBlank_of_isDecimalDigit (n.isDecimalDigit_of_mem c hmem)
    · decide
  | operator op =>
    have hsymbol : op.symbol.toList.all (fun c => !isBlank c) = true := by cases op <;> decide
    simpa [text] using hsymbol
  | exit =>
    have hword : exitWord.toList.all (fun c => !isBlank c) = true := by decide
    simpa [text] using hword

/-! ## 2. Matching -/

/-- A numeral does not go on into a text: it begins with neither a digit nor a point. -/
def Closes (after : List Char) : Prop := ∀ c ∈ after.head?, isDecimalDigit c = false ∧ c ≠ '.'

theorem Closes.of_isPrefix {after back : List Char} (h : Closes after) (hback : back <+: after) :
    Closes back := by
  obtain ⟨more, rfl⟩ := hback
  cases back with
  | nil => exact nofun
  | cons c back => exact h

theorem Closes.of_blank {gap : List Char} (hgap : ∀ c ∈ gap, isBlank c = true) (hne : gap ≠ [])
    (after : List Char) : Closes (gap ++ after) := by
  obtain ⟨c, gap, rfl⟩ := List.exists_cons_of_ne_nil hne
  rintro _ ⟨⟩
  have hc := hgap c List.mem_cons_self
  refine ⟨isDecimalDigit_of_isBlank hc, ?_⟩
  rintro rfl
  revert hc
  decide

/-- Whether what follows a lexeme leaves it as it is. -/
def Lexeme.EndsBefore (lexeme : Lexeme) (after : List Char) : Prop :=
  ∀ n, lexeme = .numeral n → Closes after

theorem digitFront_append {front : List Char} (hfront : ∀ c ∈ front, isDecimalDigit c = true)
    (back : List Char) : digitFront (front ++ back) = front ++ digitFront back :=
  List.takeWhile_append_of_pos hfront

theorem numeralFront_append {front : List Char} (hfront : ∀ c ∈ front, isDecimalDigit c = true)
    (back : List Char) : numeralFront (front ++ back) = front ++ numeralFront back := by
  rw [numeralFront, digitFront_append hfront, List.dropWhile_append_of_pos hfront, List.append_assoc]
  rfl

/-- A numeral goes on into what follows it; with a fraction it does not take another one. -/
theorem numeralFront_text_append (n : Numeral) (after : List Char) :
    numeralFront (n.text ++ after) =
      n.text ++ if n.fraction = [] then numeralFront after else digitFront after := by
  rw [Numeral.text, List.append_assoc, numeralFront_append n.isDecimalDigit_whole, List.append_assoc]
  by_cases hnone : n.fraction = []
  · rw [if_pos hnone, if_pos hnone, List.nil_append, List.nil_append]
  · have hfront := digitFront_append n.isDecimalDigit_fraction after
    have hmore : digitFront (n.fraction ++ after) ≠ [] := by simp [hfront, hnone]
    rw [if_neg hnone, if_neg hnone, List.cons_append, numeralFront_cons, isDecimalDigit_point,
      if_neg (by decide), fractionFront_cons, if_pos ⟨rfl, hmore⟩, hfront]
    rfl

theorem digitFront_text_append_ne_nil (n : Numeral) (after : List Char) :
    digitFront (n.text ++ after) ≠ [] := by
  simp [Numeral.text, digitFront_append n.isDecimalDigit_whole, n.whole_ne_nil]

theorem Closes.numeralFront_text {after : List Char} (h : Closes after) (n : Numeral) :
    numeralFront (n.text ++ after) = n.text := by
  have hnone : numeralFront after = [] ∧ digitFront after = [] := by
    cases after with
    | nil => exact ⟨rfl, rfl⟩
    | cons c after =>
      obtain ⟨hdigit, hpoint⟩ := h c rfl
      simp [numeralFront_cons, fractionFront_cons, digitFront_cons, hdigit, hpoint]
  rw [numeralFront_text_append, hnone.1, hnone.2, ite_self, List.append_nil]

theorem exists_symbol (op : Operator) :
    ∃ c, op.symbol.toList = [c] ∧ isDecimalDigit c = false ∧ c ≠ '.' ∧
      operatorSet.contains c = true := by
  cases op <;> exact ⟨_, rfl, by decide +kernel, by decide +kernel, by decide +kernel⟩

theorem isDecimalDigit_exit : isDecimalDigit 'e' = false := by decide +kernel

/-- What stands in front of a text that begins with a lexeme. -/
theorem front?_text (lexeme : Lexeme) {after : List Char} (hafter : lexeme.EndsBefore after) :
    front? (lexeme.text ++ after) = some (lexeme.kind, lexeme.text) := by
  cases lexeme with
  | numeral n =>
    rw [front?, Lexeme.text, if_pos (digitFront_text_append_ne_nil n after),
      (hafter n rfl).numeralFront_text]
    rfl
  | operator op =>
    obtain ⟨c, hsymbol, hdigit, -, hset⟩ := exists_symbol op
    simp [front?, Lexeme.text, Lexeme.kind, hsymbol, digitFront_cons, hdigit, hset]
  | exit =>
    have hset : operatorSet.contains 'e' = false := by decide +kernel
    have htext : Lexeme.exit.text = 'e' :: ['x', 'i', 't'] := rfl
    have hword : exitWord.toList = 'e' :: ['x', 'i', 't'] := rfl
    simp [front?, htext, hword, Lexeme.kind, digitFront_cons, isDecimalDigit_exit, hset]

/-- The rules find every lexeme. -/
theorem finds_text (lexeme : Lexeme) {after : List Char} (hafter : lexeme.EndsBefore after) :
    Rule.Finds rules lexeme.kind lexeme.text after := by
  intro back hback
  have hfront := front?_text lexeme fun n hn => (hafter n hn).of_isPrefix hback
  have hfirst := firstMatch?_rules (lexeme.text ++ back)
  rw [hfront] at hfirst
  exact hfirst

/-- Only behind a numeral, a numeral in front of a text would be read differently. -/
theorem closes_text {lexeme : Lexeme} (hlexeme : ∀ n, lexeme ≠ .numeral n) (after : List Char) :
    Closes (lexeme.text ++ after) := by
  cases lexeme with
  | numeral n => exact absurd rfl (hlexeme n)
  | operator op =>
    obtain ⟨c, hsymbol, hdigit, hpoint, -⟩ := exists_symbol op
    rw [Lexeme.text, hsymbol]
    rintro _ ⟨⟩
    exact ⟨hdigit, hpoint⟩
  | exit =>
    rintro _ ⟨⟩
    exact ⟨isDecimalDigit_exit, by decide⟩

/-! ## 3. Layouts -/

/-- White space and line breaks, or nothing. -/
structure Gap where
  text : List Char
  all_isBlank : text.all isBlank = true

theorem Gap.isBlank_of_mem (gap : Gap) : ∀ c ∈ gap.text, isBlank c = true :=
  List.all_eq_true.mp gap.all_isBlank

/-- A lexeme and the blanks in front of it. -/
structure Placed where
  gap : Gap
  lexeme : Lexeme

def Placed.text (p : Placed) : List Char := p.gap.text ++ p.lexeme.text

/-- A text in which blanks separate neighbouring numerals, from lexemes and what follows them. -/
inductive Laid (after : List Char) : List Placed → List Char → Prop where
  | nil : Laid after [] after
  | cons {p : Placed} {ps : List Placed} {text : List Char} (ends : p.lexeme.EndsBefore text)
      (later : Laid after ps text) : Laid after (p :: ps) (p.text ++ text)

theorem closes_placed {p : Placed} (hp : p.gap.text ≠ [] ∨ ∀ n, p.lexeme ≠ .numeral n)
    (after : List Char) : Closes (p.text ++ after) := by
  rw [Placed.text, List.append_assoc]
  by_cases hgap : p.gap.text = []
  · rw [hgap]
    exact closes_text (hp.resolve_left (not_not_intro hgap)) after
  · exact .of_blank p.gap.isBlank_of_mem hgap _

open Lexer

/-- The lexer of the calculator takes the lexemes of a text one after another. -/
theorem takes_of_faces {lexer : Lexer Kind} {after text : List Char} {bytes : List UInt8}
    {ps : List Placed} (hlaid : Laid after ps text) (hrules : lexer.rules = rules)
    (hfaces : lexer.Faces text bytes) :
    ∃ ts behind, lexer.Takes ts behind ∧ ts.map Token.kind = ps.map (·.lexeme.kind) ∧
      ts.map Token.text = ps.map (String.ofList ·.lexeme.text) ∧ behind.Faces after bytes := by
  induction hlaid generalizing lexer with
  | nil => exact ⟨[], lexer, .nil lexer, rfl, rfl, hfaces⟩
  | @cons p ps text ends later ih =>
    rw [Placed.text, List.append_assoc] at hfaces
    obtain ⟨t, hnext, hkind, htext, hbehind⟩ :=
      (hfaces.of_gap p.gap.isBlank_of_mem).nextToken_of_finds p.lexeme.isBlank_of_mem_text
        (hrules ▸ finds_text p.lexeme ends)
    obtain ⟨ts, behind, htakes, hkinds, htexts, hafter⟩ :=
      ih ((rules_nextToken lexer).trans hrules) hbehind
    exact ⟨t :: ts, behind, .cons hnext htakes, by simp [hkind, hkinds], by simp [htext, htexts],
      hafter⟩

end Calculator

end Linewise
