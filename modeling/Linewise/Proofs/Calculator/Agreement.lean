import Linewise.Proofs.Calculator.Calculation
import Linewise.Proofs.Calculator.Grammar

/-!
# Agreement — which tokens can be evaluated

Each token that the calculator's lexer finds is written as a lexeme.  The texts of operators are
those of the four operations.  Numbers are where lexer and evaluation do not agree: the lexer takes
decimal digits of every script for digits, while only a number in ASCII can be read.
-/

namespace Linewise

namespace Calculator

/-! ## 1. The tokens that are found -/

/-- A token that is written as a lexeme of its kind. -/
def IsLexeme (t : Token Kind) : Prop :=
  ∃ lexeme : Lexeme, t.kind = lexeme.kind ∧ t.text = String.ofList lexeme.text

theorem findOnly_rules : Rule.FindOnly IsLexeme rules := by
  intro text rule m hfirst position
  obtain ⟨found, -, hfront⟩ := exists_begins text
  have hrules := firstMatch?_rules text
  rw [hfirst, hfront] at hrules
  cases found with
  | none => cases hrules
  | some lexeme =>
    obtain ⟨_, _, hkind, -, hmatch⟩ := hrules
    cases hmatch
    exact ⟨lexeme, hkind, rfl⟩

/-! ## 2. Numbers that are not in ASCII -/

/-- The characters of ASCII that are no digits. -/
def otherAscii : RangeTable := ⟨[(0, 47), (58, 127)], by decide⟩

theorem otherAscii_of_isDecimalDigit {c : Char} (hdigit : isDecimalDigit c = true) :
    otherAscii.contains c = false :=
  RangeTable.containsCode_eq_false_of_apart (by decide +kernel) hdigit

theorem toLower_of_isDecimalDigit {c : Char} (hdigit : isDecimalDigit c = true) : c.toLower = c := by
  have hother := otherAscii_of_isDecimalDigit hdigit
  delta Char.toLower
  rw [dif_neg]
  rintro ⟨hlow, hhigh⟩
  have hlow : 65 ≤ c.toNat := hlow
  have hhigh : c.toNat ≤ 90 := hhigh
  have hcapital : otherAscii.contains c = true :=
    (RangeTable.covers_iff _ _).mpr ⟨(58, 127), by decide, by omega, by omega⟩
  rw [hcapital] at hother
  cases hother

/-- A text that begins with a decimal digit is no exponent. -/
theorem exponent?_of_isDecimalDigit {c : Char} (hdigit : isDecimalDigit c = true) (rest : List Char) :
    NumberText.exponent? (c :: rest) = none := by
  have hother := otherAscii_of_isDecimalDigit hdigit
  have hsmall : c ≠ 'e' := by rintro rfl; revert hother; decide
  have hcapital : c ≠ 'E' := by rintro rfl; revert hother; decide
  simp [NumberText.exponent?, hsmall, hcapital]

/-- Decimal digits that are not all in ASCII are read up to one that is not. -/
theorem exists_splitDigits {digits : List Char} (hdigits : ∀ c ∈ digits, isDecimalDigit c = true)
    (hother : digits.all Char.isDigit = false) (after : List Char) :
    ∃ front c back, NumberText.splitDigits (digits ++ after) = (front, c :: back) ∧
      isDecimalDigit c = true := by
  induction digits with
  | nil => cases hother
  | cons d digits ih =>
    by_cases hd : d.isDigit = true
    · rw [List.all_cons, hd, Bool.true_and] at hother
      obtain ⟨front, c, back, hsplit, hc⟩ :=
        ih (fun c hc => hdigits c (List.mem_cons_of_mem _ hc)) hother
      simp only [NumberText.splitDigits, Prod.mk.injEq] at hsplit
      refine ⟨d :: front, c, back, ?_, hc⟩
      simp [NumberText.splitDigits, hd, hsplit]
    · refine ⟨[], d, digits ++ after, ?_, hdigits d List.mem_cons_self⟩
      simp [NumberText.splitDigits, hd]

variable {n : Numeral}

theorem decimal?_text_of_not_isAscii (h : ¬ n.IsAscii) : NumberText.decimal? n.text = none := by
  rw [NumberText.decimal?, Numeral.text]
  cases hfront : n.whole.all Char.isDigit with
  | false =>
    obtain ⟨front, c, back, hsplit, hc⟩ := exists_splitDigits n.isDecimalDigit_whole hfront
      (if n.fraction = [] then [] else '.' :: n.fraction)
    have hpoint : c ≠ '.' := by
      rintro rfl
      rw [isDecimalDigit_point] at hc
      cases hc
    simp [hsplit, hpoint, exponent?_of_isDecimalDigit hc]
  | true =>
    have hback : n.fraction.all Char.isDigit = false := by
      simpa [Numeral.IsAscii, List.all_append, hfront] using h
    obtain ⟨front, c, back, hsplit, hc⟩ := exists_splitDigits n.isDecimalDigit_fraction hback []
    have hne : n.fraction ≠ [] := by
      intro hnil
      rw [hnil] at hback
      cases hback
    have hpoint := splitDigits_append (List.all_eq_true.mp hfront) ('.' :: n.fraction) (by simp)
    rw [List.append_nil] at hsplit
    simp [hne, hpoint, hsplit, exponent?_of_isDecimalDigit hc]

/-- A number that is not in ASCII cannot be read. -/
theorem readNumber_text_of_not_isAscii (h : ¬ n.IsAscii) :
    readNumber (String.ofList n.text) = .error .invalid := by
  obtain ⟨c, rest, htext, hdigit⟩ := exists_text_eq_cons n
  have hletters : isDecimalDigit 'i' = false ∧ isDecimalDigit 'n' = false := by decide +kernel
  -- no word begins with a digit
  have hword (letter : Char) (word : List Char) (hletter : isDecimalDigit letter = false) :
      String.ofList (n.text.map Char.toLower) ≠ String.ofList (letter :: word) := by
    intro heq
    rw [htext, List.map_cons, toLower_of_isDecimalDigit hdigit] at heq
    cases String.ofList_injective heq
    rw [hletter] at hdigit
    cases hdigit
  have hunsigned : NumberText.unsigned? false n.text = none := by
    rw [NumberText.unsigned?]
    split
    · next hinf => exact absurd hinf (hword 'i' ['n', 'f'] hletters.1)
    · next hinf => exact absurd hinf (hword 'i' ['n', 'f', 'i', 'n', 'i', 't', 'y'] hletters.1)
    · next hnan => exact absurd hnan (hword 'n' ['a', 'n'] hletters.2)
    · rw [decimal?_text_of_not_isAscii h]
      rfl
  simp [readNumber, isEmpty_text, splitSign_text, hunsigned]

/-! ## 3. Tokens and their values -/

/-- A number is read if and only if it is in ASCII, and there is one reason only not to read it. -/
theorem parseNumber_text (n : Numeral) :
    (n.IsAscii → ∃ x, parseNumber (String.ofList n.text) = .ok x) ∧
      (¬ n.IsAscii → parseNumber (String.ofList n.text) =
        .error (.invalidNumber (String.ofList n.text) .invalid)) := by
  refine ⟨fun h => ⟨n.value h, parseNumber_eq_ok_iff.mpr (readNumber_text h)⟩, fun h => ?_⟩
  rw [parseNumber, readNumber_text_of_not_isAscii h]
  rfl

theorem IsLexeme.exists_numeral {t : Token Kind} (h : IsLexeme t) (hkind : t.kind = .decimal) :
    ∃ n : Numeral, t.text = String.ofList n.text := by
  obtain ⟨lexeme, hlexeme, htext⟩ := h
  cases lexeme with
  | numeral n => exact ⟨n, htext⟩
  | operator op => rw [hkind] at hlexeme; cases hlexeme
  | exit => rw [hkind] at hlexeme; cases hlexeme

theorem IsLexeme.exists_symbol {t : Token Kind} (h : IsLexeme t) (hkind : t.kind = .operator) :
    ∃ op : Operator, t.text = op.symbol := by
  obtain ⟨lexeme, hlexeme, htext⟩ := h
  cases lexeme with
  | numeral n => rw [hkind] at hlexeme; cases hlexeme
  | operator op => exact ⟨op, by rw [htext, Lexeme.text, String.ofList_toList]⟩
  | exit => rw [hkind] at hlexeme; cases hlexeme

section Faults

variable {lexer behind : Lexer Kind} (hholds : lexer.Holds IsLexeme)

include hholds

theorem Fault.ne_unknownOperator {text : String} : ¬ Fault lexer behind (.unknownOperator text) := by
  intro h
  cases h with
  | @misread ts t _ takes begins misreads =>
    cases misreads with
    | operator kind unread =>
      obtain ⟨op, htext⟩ := (hholds.of_takes takes t (by simp)).exists_symbol kind
      rw [htext, Operator.ofSymbol?_symbol] at unread
      cases unread

theorem Fault.exists_numeral {text : String} {fault : NumberFault}
    (h : Fault lexer behind (.invalidNumber text fault)) :
    fault = .invalid ∧ ∃ n : Numeral, ¬ n.IsAscii ∧ text = String.ofList n.text := by
  cases h with
  | @misread ts t _ takes begins misreads =>
    cases misreads with
    | number kind unread =>
      obtain ⟨n, htext⟩ := (hholds.of_takes takes t (by simp)).exists_numeral kind
      rw [htext] at unread
      by_cases hascii : n.IsAscii
      · rw [readNumber_text hascii] at unread
        cases unread
      · rw [readNumber_text_of_not_isAscii hascii] at unread
        cases unread
        exact ⟨rfl, n, hascii, htext⟩

end Faults

end Calculator

open Calculator

namespace Session

/-- Whatever is asked of the calculator's lexer, a number that it finds is a numeral, which can be
evaluated if and only if its digits are in ASCII, and an operator that it finds can be evaluated.
So no session meets an unknown operator, and a number that it cannot read is a numeral that is not
in ASCII. -/
theorem readable_of_course (reader : Reader) (sink : Sink) (prompt : Option String) :
    ∃ first, start reader sink prompt = .ok first ∧
      (∀ actions, (∀ action ∈ actions, action.added = []) →
        ∀ t, LexEvent.tokenFound t ∈ (first.lexer.transcript actions).events →
          (t.kind = .decimal → ∃ n : Numeral, t.text = String.ofList n.text ∧
            (n.IsAscii → ∃ x, parseNumber t.text = .ok x) ∧
            (¬ n.IsAscii → parseNumber t.text = .error (.invalidNumber t.text .invalid))) ∧
          (t.kind = .operator → ∃ op : Operator, t.text = op.symbol ∧
            parseOperator t.text = .ok op)) ∧
      ∀ session, Course (fun _ => True) first session →
        ∀ error, session.step.result = .error error →
          (∀ text, error ≠ .unknownOperator text) ∧
          ∀ text fault, error = .invalidNumber text fault →
            fault = .invalid ∧ ∃ n : Numeral, ¬ n.IsAscii ∧ text = String.ofList n.text := by
  have hfresh : (fresh reader sink prompt).lexer.Holds IsLexeme := .of_unprimed findOnly_rules rfl
  refine ⟨fresh reader sink prompt, start_eq reader sink prompt, fun actions hadded t ht => ?_,
    fun session hcourse error herror => ?_⟩
  · have hlexeme : IsLexeme t := hfresh.of_tokenFound hadded ht
    refine ⟨fun hkind => ?_, fun hkind => ?_⟩
    · obtain ⟨n, htext⟩ := hlexeme.exists_numeral hkind
      rw [htext]
      exact ⟨n, rfl, parseNumber_text n⟩
    · obtain ⟨op, htext⟩ := hlexeme.exists_symbol hkind
      rw [htext]
      exact ⟨op, rfl, parseOperator_eq_ok_iff.mpr (Operator.ofSymbol?_symbol op)⟩
  · have hholds : session.lexer.Holds IsLexeme := hcourse.kept kept_holds hfresh
    refine ⟨?_, ?_⟩
    · rintro text rfl
      exact Fault.ne_unknownOperator hholds (fault_of_step herror rfl)
    · rintro text fault rfl
      exact (fault_of_step herror rfl).exists_numeral hholds

/-- An Arabic-Indic digit is a number to the lexer, and cannot be read. -/
theorem step_of_arabic_digit :
    let session := fresh ⟨[.data [217, 163, 32, 43, 32, 52, 10]]⟩ .unbounded none
    session.lexer.nextToken.result.toOption = some (some ⟨.decimal, "٣", ⟨1, 0⟩⟩) ∧
      (parseNumber "٣").toOption.isNone = true ∧
      session.step.result = .error (.invalidNumber "٣" .invalid) := by
  decide +kernel

end Session

end Linewise
