import Linewise.Calculator.Run
import Linewise.Proofs.Rule.Anchor

/-!
# The calculator's rules — what their patterns are compiled to

The three patterns of the calculator are fit for rules, so a session can always be started, and
every match begins at the beginning of the text.
-/

namespace Linewise

namespace Calculator

/-! ## 1. The compiled patterns -/

/-- Digits, and perhaps a point and more digits; the longer beginning is preferred. -/
def decimalProgram : Program :=
  #[.accept, .mark 3 0, .fork 3 1, .chars (.property .decimalDigit) 2, .chars (.range '.' '.') 3,
    .fork 4 1, .fork 7 5, .chars (.property .decimalDigit) 6, .mark 2 7, .look .textStart 8]

def operatorSet : CharSet :=
  .unions [.single '+', .single '-', .single '*', .single '/']

def operatorProgram : Program :=
  #[.accept, .mark 3 0, .chars operatorSet 1, .mark 2 2, .look .textStart 3]

def reservedProgram : Program :=
  #[.accept, .mark 3 0, .chars (.single 't') 1, .chars (.single 'i') 2, .chars (.single 'x') 3,
    .chars (.single 'e') 4, .mark 2 5, .look .textStart 6]

def decimalRule : Rule Kind := ⟨.decimal, decimalPattern, ⟨decimalProgram, 9, true, 2⟩, false⟩

def operatorRule : Rule Kind := ⟨.operator, operatorPattern, ⟨operatorProgram, 4, true, 2⟩, false⟩

def reservedRule : Rule Kind := ⟨.reserved, reservedPattern, ⟨reservedProgram, 7, true, 2⟩, false⟩

theorem make_decimal : Rule.make .decimal decimalPattern false = .ok decimalRule := by
  decide +kernel

theorem make_operator : Rule.make .operator operatorPattern false = .ok operatorRule := by
  decide +kernel

theorem make_reserved : Rule.make .reserved reservedPattern false = .ok reservedRule := by
  decide +kernel

/-- The rules of the calculator, the preferred one first. -/
def rules : List (Rule Kind) := [decimalRule, operatorRule, reservedRule]

/-! ## 2. Starting -/

theorem lexer_eq (reader : Reader) :
    lexer reader = .ok ((Lexer.ofReader reader).addRules rules) := by
  simp only [lexer, Lexer.define, make_decimal, make_operator, make_reserved]
  rfl

theorem isAnchored_of_mem_rules : ∀ rule ∈ rules, rule.IsAnchored := by
  intro rule hrule
  simp only [rules, List.mem_cons, List.not_mem_nil, or_false] at hrule
  rcases hrule with rfl | rfl | rfl
  · exact Rule.isAnchored_of_make make_decimal rfl
  · exact Rule.isAnchored_of_make make_operator rfl
  · exact Rule.isAnchored_of_make make_reserved rfl

end Calculator

open Calculator

/-- The session that stands before the first byte of a reader. -/
def Session.fresh (reader : Reader) (sink : Sink) (prompt : Option String) : Session :=
  ⟨(Lexer.ofReader reader).addRules rules, sink, prompt, ⟨0, 0⟩⟩

theorem Session.start_eq (reader : Reader) (sink : Sink) (prompt : Option String) :
    start reader sink prompt = .ok (fresh reader sink prompt) := by
  rw [start, lexer_eq]
  rfl

end Linewise
