import Linewise.Proofs.Calculator.Rules
import Linewise.Proofs.Rule.FirstMatch

/-!
# Scanning — what the rules of the calculator match

The programs of the three rules are run on an arbitrary text.  A number is the longest run of decimal
digits in front of the text, with a point and the longest run of digits behind it if both are there;
an operator is one character; the only reserved word is `exit`.  What a rule matches is what it
captures.
-/

namespace Linewise

/-! ## 1. One place of an anchored program -/

namespace Program

section Anchored

variable {program : Program} {entry index : Nat} {before : Option Char} {threads : List Thread}
  {best : Option Match} (begun : List Thread)
  (hbegun : (threads ++ if best.isNone && index == 0 then [⟨entry, index, []⟩] else []) = begun)

include hbegun

/-- At a place some threads wait for a character, and perhaps one behind them has accepted.  The next
character decides which of the waiting threads go on. -/
theorem run_of_settled (waiting : List Thread) (accepted : Option Thread)
    (hsettle : ∀ after, program.settle ⟨index, before, after⟩ begun = waiting ++ accepted.toList)
    (hwaiting : waiting.all (fun thread => !program.accepts thread) = true)
    (haccepted : accepted.all program.accepts = true) (text : List Char) :
    program.run entry true index before text threads best =
      let found := (accepted.map fun thread => ⟨thread.origin, index, thread.marks⟩).or best
      match text with
      | [] => found
      | c :: rest =>
        if waiting.filterMap (program.read? c) = [] then found
        else
          program.run entry true (index + 1) (some c) rest (waiting.filterMap (program.read? c))
            found := by
  have hfind : (waiting ++ accepted.toList).find? program.accepts = accepted := by
    rw [List.find?_append, List.find?_eq_none.mpr (by simpa using hwaiting), Option.none_or]
    cases accepted with
    | none => rfl
    | some thread => simpa using haccepted
  have htake : ((waiting ++ accepted.toList).takeWhile fun thread => !program.accepts thread) =
      waiting := by
    rw [List.takeWhile_append_of_pos (by simpa using hwaiting)]
    cases accepted with
    | none => simp
    | some thread => simpa using haccepted
  rw [run.eq_def]
  simp only [Bool.not_true, Bool.or_false, hbegun, hsettle, hfind, htake]
  cases accepted <;> cases text <;> simp

/-- A single thread that waits for a character. -/
theorem run_of_waiting (pc next origin : Nat) (marks : Marks) (set : CharSet)
    (hinstr : program[pc]? = some (.chars set next))
    (hsettle : ∀ after, program.settle ⟨index, before, after⟩ begun = [⟨pc, origin, marks⟩])
    (text : List Char) :
    program.run entry true index before text threads best =
      match text with
      | [] => best
      | c :: rest =>
        if set.contains c then
          program.run entry true (index + 1) (some c) rest [⟨next, origin, marks⟩] best
        else best := by
  have haccepts : program.accepts ⟨pc, origin, marks⟩ = false := by simp [accepts, hinstr]
  rw [run_of_settled begun hbegun [⟨pc, origin, marks⟩] none hsettle (by simp [haccepts]) rfl]
  cases text with
  | nil => rfl
  | cons c rest =>
    by_cases hcontains : set.contains c = true
    · simp [read?, hinstr, hcontains]
    · simp [read?, hinstr, hcontains]

/-- A single thread that has accepted. -/
theorem run_of_accepting (thread : Thread) (haccepts : program.accepts thread = true)
    (hsettle : ∀ after, program.settle ⟨index, before, after⟩ begun = [thread])
    (text : List Char) :
    program.run entry true index before text threads best =
      some ⟨thread.origin, index, thread.marks⟩ := by
  rw [run_of_settled begun hbegun [] (some thread) hsettle rfl haccepts]
  cases text <;> rfl

end Anchored

end Program

namespace Calculator

/-- A match from the beginning of the text whose first group ends where it ends. -/
def matchUpTo (stop : Nat) (marks : Marks) : Match := ⟨0, stop, (3, stop) :: marks⟩

/-! ## 2. Numbers -/

/-- The digits in front of a text. -/
def digitFront (text : List Char) : List Char := text.takeWhile isDecimalDigit

/-- A point and the digits behind it in front of a text; nothing unless both are there. -/
def fractionFront : List Char → List Char
  | '.' :: rest => if digitFront rest = [] then [] else '.' :: digitFront rest
  | _ => []

/-- The digits in front of a text, with a point and the digits behind it if both are there. -/
def numeralFront (text : List Char) : List Char :=
  digitFront text ++ fractionFront (text.dropWhile isDecimalDigit)

theorem digitFront_cons (c : Char) (rest : List Char) :
    digitFront (c :: rest) = if isDecimalDigit c then c :: digitFront rest else [] := by
  rw [digitFront, List.takeWhile_cons]
  rfl

theorem numeralFront_cons (c : Char) (rest : List Char) :
    numeralFront (c :: rest) =
      if isDecimalDigit c then c :: numeralFront rest else fractionFront (c :: rest) := by
  rw [numeralFront, digitFront_cons, List.dropWhile_cons]
  split <;> rfl

theorem isDecimalDigit_point : isDecimalDigit '.' = false := by decide +kernel

theorem fractionFront_cons (c : Char) (rest : List Char) :
    fractionFront (c :: rest) =
      if c = '.' ∧ digitFront rest ≠ [] then '.' :: digitFront rest else [] := by
  by_cases hpoint : c = '.'
  · subst hpoint
    simp [fractionFront]
  · simp [fractionFront, hpoint]

theorem isPrefix_digitFront (text : List Char) : digitFront text <+: text := List.takeWhile_prefix _

theorem isPrefix_numeralFront (text : List Char) : numeralFront text <+: text := by
  induction text with
  | nil => exact List.prefix_rfl
  | cons c rest ih =>
    rw [numeralFront_cons, fractionFront_cons]
    split
    · exact List.cons_prefix_cons.mpr ⟨rfl, ih⟩
    split
    · next hpoint => exact List.cons_prefix_cons.mpr ⟨hpoint.1.symm, isPrefix_digitFront rest⟩
    · exact List.nil_prefix

section Decimal

variable (index : Nat) (before : Option Char) (marks : Marks) (best : Option Match)

/-- Behind a digit behind the point. -/
theorem run_fraction (text : List Char) :
    decimalProgram.run 9 true (index + 1) before text [⟨2, 0, marks⟩] best =
      some (matchUpTo (index + 1 + (digitFront text).length) marks) := by
  unfold matchUpTo
  induction text generalizing index before best with
  | nil =>
    rw [Program.run_of_settled [⟨2, 0, marks⟩] (by simp) [⟨3, 0, marks⟩]
      (some ⟨0, 0, (3, index + 1) :: marks⟩) (fun _ => rfl) rfl rfl]
    rfl
  | cons c rest ih =>
    have hread : decimalProgram.read? c ⟨3, 0, marks⟩ =
      if isDecimalDigit c then some ⟨2, 0, marks⟩ else none := rfl
    rw [Program.run_of_settled [⟨2, 0, marks⟩] (by simp) [⟨3, 0, marks⟩]
      (some ⟨0, 0, (3, index + 1) :: marks⟩) (fun _ => rfl) rfl rfl]
    by_cases hdigit : isDecimalDigit c = true
    · simp [hread, hdigit, ih, digitFront_cons]
      omega
    · simp [hread, hdigit, digitFront_cons]

/-- Behind the point. -/
theorem run_point (text : List Char) :
    decimalProgram.run 9 true (index + 1) before text [⟨3, 0, marks⟩] best =
      if digitFront text = [] then best
      else some (matchUpTo (index + 1 + (digitFront text).length) marks) := by
  rw [Program.run_of_waiting [⟨3, 0, marks⟩] (by simp) 3 2 0 marks (.property .decimalDigit) rfl
    (fun _ => rfl)]
  cases text with
  | nil => rfl
  | cons c rest =>
    simp only [CharSet.contains, CharProperty.holds, run_fraction, digitFront_cons, matchUpTo]
    by_cases hdigit : isDecimalDigit c = true
    · simp [hdigit]
      omega
    · simp [hdigit]

/-- Behind a digit in front of any point. -/
theorem run_whole (text : List Char) :
    decimalProgram.run 9 true (index + 1) before text [⟨6, 0, marks⟩] best =
      some (matchUpTo (index + 1 + (numeralFront text).length) marks) := by
  unfold matchUpTo
  induction text generalizing index before best with
  | nil =>
    rw [Program.run_of_settled [⟨6, 0, marks⟩] (by simp) [⟨7, 0, marks⟩, ⟨4, 0, marks⟩]
      (some ⟨0, 0, (3, index + 1) :: marks⟩) (fun _ => rfl) rfl rfl]
    rfl
  | cons c rest ih =>
    have hdigits : decimalProgram.read? c ⟨7, 0, marks⟩ =
      if isDecimalDigit c then some ⟨6, 0, marks⟩ else none := rfl
    have hpoint : decimalProgram.read? c ⟨4, 0, marks⟩ =
        if c = '.' then some ⟨3, 0, marks⟩ else none := by
      have h : decimalProgram.read? c ⟨4, 0, marks⟩ =
        if (CharSet.single '.').contains c then some ⟨3, 0, marks⟩ else none := rfl
      simpa using h
    rw [Program.run_of_settled [⟨6, 0, marks⟩] (by simp) [⟨7, 0, marks⟩, ⟨4, 0, marks⟩]
      (some ⟨0, 0, (3, index + 1) :: marks⟩) (fun _ => rfl) rfl rfl]
    by_cases hdigit : isDecimalDigit c = true
    · have hother : c ≠ '.' := by
        rintro rfl
        rw [isDecimalDigit_point] at hdigit
        cases hdigit
      simp [hdigits, hpoint, hdigit, hother, ih, numeralFront_cons]
      omega
    · by_cases hdot : c = '.'
      · subst hdot
        have hgoing : [(⟨7, 0, marks⟩ : Thread), ⟨4, 0, marks⟩].filterMap (decimalProgram.read? '.') =
            [⟨3, 0, marks⟩] := by simp [hdigits, hpoint, hdigit]
        simp only [hgoing, run_point, numeralFront_cons, fractionFront_cons, hdigit, matchUpTo]
        by_cases hmore : digitFront rest = []
        · simp [hmore]
        · simp [hmore]
          omega
      · simp [hdigits, hpoint, hdigit, hdot, numeralFront_cons, fractionFront_cons]

end Decimal

theorem find?_decimalRule (text : List Char) :
    decimalRule.compiled.find? text =
      if digitFront text = [] then none
      else some (matchUpTo (numeralFront text).length [(2, 0)]) := by
  change decimalProgram.run 9 true 0 none text [] none = _
  rw [Program.run_of_waiting [⟨9, 0, []⟩] rfl 7 6 0 [(2, 0)] (.property .decimalDigit) rfl
    (fun _ => rfl)]
  cases text with
  | nil => rfl
  | cons c rest =>
    simp only [CharSet.contains, CharProperty.holds, run_whole, digitFront_cons, numeralFront_cons,
      matchUpTo]
    by_cases hdigit : isDecimalDigit c = true
    · simp [hdigit]
      omega
    · simp [hdigit]

/-! ## 3. Operators and the word that ends a session -/

theorem find?_operatorRule (text : List Char) :
    operatorRule.compiled.find? text =
      if text.head?.any operatorSet.contains then some (matchUpTo 1 [(2, 0)]) else none := by
  change operatorProgram.run 4 true 0 none text [] none = _
  rw [Program.run_of_waiting [⟨4, 0, []⟩] rfl 2 1 0 [(2, 0)] operatorSet rfl (fun _ => rfl)]
  cases text with
  | nil => rfl
  | cons c rest =>
    simp only
    rw [Program.run_of_accepting [⟨1, 0, [(2, 0)]⟩] rfl ⟨0, 0, [(3, 1), (2, 0)]⟩ rfl (fun _ => rfl)]
    rfl

/-- A letter of a word is read, or the run is over. -/
theorem if_letter {a c : Char} {word rest : List Char} {go found stop : Option Match}
    (hgo : go = if word <+: rest then found else stop) :
    (if (CharSet.single a).contains c then go else stop) =
      if a :: word <+: c :: rest then found else stop := by
  rw [hgo]
  by_cases hletter : c = a
  · simp [hletter]
  · simp [hletter, Ne.symm hletter]

theorem find?_reservedRule (text : List Char) :
    reservedRule.compiled.find? text =
      if exitWord.toList <+: text then some (matchUpTo 4 [(2, 0)]) else none := by
  change reservedProgram.run 7 true 0 none text [] none =
    if ['e', 'x', 'i', 't'] <+: text then some (matchUpTo 4 [(2, 0)]) else none
  rw [Program.run_of_waiting [⟨7, 0, []⟩] rfl 5 4 0 [(2, 0)] (.single 'e') rfl (fun _ => rfl)]
  rcases text with _ | ⟨_, text⟩
  · rfl
  refine if_letter ?_
  rw [Program.run_of_waiting [⟨4, 0, [(2, 0)]⟩] rfl 4 3 0 [(2, 0)] (.single 'x') rfl (fun _ => rfl)]
  rcases text with _ | ⟨_, text⟩
  · rfl
  refine if_letter ?_
  rw [Program.run_of_waiting [⟨3, 0, [(2, 0)]⟩] rfl 3 2 0 [(2, 0)] (.single 'i') rfl (fun _ => rfl)]
  rcases text with _ | ⟨_, text⟩
  · rfl
  refine if_letter ?_
  rw [Program.run_of_waiting [⟨2, 0, [(2, 0)]⟩] rfl 2 1 0 [(2, 0)] (.single 't') rfl (fun _ => rfl)]
  rcases text with _ | ⟨_, text⟩
  · rfl
  refine if_letter ?_
  rw [Program.run_of_accepting [⟨1, 0, [(2, 0)]⟩] rfl ⟨0, 0, [(3, 4), (2, 0)]⟩ rfl (fun _ => rfl),
    if_pos List.nil_prefix]
  rfl

/-! ## 4. The first match -/

/-- The kind and the text of the token that stands in front of a text, if one does. -/
def front? (text : List Char) : Option (Kind × List Char) :=
  if digitFront text ≠ [] then some (.decimal, numeralFront text)
  else if text.head?.any operatorSet.contains then some (.operator, text.take 1)
  else if exitWord.toList <+: text then some (.reserved, exitWord.toList)
  else none

theorem matchStart?_of_find? {rule : Rule Kind} {text lexeme : List Char}
    (hfind : rule.compiled.find? text = some (matchUpTo lexeme.length [(2, 0)]))
    (hfront : lexeme <+: text) (hne : lexeme ≠ []) :
    rule.matchStart? text = some ⟨0, lexeme, lexeme, hne⟩ := by
  obtain ⟨back, rfl⟩ := hfront
  refine Rule.matchStart?_eq_some_iff.mpr ⟨_, hfind, rfl, ?_, ?_⟩
  · simp [matchUpTo, Match.text, Match.length]
  · have hlookup : [(3, lexeme.length), (2, 0)].lookup 2 = some 0 := rfl
    simp [matchUpTo, Match.groupText, Match.group?, hlookup]

theorem matchStart?_of_find?_none {rule : Rule Kind} {text : List Char}
    (hfind : rule.compiled.find? text = none) : rule.matchStart? text = none := by
  rw [Rule.matchStart?, hfind]
  rfl

/-- The rules match what stands in front of a text, and capture all of it. -/
theorem firstMatch?_rules (text : List Char) :
    match front? text with
    | none => Rule.firstMatch? rules text = none
    | some (kind, lexeme) => ∃ rule hne, rule.kind = kind ∧ rule.ignored = false ∧
        Rule.firstMatch? rules text = some (rule, ⟨0, lexeme, lexeme, hne⟩) := by
  have hdecimal := find?_decimalRule text
  have hoperator := find?_operatorRule text
  have hreserved := find?_reservedRule text
  unfold front?
  by_cases hdigit : digitFront text = []
  · rw [if_pos hdigit] at hdecimal
    rw [if_neg (not_not_intro hdigit)]
    have hdecimal := matchStart?_of_find?_none hdecimal
    by_cases hsign : text.head?.any operatorSet.contains = true
    · rw [if_pos hsign] at hoperator ⊢
      cases text with
      | nil => cases hsign
      | cons c rest =>
        have hfind : operatorRule.compiled.find? (c :: rest) =
          some (matchUpTo [c].length [(2, 0)]) := hoperator
        have hmatch := matchStart?_of_find? hfind ⟨rest, rfl⟩ (by simp)
        refine ⟨operatorRule, by simp, rfl, rfl, ?_⟩
        simp [Rule.firstMatch?, rules, hdecimal, hmatch]
    · rw [if_neg hsign] at hoperator ⊢
      have hoperator := matchStart?_of_find?_none hoperator
      by_cases hexit : exitWord.toList <+: text
      · rw [if_pos hexit] at hreserved ⊢
        have hmatch := matchStart?_of_find? hreserved hexit (by decide)
        refine ⟨reservedRule, by decide, rfl, rfl, ?_⟩
        simp [Rule.firstMatch?, rules, hdecimal, hoperator, hmatch]
      · rw [if_neg hexit] at hreserved ⊢
        have hreserved := matchStart?_of_find?_none hreserved
        simp [Rule.firstMatch?, rules, hdecimal, hoperator, hreserved]
  · rw [if_neg hdigit] at hdecimal
    rw [if_pos hdigit]
    have hne : numeralFront text ≠ [] := by simp [numeralFront, hdigit]
    have hmatch := matchStart?_of_find? hdecimal (isPrefix_numeralFront text) hne
    refine ⟨decimalRule, hne, rfl, rfl, ?_⟩
    simp [Rule.firstMatch?, rules, hmatch]

end Calculator

end Linewise
