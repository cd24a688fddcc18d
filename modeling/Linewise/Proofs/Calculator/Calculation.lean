import Linewise.Proofs.Calculator.Lexemes
import Linewise.Proofs.Calculator.Output

/-!
# Calculations — what a session answers to well-formed expressions

A calculation is a well-formed expression as it is written, with blanks and line breaks in front of
each of its tokens.  A turn of a session that stands in front of a calculation writes its line and
moves behind it, so a run over calculations writes one line for each, in order.
-/

namespace Linewise

namespace Calculator

/-! ## 1. Numbers in ASCII -/

def Numeral.IsAscii (n : Numeral) : Prop := (n.whole ++ n.fraction).all Char.isDigit = true

instance (n : Numeral) : Decidable n.IsAscii := inferInstanceAs (Decidable (_ = true))

theorem Numeral.IsAscii.isDigit_of_mem {n : Numeral} (h : n.IsAscii) :
    ∀ c ∈ n.whole ++ n.fraction, c.isDigit = true := List.all_eq_true.mp h

theorem splitDigits_append {digits : List Char} (hdigits : ∀ c ∈ digits, c.isDigit = true)
    (after : List Char) (hafter : ∀ c ∈ after.head?, c.isDigit = false) :
    NumberText.splitDigits (digits ++ after) = (digits, after) := by
  rw [NumberText.splitDigits, List.takeWhile_append_of_pos hdigits,
    List.dropWhile_append_of_pos hdigits]
  cases after with
  | nil => simp
  | cons c after => simp [hafter c rfl]

theorem splitDigits_of_isDigit {digits : List Char} (hdigits : ∀ c ∈ digits, c.isDigit = true) :
    NumberText.splitDigits digits = (digits, []) := by
  simpa using splitDigits_append hdigits [] (by simp)

variable {n : Numeral}

theorem isSome_decimal?_text (h : n.IsAscii) : (NumberText.decimal? n.text).isSome = true := by
  have hwhole (c : Char) (hc : c ∈ n.whole) := h.isDigit_of_mem c (List.mem_append_left _ hc)
  have hfraction (c : Char) (hc : c ∈ n.fraction) := h.isDigit_of_mem c (List.mem_append_right _ hc)
  by_cases hnone : n.fraction = []
  · simp [NumberText.decimal?, Numeral.text, hnone, splitDigits_of_isDigit hwhole, n.whole_ne_nil,
      NumberText.exponent?]
  · have hsplit := splitDigits_append hwhole ('.' :: n.fraction) (by simp)
    simp [NumberText.decimal?, Numeral.text, hnone, hsplit, splitDigits_of_isDigit hfraction,
      NumberText.exponent?]

theorem exists_text_eq_cons (n : Numeral) :
    ∃ c rest, n.text = c :: rest ∧ isDecimalDigit c = true := by
  obtain ⟨c, rest, hwhole⟩ := List.exists_cons_of_ne_nil n.whole_ne_nil
  exact ⟨c, _, by rw [Numeral.text, hwhole, List.cons_append],
    n.isDecimalDigit_whole c (by simp [hwhole])⟩

/-- A numeral has no sign. -/
theorem splitSign_text (n : Numeral) : NumberText.splitSign n.text = (false, n.text) := by
  obtain ⟨c, rest, htext, hdigit⟩ := exists_text_eq_cons n
  have hsigns : isDecimalDigit '+' = false ∧ isDecimalDigit '-' = false := by decide +kernel
  rw [htext, NumberText.splitSign]
  · rintro _ ⟨⟩
    rw [hsigns.2] at hdigit
    cases hdigit
  · rintro _ ⟨⟩
    rw [hsigns.1] at hdigit
    cases hdigit

theorem isEmpty_text (n : Numeral) : (String.ofList n.text).isEmpty = false := by
  obtain ⟨c, rest, htext, -⟩ := exists_text_eq_cons n
  simp [String.isEmpty_eq_false_iff, htext]

/-- Every number in ASCII can be read. -/
theorem isSome_readNumber_text (h : n.IsAscii) :
    (readNumber (String.ofList n.text)).toOption.isSome = true := by
  have hunsigned : (NumberText.unsigned? false n.text).isSome = true := by
    rw [NumberText.unsigned?]
    split
    · rfl
    · rfl
    · rfl
    · rw [Option.isSome_map]
      exact isSome_decimal?_text h
  obtain ⟨x, hx⟩ := Option.isSome_iff_exists.mp hunsigned
  simp [readNumber, isEmpty_text, splitSign_text, hx]
  rfl

/-- The double that is read off a number in ASCII. -/
def Numeral.value (n : Numeral) (h : n.IsAscii) : Float :=
  (readNumber (String.ofList n.text)).toOption.get (isSome_readNumber_text h)

theorem readNumber_text (h : n.IsAscii) : readNumber (String.ofList n.text) = .ok (n.value h) := by
  have hsome := isSome_readNumber_text h
  cases hread : readNumber (String.ofList n.text) with
  | error fault =>
    rw [hread] at hsome
    cases hsome
  | ok x =>
    have hvalue : n.value h = x := Option.get_of_eq_some hsome (by rw [hread]; rfl)
    rw [hvalue]

/-! ## 2. Calculations -/

/-- An expression of two numbers in ASCII as it is written, with the blanks in front of each of its
tokens. -/
structure Calculation where
  lhs : Numeral
  op : Operator
  rhs : Numeral
  lhs_isAscii : lhs.IsAscii
  rhs_isAscii : rhs.IsAscii
  beforeLhs : Gap
  beforeOp : Gap
  beforeRhs : Gap

namespace Calculation

def placed (c : Calculation) : List Placed :=
  [⟨c.beforeLhs, .numeral c.lhs⟩, ⟨c.beforeOp, .operator c.op⟩, ⟨c.beforeRhs, .numeral c.rhs⟩]

def text (c : Calculation) : List Char := c.placed.flatMap Placed.text

def expression (c : Calculation) : Expression :=
  ⟨c.lhs.value c.lhs_isAscii, c.op, c.rhs.value c.rhs_isAscii⟩

/-- The value of the expression, unless it divides by zero. -/
def value? (c : Calculation) : Option Float :=
  evaluate? c.expression.lhs c.expression.op c.expression.rhs

/-- The line that answers the calculation. -/
def line (c : Calculation) : String :=
  match c.value? with
  | some value => Session.valueLine value
  | none => Session.errorLine .divisionByZero

theorem laid (c : Calculation) {after : List Char} (hafter : Closes after) :
    Laid after c.placed (c.text ++ after) := by
  have hlhs : c.text ++ after = Placed.text ⟨c.beforeLhs, .numeral c.lhs⟩ ++
      (Placed.text ⟨c.beforeOp, .operator c.op⟩ ++
        (Placed.text ⟨c.beforeRhs, .numeral c.rhs⟩ ++ after)) := by
    simp [text, placed]
  rw [hlhs]
  refine .cons (fun _ _ => closes_placed (.inr fun n => by simp) _) ?_
  refine .cons (fun n hn => by cases hn) ?_
  exact .cons (fun _ _ => hafter) .nil

section Reading

variable (c : Calculation) {lexer : Lexer Kind} {after : List Char} {bytes : List UInt8}

/-- The tokens of a calculation are taken one after another. -/
theorem takes_of_faces (hrules : lexer.rules = rules) (hfaces : lexer.Faces (c.text ++ after) bytes)
    (hafter : Closes after) :
    ∃ ts behind, lexer.Takes ts behind ∧ ts.map Token.kind = Expression.kinds ∧
      Spells ts c.expression ∧ behind.Faces after bytes := by
  obtain ⟨ts, behind, htakes, hkinds, htexts, hbehind⟩ :=
    Calculator.takes_of_faces (c.laid hafter) hrules hfaces
  obtain ⟨lhs, ts, rfl, hlhs, htexts⟩ := List.map_eq_cons_iff.mp htexts
  obtain ⟨op, ts, rfl, hop, htexts⟩ := List.map_eq_cons_iff.mp htexts
  obtain ⟨rhs, ts, rfl, hrhs, htexts⟩ := List.map_eq_cons_iff.mp htexts
  obtain rfl := List.map_eq_nil_iff.mp htexts
  refine ⟨_, behind, htakes, hkinds, ⟨lhs, op, rhs, rfl, ?_, ?_, ?_⟩, hbehind⟩
  · rw [hlhs]
    exact readNumber_text c.lhs_isAscii
  · rw [hop]
    simp [Lexeme.text, expression]
  · rw [hrhs]
    exact readNumber_text c.rhs_isAscii

/-- What a lexer in front of a calculation reads. -/
theorem verdict_of_faces (hrules : lexer.rules = rules)
    (hfaces : lexer.Faces (c.text ++ after) bytes) (hafter : Closes after) :
    verdict lexer = (match c.value? with
      | some value => .ok (some value)
      | none => .error .divisionByZero) ∧
      (nextExpression lexer).state.Faces after bytes := by
  obtain ⟨ts, behind, htakes, hkinds, hspells, hbehind⟩ := c.takes_of_faces hrules hfaces hafter
  obtain ⟨lhs, op, rhs, rfl, -⟩ := id hspells
  obtain ⟨hresult, hstate⟩ := nextExpression_of_takes htakes hkinds hspells
  refine ⟨?_, hstate ▸ hbehind⟩
  rw [verdict, hresult]
  unfold value?
  cases hvalue : evaluate? c.expression.lhs c.expression.op c.expression.rhs <;> simp [hvalue]

end Reading

end Calculation

end Calculator

open Calculator

namespace Session

/-! ## 3. Turns -/

/-- The session after the answer to a calculation, with its lexer behind it. -/
def answered (session : Session) (c : Calculation) (behind : Lexer Kind) : Session :=
  let summary := match c.value? with
    | some _ => { session.summary with evaluated := session.summary.evaluated + 1 }
    | none => { session.summary with errors := session.summary.errors + 1 }
  { session.emit c.line with lexer := behind, summary }

variable {session : Session} {after : List Char} {bytes : List UInt8}

theorem turn_of_calculation (c : Calculation) (hsink : session.sink.NeverFails)
    (hprompt : session.prompt = none) (hrules : session.lexer.rules = rules)
    (hfaces : session.lexer.Faces (c.text ++ after) bytes) (hafter : Closes after) :
    session.turn.result = .ok true ∧
      session.turn.state = session.answered c (nextExpression session.lexer).state := by
  obtain ⟨hverdict, -⟩ := c.verdict_of_faces hrules hfaces hafter
  cases hvalue : c.value? with
  | some value =>
    rw [hvalue] at hverdict
    obtain ⟨hgoing, hstate⟩ := session.turn_of_value hsink hverdict
    refine ⟨hgoing, ?_⟩
    rw [hstate, emit_promptText session hprompt, answered, Calculation.line, hvalue]
    rfl
  | none =>
    rw [hvalue] at hverdict
    obtain ⟨hgoing, hstate⟩ := session.turn_of_fault hsink hverdict rfl
    refine ⟨hgoing, ?_⟩
    -- the lexer is behind a division by zero already
    rw [hstate, emit_promptText session hprompt, answered, Calculation.line, hvalue]
    rfl

/-! ## 4. Runs -/

/-- The session after the answers to some calculations, with its lexer behind them. -/
def answeredAll (session : Session) (cs : List Calculation) (behind : Lexer Kind) : Session :=
  { session with
    lexer := behind
    sink := { session.sink with
      written := session.sink.written ++ encodeUtf8 (cs.flatMap (·.line.toList)) }
    summary :=
      ⟨session.summary.evaluated + cs.countP (·.value?.isSome),
        session.summary.errors + cs.countP (·.value?.isNone)⟩ }

theorem answeredAll_nil (session : Session) (behind : Lexer Kind) :
    session.answeredAll [] behind = { session with lexer := behind } := by
  simp [answeredAll, encodeUtf8]

theorem answeredAll_cons (session : Session) (c : Calculation) (cs : List Calculation)
    (next behind : Lexer Kind) :
    (session.answered c next).answeredAll cs behind = session.answeredAll (c :: cs) behind := by
  cases hvalue : c.value? <;>
    simp [answeredAll, answered, emit, hvalue, Nat.add_assoc, Nat.add_comm]

theorem closes_calculations {cs : List Calculation} (hapart : ∀ c ∈ cs, c.beforeLhs.text ≠ [])
    (hafter : Closes after) : Closes (cs.flatMap Calculation.text ++ after) := by
  cases cs with
  | nil => exact hafter
  | cons c cs =>
    rw [List.flatMap_cons, List.append_assoc, Calculation.text, Calculation.placed,
      List.flatMap_cons, List.append_assoc]
    exact closes_placed (.inl (hapart c List.mem_cons_self)) _

/-- A run over calculations answers all of them, and goes on behind them. -/
theorem run_of_faces (session : Session) {cs : List Calculation}
    (hapart : ∀ c ∈ cs.tail, c.beforeLhs.text ≠ [])
    (hsink : session.sink.NeverFails) (hprompt : session.prompt = none)
    (hrules : session.lexer.rules = rules)
    (hfaces : session.lexer.Faces (cs.flatMap Calculation.text ++ after) bytes)
    (hafter : Closes after) :
    ∃ behind : Lexer Kind, behind.rules = rules ∧ behind.Faces after bytes ∧
      session.run.result = (session.answeredAll cs behind).run.result ∧
      session.run.state = (session.answeredAll cs behind).run.state := by
  induction cs generalizing session with
  | nil =>
    refine ⟨session.lexer, hrules, hfaces, ?_⟩
    rw [answeredAll_nil]
    exact ⟨rfl, rfl⟩
  | cons c cs ih =>
    rw [List.flatMap_cons, List.append_assoc] at hfaces
    have hcloses := closes_calculations hapart hafter
    obtain ⟨hgoing, hstate⟩ := turn_of_calculation c hsink hprompt hrules hfaces hcloses
    obtain ⟨behind, hbehindRules, hlast, hrun⟩ :=
      ih (session.answered c _) (fun d hd => hapart d (List.mem_of_mem_tail hd))
        ⟨hsink.room, hsink.flushes⟩ hprompt ((rules_nextExpression session.lexer).trans hrules)
        (c.verdict_of_faces hrules hfaces hcloses).2
    rw [answeredAll_cons, ← hstate] at hrun
    obtain ⟨hresult, hstates⟩ := run_of_going hgoing
    exact ⟨behind, hbehindRules, hlast, hresult.trans hrun.1, hstates.trans hrun.2⟩

end Session

namespace Calculator

/-! ## 5. Scripts -/

/-- What stands behind the calculations of a script: some blanks, and the word `exit` on the rest of
its line if there is an ending. -/
def closing (trail : Gap) (ending : Option (List UInt8)) : List Char :=
  trail.text ++ match ending with
    | some _ => exitWord.toList ++ ['\n']
    | none => []

/-- The bytes of some calculations, with blanks behind them.  An ending stands behind the word
`exit` and a line feed, and may be any bytes. -/
def script (cs : List Calculation) (trail : Gap) (ending : Option (List UInt8)) : List UInt8 :=
  encodeUtf8 (cs.flatMap Calculation.text ++ closing trail ending) ++ ending.getD []

variable (trail : Gap) (ending : Option (List UInt8))

theorem closes_closing : Closes (closing trail ending) := by
  by_cases htrail : trail.text = []
  · cases ending with
    | none =>
      rw [closing, htrail]
      exact nofun
    | some bytes =>
      rw [closing, htrail]
      have hexit : ∀ n, Lexeme.exit ≠ .numeral n := fun n hn => by cases hn
      exact closes_text hexit ['\n']
  · exact .of_blank trail.isBlank_of_mem htrail _

/-- Behind the calculations of a script the session ends.  Bytes behind the word `exit` have not been
read by then. -/
theorem prime_of_closing {lexer : Lexer Kind} (hrules : lexer.rules = rules)
    (hfaces : lexer.Faces (closing trail ending) (ending.getD [])) :
    lexer.prime.result = .ok () ∧
      (∀ t ∈ lexer.prime.state.lookahead.token?, isExit t = true) ∧
      ∀ bytes ∈ ending, ∃ rest : Reader, lexer.prime.state.source = .reading rest ∧
        rest.Delivers bytes := by
  cases ending with
  | none =>
    obtain ⟨hok, hend⟩ := hfaces.prime_of_blank (by simpa [closing] using trail.isBlank_of_mem)
    rw [hend]
    exact ⟨hok, nofun, nofun⟩
  | some bytes =>
    have hexit := hfaces.of_gap trail.isBlank_of_mem
    have hfinds : Rule.Finds lexer.rules .reserved exitWord.toList ['\n'] :=
      hrules ▸ finds_text .exit (fun n hn => by cases hn)
    have hblank : ∀ c ∈ exitWord.toList, isBlank c = false := Lexeme.exit.isBlank_of_mem_text
    obtain ⟨t, -, -, -, hok, hlook, hkind, htext, -⟩ := hexit.prime_of_finds hblank hfinds
    refine ⟨hok, ?_, ?_⟩
    · rw [hlook]
      rintro u ⟨⟩
      simp [isExit, Lexer.suits, hkind, htext]
    · rintro _ ⟨⟩
      exact hexit.delivers_of_finds hblank hfinds

end Calculator

/-- A session over a script writes one line for each calculation, in order, and counts them; of an
ending it reads nothing. -/
theorem Session.run_of_script (cs : List Calculation) (trail : Gap) (ending : Option (List UInt8))
    (hapart : ∀ c ∈ cs.tail, c.beforeLhs.text ≠ []) {reader : Reader}
    (hreader : reader.Delivers (script cs trail ending)) {sink : Sink} (hsink : sink.NeverFails) :
    ∃ session, start reader sink none = .ok session ∧
      session.run.result =
        .ok ⟨cs.countP (·.value?.isSome), cs.countP (·.value?.isNone)⟩ ∧
      session.run.state.sink.written = sink.written ++ encodeUtf8 (cs.flatMap (·.line.toList)) ∧
      ∀ bytes ∈ ending, ∃ rest : Reader, session.run.state.lexer.source = .reading rest ∧
        rest.Delivers bytes := by
  have hclosed : ending.getD [] = [] ∨ cs.flatMap Calculation.text ++ closing trail ending = [] ∨
      (cs.flatMap Calculation.text ++ closing trail ending).getLast? = some '\n' := by
    cases ending with
    | none => exact .inl rfl
    | some bytes => exact .inr (.inr (by simp [closing, ← List.append_assoc]))
  obtain ⟨behind, hrules, hfaces, hresult, hstate⟩ :=
    run_of_faces (fresh reader sink none) hapart hsink rfl rfl
      (Lexer.faces_ofReader hreader hclosed rules) (closes_closing trail ending)
  refine ⟨_, start_eq reader sink none, ?_⟩
  obtain ⟨hok, hends, hrest⟩ := prime_of_closing trail ending hrules hfaces
  have hverdict := verdict_of_prime hok hends
  obtain ⟨hturn, hturned⟩ :=
    turn_of_ended ((fresh reader sink none).answeredAll cs behind) ⟨hsink.room, hsink.flushes⟩
      hverdict
  obtain ⟨hlast, hstop⟩ := run_of_ended hturn
  rw [hresult, hstate, hlast, hstop, hturned, emit_promptText _ rfl]
  refine ⟨by simp [read, answeredAll, fresh], rfl, ?_⟩
  have hlexer : ((fresh reader sink none).answeredAll cs behind).read.lexer =
    behind.prime.state := (prime_of_verdict hverdict).2.2
  rw [hlexer]
  exact hrest

namespace Calculator

def Gap.empty : Gap := ⟨[], rfl⟩

/-- The sum `1+2.5`. -/
def Calculation.sum : Calculation where
  lhs := ⟨['1'], [], by decide, by decide +kernel⟩
  op := .add
  rhs := ⟨['2'], ['5'], by decide, by decide +kernel⟩
  lhs_isAscii := by decide
  rhs_isAscii := by decide
  beforeLhs := .empty
  beforeOp := .empty
  beforeRhs := .empty

/-- The quotient `3 / 0` on a line of its own. -/
def Calculation.quotient : Calculation where
  lhs := ⟨['3'], [], by decide, by decide +kernel⟩
  op := .div
  rhs := ⟨['0'], [], by decide, by decide +kernel⟩
  lhs_isAscii := by decide
  rhs_isAscii := by decide
  beforeLhs := ⟨['\n'], by decide⟩
  beforeOp := ⟨[' '], by decide⟩
  beforeRhs := ⟨[' '], by decide⟩

end Calculator

theorem Session.run_of_script_two :
    script [.sum, .quotient] .empty (some [255]) =
        encodeUtf8 "1+2.5\n3 / 0exit\n".toList ++ [255] ∧
      ∃ session, start (.ofBytes (encodeUtf8 "1+2.5\n3 / 0exit\n".toList ++ [255])) .unbounded none =
          .ok session ∧
        session.run.result =
          .ok ⟨[Calculation.sum, .quotient].countP (·.value?.isSome),
            [Calculation.sum, .quotient].countP (·.value?.isNone)⟩ ∧
        session.run.state.sink.written =
          encodeUtf8 ([Calculation.sum, .quotient].flatMap (·.line.toList)) ∧
        ∀ bytes ∈ some [255], ∃ rest : Reader, session.run.state.lexer.source = .reading rest ∧
          rest.Delivers bytes :=
  ⟨by decide, run_of_script [.sum, .quotient] .empty (some [255]) (by decide)
    (Reader.delivers_ofBytes _) ⟨rfl, rfl⟩⟩

end Linewise
