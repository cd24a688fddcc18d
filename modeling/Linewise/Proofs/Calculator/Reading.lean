import Linewise.Calculator.Progress
import Linewise.Proofs.Lexer.Taking

/-!
# Reading an expression — three tokens, or what stood in their place

Reading takes tokens one after another as long as they have the wanted kinds.  `ReadsAs` says what
this comes to: all of them were taken, one of them could not be read, another token or the end of
input stood in the place of one, or the lexer failed.  What reading a whole expression comes to is
put together from its three parts.
-/

namespace Linewise

namespace Calculator

open Lexer

/-! ## 1. What reading comes to -/

/-- The error of a token that has the wanted kind, but whose text cannot be read. -/
inductive Misreads : Token Kind → CalcError → Prop where
  | number {t : Token Kind} {fault : NumberFault} (kind : t.kind = .decimal)
      (unread : readNumber t.text = .error fault) : Misreads t (.invalidNumber t.text fault)
  | operator {t : Token Kind} (kind : t.kind = .operator)
      (unread : Operator.ofSymbol? t.text = none) : Misreads t (.unknownOperator t.text)

/-- What reading tokens of the given kinds comes to; `means` relates the tokens to the value that
is read off them. -/
inductive ReadsAs {α : Type} (lexer : Lexer Kind) (kinds : List Kind)
    (means : List (Token Kind) → α → Prop) (outcome : CalcOutcome α) : Prop where
  | read (ts : List (Token Kind)) (value : α) (takes : lexer.Takes ts outcome.state)
      (kinds_eq : ts.map Token.kind = kinds) (meaning : means ts value)
      (result : outcome.result = .ok value)
  | misread (ts : List (Token Kind)) (t : Token Kind) (error : CalcError)
      (takes : lexer.Takes (ts ++ [t]) outcome.state)
      (begins : (ts ++ [t]).map Token.kind <+: kinds) (misreads : Misreads t error)
      (result : outcome.result = .error error)
  | unexpected (ts : List (Token Kind)) (kind : Kind) (before : Lexer Kind)
      (takes : lexer.Takes ts before) (begins : ts.map Token.kind ++ [kind] <+: kinds)
      (ok : before.prime.result = .ok ())
      (unsuited : ∀ t ∈ before.prime.state.lookahead.token?, t.kind ≠ kind)
      (state : outcome.state = before.prime.state)
      (result : outcome.result = .error (.lex (before.prime.state.unexpected kind none)))
  | failed (ts : List (Token Kind)) (before : Lexer Kind) (error : LexError Kind)
      (takes : lexer.Takes ts before) (begins : ts.map Token.kind <+: kinds)
      (prime : before.prime.result = .error error) (state : outcome.state = before.prime.state)
      (result : outcome.result = .error (.lex error))

/-- Reading one thing behind another. -/
theorem ReadsAs.andThen {α β : Type} {lexer : Lexer Kind} {kinds more : List Kind}
    {means : List (Token Kind) → α → Prop} {means' : α → List (Token Kind) → β → Prop}
    {outcome : CalcOutcome α} {next : α → Lexer Kind → CalcOutcome β}
    (h : ReadsAs lexer kinds means outcome)
    (hnext : ∀ value, ReadsAs outcome.state more (means' value) (next value outcome.state)) :
    ReadsAs lexer (kinds ++ more)
      (fun ts result => ∃ us ws value, ts = us ++ ws ∧ means us value ∧ means' value ws result)
      (outcome.andThen next) := by
  cases h with
  | read us value takes kinds_eq meaning result =>
    rw [Outcome.andThen_ok result]
    subst kinds_eq
    cases hnext value with
    | read ws last takes' kinds_eq' meaning' result' =>
      exact .read (us ++ ws) last (takes.append takes') (by simp [kinds_eq'])
        ⟨us, ws, value, rfl, meaning, meaning'⟩ result'
    | misread ws t error takes' begins' misreads result' =>
      refine .misread (us ++ ws) t error ?_ ?_ misreads result'
      · rw [List.append_assoc]
        exact takes.append takes'
      · rw [List.append_assoc, List.map_append]
        exact (List.prefix_append_right_inj _).mpr begins'
    | unexpected ws kind before takes' begins' ok unsuited state' result' =>
      refine .unexpected (us ++ ws) kind before (takes.append takes') ?_ ok unsuited state' result'
      rw [List.map_append, List.append_assoc]
      exact (List.prefix_append_right_inj _).mpr begins'
    | failed ws before error takes' begins' prime state' result' =>
      refine .failed (us ++ ws) before error (takes.append takes') ?_ prime state' result'
      rw [List.map_append]
      exact (List.prefix_append_right_inj _).mpr begins'
  | misread ts t error takes begins misreads result =>
    rw [Outcome.andThen_error result]
    exact .misread ts t error takes (begins.trans (List.prefix_append _ _)) misreads rfl
  | unexpected ts kind before takes begins ok unsuited state result =>
    rw [Outcome.andThen_error result]
    exact .unexpected ts kind before takes (begins.trans (List.prefix_append _ _)) ok unsuited
      state rfl
  | failed ts before error takes begins prime state result =>
    rw [Outcome.andThen_error result]
    exact .failed ts before error takes (begins.trans (List.prefix_append _ _)) prime state rfl

/-- What reading comes to depends on the result and the lexer behind it only. -/
theorem ReadsAs.of_eq {α : Type} {lexer : Lexer Kind} {kinds : List Kind}
    {means : List (Token Kind) → α → Prop} {outcome other : CalcOutcome α}
    (h : ReadsAs lexer kinds means outcome) (hresult : other.result = outcome.result)
    (hstate : other.state = outcome.state) : ReadsAs lexer kinds means other := by
  cases h with
  | read ts value takes kinds_eq meaning result =>
    exact .read ts value (hstate ▸ takes) kinds_eq meaning (hresult.trans result)
  | misread ts t error takes begins misreads result =>
    exact .misread ts t error (hstate ▸ takes) begins misreads (hresult.trans result)
  | unexpected ts kind before takes begins ok unsuited state result =>
    exact .unexpected ts kind before takes begins ok unsuited (hstate.trans state)
      (hresult.trans result)
  | failed ts before error takes begins prime state result =>
    exact .failed ts before error takes begins prime (hstate.trans state)
      (hresult.trans result)

theorem ReadsAs.imp {α : Type} {lexer : Lexer Kind} {kinds : List Kind}
    {means means' : List (Token Kind) → α → Prop} {outcome : CalcOutcome α}
    (h : ReadsAs lexer kinds means outcome) (himp : ∀ ts value, means ts value → means' ts value) :
    ReadsAs lexer kinds means' outcome := by
  cases h with
  | read ts value takes kinds_eq meaning result =>
    exact .read ts value takes kinds_eq (himp ts value meaning) result
  | misread ts t error takes begins misreads result =>
    exact .misread ts t error takes begins misreads result
  | unexpected ts kind before takes begins ok unsuited state result =>
    exact .unexpected ts kind before takes begins ok unsuited state result
  | failed ts before error takes begins prime state result =>
    exact .failed ts before error takes begins prime state result

/-- Looking for the next token before reading makes no difference. -/
theorem ReadsAs.of_prime {α : Type} {lexer : Lexer Kind} {kinds : List Kind}
    {means : List (Token Kind) → α → Prop} {outcome : CalcOutcome α} (hkinds : kinds ≠ [])
    (hok : lexer.prime.result = .ok ()) (h : ReadsAs lexer.prime.state kinds means outcome) :
    ReadsAs lexer kinds means outcome := by
  have hagain := prime_prime_of_ok hok
  cases h with
  | read ts value takes kinds_eq meaning result =>
    cases ts with
    | nil => exact absurd kinds_eq.symm hkinds
    | cons => exact .read _ value (takes.of_prime hok) kinds_eq meaning result
  | misread ts t error takes begins misreads result =>
    refine .misread ts t error ?_ begins misreads result
    cases ts with
    | nil => exact takes.of_prime hok
    | cons => exact takes.of_prime hok
  | unexpected ts kind before takes begins ok unsuited state result =>
    cases ts with
    | nil =>
      -- the token that is not wanted is the one that was looked for
      cases takes
      rw [hagain] at unsuited state result
      exact .unexpected [] kind lexer (.nil lexer) begins hok unsuited state result
    | cons =>
      exact .unexpected _ kind before (takes.of_prime hok) begins ok unsuited state result
  | failed ts before error takes begins prime state result =>
    cases ts with
    | nil =>
      cases takes
      rw [hagain] at prime
      cases prime
    | cons => exact .failed _ before error (takes.of_prime hok) begins prime state result

/-! ## 2. The parts of an expression -/

section Parts

variable {α : Type} {lexer : Lexer Kind} {kind : Kind} (parse : String → Except CalcError α)

theorem consumeAs_eq (kind : Kind) (lexer : Lexer Kind) :
    (consumeAs kind parse lexer).result =
        (match (lexer.consume kind none).result with
          | .ok text => parse text
          | .error error => .error (.lex error)) ∧
      (consumeAs kind parse lexer).state = (lexer.consume kind none).state := by
  unfold consumeAs
  cases hconsume : (lexer.consume kind none).result with
  | ok text =>
    have hlexed : (lexed (lexer.consume kind none)).result = .ok text :=
      Outcome.result_embed_ok hconsume _ _ _
    rw [Outcome.andThen_ok hlexed]
    exact ⟨rfl, rfl⟩
  | error error =>
    have hlexed : (lexed (lexer.consume kind none)).result = .error (.lex error) :=
      Outcome.result_embed_error hconsume _ _ _
    rw [Outcome.andThen_error hlexed]
    exact ⟨rfl, rfl⟩

theorem consumeAs_of_token {t : Token Kind} (hnext : lexer.nextToken.result = .ok (some t))
    (hkind : t.kind = kind) :
    (consumeAs kind parse lexer).result = parse t.text ∧
      (consumeAs kind parse lexer).state = lexer.nextToken.state := by
  obtain ⟨hok, ht⟩ := prime_of_nextToken hnext
  have hconsume := consume_of_token kind none hok ht
  simp only [suits, hkind, beq_self_eq_true, Option.all_none, Bool.and_self, if_true] at hconsume
  obtain ⟨hresult, hstate⟩ := consumeAs_eq parse kind lexer
  rw [hconsume.1] at hresult
  rw [hconsume.2] at hstate
  exact ⟨hresult, hstate⟩

/-- A token of the wanted kind is taken and its text read. -/
theorem readsAs_consumeAs
    (hparse : ∀ t error, t.kind = kind → parse t.text = .error error → Misreads t error) :
    ReadsAs lexer [kind] (fun ts value => ∃ t, ts = [t] ∧ parse t.text = .ok value)
      (consumeAs kind parse lexer) := by
  obtain ⟨hresult, hstate⟩ := consumeAs_eq parse kind lexer
  cases primed lexer with
  | token t ok lookahead =>
    by_cases hkind : t.kind = kind
    · have hnext : lexer.nextToken.result = .ok (some t) := by
        rw [nextToken_of_token ok lookahead]
      obtain ⟨hresult, hstate⟩ := consumeAs_of_token parse hnext hkind
      have htakes : lexer.Takes [t] (consumeAs kind parse lexer).state := by
        rw [hstate]
        exact .cons hnext (.nil _)
      cases hread : parse t.text with
      | ok value =>
        rw [hread] at hresult
        exact .read [t] value htakes (by simp [hkind]) ⟨t, rfl, hread⟩ hresult
      | error error =>
        rw [hread] at hresult
        exact .misread [] t error htakes (by simp [hkind]) (hparse t error hkind hread) hresult
    · have hconsume := consume_of_token kind none ok lookahead
      simp only [suits, beq_eq_false_iff_ne.mpr hkind, Bool.false_and, Bool.false_eq_true,
        if_false] at hconsume
      rw [hconsume.1] at hresult
      rw [hconsume.2] at hstate
      refine .unexpected [] kind lexer (.nil lexer) (by simp) ok ?_ hstate hresult
      rw [lookahead]
      rintro u ⟨⟩
      exact hkind
  | endOfInput ok lookahead =>
    have hconsume := consume_of_endOfInput kind none ok lookahead
    rw [hconsume.1] at hresult
    rw [hconsume.2] at hstate
    refine .unexpected [] kind lexer (.nil lexer) (by simp) ok ?_ hstate hresult
    rw [lookahead]
    exact nofun
  | failed error result =>
    have hconsume := consume_of_error kind none result
    rw [hconsume.1] at hresult
    rw [hconsume.2] at hstate
    exact .failed [] lexer error (.nil lexer) (by simp) result hstate hresult

end Parts

theorem parseNumber_eq_ok_iff {text : String} {x : Float} :
    parseNumber text = .ok x ↔ readNumber text = .ok x := by
  unfold parseNumber
  cases readNumber text with
  | ok value => exact ⟨fun h => by cases h; rfl, fun h => by cases h; rfl⟩
  | error fault => exact ⟨nofun, nofun⟩

theorem parseOperator_eq_ok_iff {text : String} {op : Operator} :
    parseOperator text = .ok op ↔ Operator.ofSymbol? text = some op := by
  unfold parseOperator
  cases Operator.ofSymbol? text <;> simp

/-! ## 3. A whole expression -/

/-- The kinds of the tokens of an expression. -/
def Expression.kinds : List Kind := [.decimal, .operator, .decimal]

/-- The three tokens are read as the expression. -/
def Spells (ts : List (Token Kind)) (e : Expression) : Prop :=
  ∃ a b c, ts = [a, b, c] ∧ readNumber a.text = .ok e.lhs ∧ Operator.ofSymbol? b.text = some e.op ∧
    readNumber c.text = .ok e.rhs

theorem readsAs_consumeExpression (lexer : Lexer Kind) :
    ReadsAs lexer Expression.kinds Spells (consumeExpression lexer) := by
  have hnumber {lexer : Lexer Kind} : ReadsAs lexer [.decimal]
      (fun ts x => ∃ t, ts = [t] ∧ parseNumber t.text = .ok x)
      (consumeAs .decimal parseNumber lexer) := readsAs_consumeAs _ fun t error hkind hparse => by
    unfold parseNumber at hparse
    cases hread : readNumber t.text with
    | ok value => rw [hread] at hparse; cases hparse
    | error fault => rw [hread] at hparse; cases hparse; exact .number hkind hread
  have hoperator {lexer : Lexer Kind} : ReadsAs lexer [.operator]
      (fun ts op => ∃ t, ts = [t] ∧ parseOperator t.text = .ok op)
      (consumeAs .operator parseOperator lexer) := readsAs_consumeAs _ fun t error hkind hparse => by
    unfold parseOperator at hparse
    split at hparse
    · cases hparse
    · next hread => cases hparse; exact .operator hkind hread
  have hdone {lexer : Lexer Kind} (e : Expression) : ReadsAs lexer []
      (fun ts value => ts = [] ∧ value = e) (.done e lexer : CalcOutcome Expression) :=
    .read [] e (.nil lexer) rfl ⟨rfl, rfl⟩ rfl
  refine ReadsAs.imp (hnumber.andThen fun lhs => hoperator.andThen fun op =>
    hnumber.andThen fun rhs => hdone ⟨lhs, op, rhs⟩) ?_
  rintro ts e ⟨_, _, lhs, rfl, ⟨a, rfl, ha⟩, _, _, op, rfl, ⟨b, rfl, hb⟩, _, _, rhs, rfl, ⟨c, rfl, hc⟩,
    rfl, rfl⟩
  exact ⟨a, b, c, rfl, parseNumber_eq_ok_iff.mp ha, parseOperator_eq_ok_iff.mp hb,
    parseNumber_eq_ok_iff.mp hc⟩

/-! ## 4. The next expression -/

def isExit (t : Token Kind) : Bool := suits .reserved (some exitWord) t

section Next

variable {lexer : Lexer Kind}

theorem atEnd_of_token {t : Token Kind} (hok : lexer.prime.result = .ok ())
    (ht : lexer.prime.state.lookahead = .token t) : (atEnd lexer).result = .ok (isExit t) := by
  have hagain := prime_prime_of_ok hok
  have hcheck := result_check lexer.prime.state .reserved (some exitWord)
  rw [hagain] at hcheck
  simp only [Outcome.done, Except.map, ht, Lookahead.token?, Option.any_some] at hcheck
  simp only [atEnd, lexed, Outcome.result_embed, peek, Outcome.andThen, hok, Outcome.preceded,
    Outcome.done, ht, Lookahead.token?, hcheck]
  rfl

theorem atEnd_of_endOfInput (hok : lexer.prime.result = .ok ())
    (hend : lexer.prime.state.lookahead = .endOfInput) : (atEnd lexer).result = .ok true := by
  simp only [atEnd, lexed, Outcome.result_embed, peek, Outcome.andThen, hok, Outcome.preceded,
    Outcome.done, hend, Lookahead.token?]
  rfl

theorem atEnd_of_error {error : LexError Kind} (herror : lexer.prime.result = .error error) :
    (atEnd lexer).result = .error (.lex error) := by
  simp only [atEnd, lexed, Outcome.result_embed, peek, Outcome.andThen, herror]
  rfl

/-- What reading the next expression comes to. -/
inductive ReadsNext (lexer : Lexer Kind) (outcome : CalcOutcome (Option Expression)) : Prop where
  | ended (ok : lexer.prime.result = .ok ())
      (ends : ∀ t ∈ lexer.prime.state.lookahead.token?, isExit t = true)
      (state : outcome.state = lexer.prime.state) (result : outcome.result = .ok none)
  | started (t : Token Kind) (next : lexer.nextToken.result = .ok (some t))
      (going : isExit t = false)
      (reads : ReadsAs lexer Expression.kinds (fun ts value => ∃ e, value = some e ∧ Spells ts e)
        outcome)
  | failed (error : LexError Kind) (prime : lexer.prime.result = .error error)
      (state : outcome.state = lexer.prime.state) (result : outcome.result = .error (.lex error))

theorem readsNext (lexer : Lexer Kind) : ReadsNext lexer (nextExpression lexer) := by
  have hstate := (atEnd_eq lexer).1
  have hended (hend : (atEnd lexer).result = .ok true) :
      (nextExpression lexer).result = .ok none ∧
        (nextExpression lexer).state = lexer.prime.state := by
    rw [nextExpression, Outcome.andThen_ok hend, hstate]
    exact ⟨rfl, rfl⟩
  cases primed lexer with
  | token t ok lookahead =>
    have hend := atEnd_of_token ok lookahead
    cases hexit : isExit t with
    | true =>
      rw [hexit] at hend
      refine .ended ok ?_ (hended hend).2 (hended hend).1
      rw [lookahead]
      rintro u ⟨⟩
      exact hexit
    | false =>
      rw [hexit] at hend
      refine .started t (by rw [nextToken_of_token ok lookahead]) hexit ?_
      have hreads : ReadsAs lexer.prime.state Expression.kinds
          (fun ts value => ∃ e, value = some e ∧ Spells ts e)
          ((consumeExpression lexer.prime.state).andThen fun e after => .done (some e) after) := by
        have hdone (e : Expression) {after : Lexer Kind} : ReadsAs after []
            (fun ts value => ts = [] ∧ value = some e)
            (.done (some e) after : CalcOutcome (Option Expression)) :=
          .read [] (some e) (.nil after) rfl ⟨rfl, rfl⟩ rfl
        refine ReadsAs.imp ((readsAs_consumeExpression _).andThen fun e => hdone e) ?_
        rintro _ _ ⟨ts, _, e, rfl, hspells, rfl, rfl⟩
        exact ⟨e, rfl, by rwa [List.append_nil]⟩
      have heq : (nextExpression lexer).result =
            ((consumeExpression lexer.prime.state).andThen fun e after => .done (some e) after :
              CalcOutcome (Option Expression)).result ∧
          (nextExpression lexer).state =
            ((consumeExpression lexer.prime.state).andThen fun e after => .done (some e) after :
              CalcOutcome (Option Expression)).state := by
        rw [nextExpression, Outcome.andThen_ok hend, hstate]
        exact ⟨rfl, rfl⟩
      exact (hreads.of_eq heq.1 heq.2).of_prime (by simp [Expression.kinds]) ok
  | endOfInput ok lookahead =>
    have hend := atEnd_of_endOfInput ok lookahead
    refine .ended ok ?_ (hended hend).2 (hended hend).1
    rw [lookahead]
    exact nofun
  | failed error result =>
    have hend := atEnd_of_error result
    rw [nextExpression, Outcome.andThen_error hend]
    exact .failed error result hstate rfl

/-- In front of a token that does not end the session an expression is taken. -/
theorem nextExpression_of_started {t : Token Kind} (hnext : lexer.nextToken.result = .ok (some t))
    (hgoing : isExit t = false) :
    (nextExpression lexer).result = ((consumeExpression lexer.prime.state).result.map some) ∧
      (nextExpression lexer).state = (consumeExpression lexer.prime.state).state := by
  obtain ⟨hok, hlook⟩ := prime_of_nextToken hnext
  have hatEnd : (atEnd lexer).result = .ok false := by rw [atEnd_of_token hok hlook, hgoing]
  rw [nextExpression, Outcome.andThen_ok hatEnd, (atEnd_eq lexer).1]
  simp only [Bool.false_eq_true, if_false, Outcome.result_preceded, Outcome.state_preceded]
  cases hread : (consumeExpression lexer.prime.state).result with
  | ok e => rw [Outcome.andThen_ok hread]; exact ⟨rfl, rfl⟩
  | error error => rw [Outcome.andThen_error hread]; exact ⟨rfl, rfl⟩

/-- Three tokens that spell an expression, taken one after another, are read as the expression. -/
theorem nextExpression_of_takes {a b c : Token Kind} {after : Lexer Kind} {e : Expression}
    (htakes : lexer.Takes [a, b, c] after) (hkinds : [a, b, c].map Token.kind = Expression.kinds)
    (hspells : Spells [a, b, c] e) :
    (nextExpression lexer).result = .ok (some e) ∧ (nextExpression lexer).state = after := by
  obtain ⟨_, _, _, hlist, hlhs, hop, hrhs⟩ := hspells
  cases hlist
  simp only [Expression.kinds, List.map_cons, List.map_nil, List.cons.injEq, and_true] at hkinds
  obtain ⟨ha, hb, hc⟩ := hkinds
  cases htakes with | cons first later =>
  cases later with | cons second later =>
  cases later with | cons third later =>
  cases later
  obtain ⟨hresult, hstate⟩ := nextToken_prime (prime_of_nextToken first).1
  -- the first token has been looked for before it is taken
  have hfirst := consumeAs_of_token parseNumber (hresult.trans first) ha
  have hsecond := consumeAs_of_token parseOperator second hb
  have hthird := consumeAs_of_token parseNumber third hc
  rw [hstate] at hfirst
  rw [parseNumber_eq_ok_iff.mpr hlhs] at hfirst
  rw [parseOperator_eq_ok_iff.mpr hop] at hsecond
  rw [parseNumber_eq_ok_iff.mpr hrhs] at hthird
  obtain ⟨hnext, hbehind⟩ := nextExpression_of_started first (by simp [isExit, suits, ha])
  rw [hnext, hbehind, consumeExpression]
  simp only [Outcome.andThen_ok hfirst.1, hfirst.2, Outcome.andThen_ok hsecond.1, hsecond.2,
    Outcome.andThen_ok hthird.1, hthird.2]
  exact ⟨rfl, rfl⟩

end Next

end Calculator

end Linewise
