import Linewise.Proofs.Calculator.Charging
import Linewise.Proofs.Lexer.Sweeping

/-!
# Items — what a session writes, from what its lexer meets

A session without a prompt is a function of the items of its lexer's sweep: the tokens, and the text
that no rule matches.  `takeAnswer` is a step on items, and goes past what it meets as the session does;
`replies` are the lines of all steps.  While the output does not fail, a session writes these
(`written_run`).
-/

namespace Linewise

namespace Calculator

open Lexer

/-- What the lexer of a session meets: a token, or an error. -/
abbrev Item := StreamItem Kind

/-! ## 1. Steps on items -/

/-- An outcome whose state is the items that are left; behind an error, those that are left when it
has been passed over. -/
abbrev ItemOutcome (α : Type) := Outcome (List Item) Empty CalcError α

/-- Takes a token of the given kind and reads its text.  Whatever stands there is passed over; `last`
is where the items end. -/
def takeAs {α : Type} (kind : Kind) (parse : String → Except CalcError α) (last : Position) :
    List Item → ItemOutcome α
  | [] => .fail (.lex ⟨last, .unexpected kind none none⟩) []
  | .error error :: later => .fail (.lex error) later
  | .ok t :: later =>
    if t.kind = kind then ⟨parse t.text, later, []⟩
    else .fail (.lex ⟨t.position, .unexpected kind none (some t)⟩) later

def takeExpression (last : Position) (items : List Item) : ItemOutcome Expression :=
  (takeAs .decimal parseNumber last items).andThen fun lhs items =>
    (takeAs .operator parseOperator last items).andThen fun op items =>
      (takeAs .decimal parseNumber last items).andThen fun rhs items =>
        .done ⟨lhs, op, rhs⟩ items

/-- Whether a session ends in front of the items. -/
def endsBefore : List Item → Bool
  | [] => true
  | .ok t :: _ => isExit t
  | .error _ :: _ => false

/-- Evaluates an expression that has been taken. -/
def evaluated (e : Expression) (items : List Item) : ItemOutcome (Option Float) :=
  match evaluate? e.lhs e.op e.rhs with
  | none => .fail .divisionByZero items
  | some value => .done (some value) items

/-- Takes an expression and evaluates it; nothing where the session ends. -/
def takeAnswer (last : Position) (items : List Item) : ItemOutcome (Option Float) :=
  if endsBefore items then .done none items else (takeExpression last items).andThen evaluated

section Replies

variable {last : Position} {items : List Item}

theorem length_takeAs_le {α : Type} (kind : Kind) (parse : String → Except CalcError α)
    (last : Position) (items : List Item) :
    (takeAs kind parse last items).state.length ≤ items.length - 1 := by
  rcases items with _ | ⟨error | t, later⟩
  · exact Nat.le_refl 0
  · exact Nat.le_refl _
  · rw [takeAs]
    split <;> exact Nat.le_refl _

theorem length_andThen_le {α β : Type} {outcome : ItemOutcome α} {length : Nat}
    {next : α → List Item → ItemOutcome β} (h : outcome.state.length ≤ length)
    (hnext : ∀ value items, (next value items).state.length ≤ items.length) :
    (outcome.andThen next).state.length ≤ length := by
  cases hresult : outcome.result with
  | ok value =>
    rw [Outcome.andThen_ok hresult]
    exact Nat.le_trans (hnext value outcome.state) h
  | error error =>
    rw [Outcome.andThen_error hresult]
    exact h

/-- A step in front of which the session does not end uses up an item. -/
theorem length_takeAnswer_lt (hends : endsBefore items = false) :
    (takeAnswer last items).state.length < items.length := by
  have hpos : 0 < items.length := by
    cases items with
    | nil => cases hends
    | cons => exact Nat.succ_pos _
  have htaken : (takeAnswer last items).state.length ≤ items.length - 1 := by
    rw [takeAnswer, hends]
    simp only [Bool.false_eq_true, if_false, takeExpression]
    refine length_andThen_le (length_andThen_le (length_takeAs_le ..) ?_) ?_
    · intro lhs items
      refine length_andThen_le (Nat.le_trans (length_takeAs_le ..) (Nat.sub_le _ _)) ?_
      intro op items
      refine length_andThen_le (Nat.le_trans (length_takeAs_le ..) (Nat.sub_le _ _)) ?_
      exact fun rhs items => Nat.le_refl _
    · intro e items
      rw [evaluated]
      split <;> exact Nat.le_refl _
  omega

/-- The line of a session in front of the items; none where it ends. -/
def reply (last : Position) (items : List Item) : Option String :=
  match (takeAnswer last items).result with
  | .ok none => none
  | .ok (some value) => some (Session.valueLine value)
  | .error error => if error.isRecoverable then some (Session.errorLine error) else none

theorem length_lt_of_reply {line : String} (hreply : reply last items = some line) :
    (takeAnswer last items).state.length < items.length := by
  cases hends : endsBefore items with
  | false => exact length_takeAnswer_lt hends
  | true =>
    rw [reply, takeAnswer, if_pos hends] at hreply
    cases hreply

/-- The lines of a session in front of the items. -/
def replies (last : Position) (items : List Item) : List String :=
  match h : reply last items with
  | none => []
  | some line =>
    have := length_lt_of_reply h
    line :: replies last (takeAnswer last items).state
termination_by items.length

theorem replies_of_none (hreply : reply last items = none) : replies last items = [] := by
  rw [replies]
  split
  · rfl
  · next h => rw [hreply] at h; cases h

theorem replies_of_some {line : String} (hreply : reply last items = some line) :
    replies last items = line :: replies last (takeAnswer last items).state := by
  rw [replies]
  split
  · next h => rw [hreply] at h; cases h
  · next h =>
    rw [hreply] at h
    cases h
    rfl

end Replies

/-- The items that are left after a number of steps. -/
def afterAnswers (last : Position) (items : List Item) : Nat → List Item
  | 0 => items
  | count + 1 => afterAnswers last (takeAnswer last items).state count

/-! ## 2. Steps of a session -/

/-- The lexer after an error has been passed over. -/
def passOver (error : CalcError) (lexer : Lexer Kind) : Lexer Kind :=
  match error with
  | .lex ⟨_, .unexpected _ _ _⟩ => lexer.discard.state
  | .lex ⟨_, .unmatched _⟩ => lexer.skipLine.1
  | _ => lexer

theorem passOver_of_final {error : CalcError} (hfinal : error.isRecoverable = false)
    (lexer : Lexer Kind) : passOver error lexer = lexer := by
  unfold passOver
  split
  · cases hfinal
  · cases hfinal
  · rfl

/-- An outcome of a lexer that meets items goes as the outcome on the items does. -/
inductive Follows {α : Type} (final : Lexer Kind) (outcome : CalcOutcome α) (taken : ItemOutcome α) :
    Prop where
  | ok (value : α) (result : outcome.result = .ok value) (taken_result : taken.result = .ok value)
      (rules : outcome.state.rules = rules) (sweep : outcome.state.sweep = (taken.state, final))
  | error (error : CalcError) (result : outcome.result = .error error)
      (taken_result : taken.result = .error error)
      (sweep : (passOver error outcome.state).sweep = (taken.state, final))

variable {lexer final : Lexer Kind} {items : List Item}

theorem Follows.andThen {α β : Type} {outcome : CalcOutcome α} {taken : ItemOutcome α}
    {next : α → Lexer Kind → CalcOutcome β} {take : α → List Item → ItemOutcome β}
    (h : Follows final outcome taken)
    (hnext : ∀ value {lexer : Lexer Kind} {items : List Item}, lexer.rules = rules →
      lexer.sweep = (items, final) → Follows final (next value lexer) (take value items)) :
    Follows final (outcome.andThen next) (taken.andThen take) := by
  cases h with
  | ok value result taken_result rules sweep =>
    rw [Outcome.andThen_ok result, Outcome.andThen_ok taken_result]
    cases hnext value rules sweep with
    | ok value result taken_result rules sweep => exact .ok value result taken_result rules sweep
    | error error result taken_result sweep => exact .error error result taken_result sweep
  | error error result taken_result sweep =>
    rw [Outcome.andThen_error result, Outcome.andThen_error taken_result]
    exact .error error rfl rfl sweep

section Steps

variable (hrules : lexer.rules = rules) (hsweep : lexer.sweep = (items, final))

include hrules hsweep

theorem meets : lexer.Meets final items :=
  meets_of_sweep (hrules ▸ isAnchored_of_mem_rules) hsweep

/-- Taking a token and reading its text. -/
theorem follows_consumeAs {α : Type} {kind : Kind} {parse : String → Except CalcError α}
    (hparse : ∀ text error, parse text = .error error →
      (∃ fault, error = .invalidNumber text fault) ∨ error = .unknownOperator text) :
    Follows final (consumeAs kind parse lexer) (takeAs kind parse final.position items) := by
  obtain ⟨hresult, hstate⟩ := consumeAs_eq parse kind lexer
  cases meets hrules hsweep with
  | @token t later ok lookahead sweep =>
    have hnext : lexer.nextToken.result = .ok (some t) := by rw [nextToken_of_token ok lookahead]
    by_cases hkind : t.kind = kind
    · obtain ⟨hresult, hstate⟩ := consumeAs_of_token parse hnext hkind
      rw [takeAs, if_pos hkind]
      cases hread : parse t.text with
      | ok value =>
        refine .ok value (hresult.trans hread) rfl ?_ (by rw [hstate]; exact sweep)
        rw [hstate, rules_nextToken, hrules]
      | error error =>
        refine .error error (hresult.trans hread) rfl ?_
        rcases hparse _ _ hread with ⟨fault, rfl⟩ | rfl <;> exact hstate ▸ sweep
    · have hconsume := consume_of_token kind none ok lookahead
      simp only [suits, beq_eq_false_iff_ne.mpr hkind, Bool.false_and, Bool.false_eq_true,
        if_false] at hconsume
      rw [hconsume.1, unexpected, lookahead] at hresult
      rw [takeAs, if_neg hkind]
      refine .error _ hresult rfl ?_
      show (consumeAs kind parse lexer).state.discard.state.sweep = _
      rw [hstate, hconsume.2, state_discard, (nextToken_prime ok).2]
      exact sweep
  | endOfInput ok lookahead state =>
    have hconsume := consume_of_endOfInput kind none ok lookahead
    rw [hconsume.1, unexpected, lookahead, state] at hresult
    refine .error _ hresult rfl ?_
    show (consumeAs kind parse lexer).state.discard.state.sweep = _
    rw [hstate, hconsume.2, state_discard, (nextToken_prime ok).2,
      nextToken_of_endOfInput ok lookahead]
    show lexer.prime.state.sweep = _
    rw [sweep_of_endOfInput lookahead, state]
    rfl
  | unmatched result sweep =>
    have hconsume := consume_of_error kind none result
    rw [hconsume.1] at hresult
    refine .error _ hresult rfl ?_
    show (consumeAs kind parse lexer).state.skipLine.1.sweep = _
    rw [hstate, hconsume.2]
    exact sweep
  | failed result sweep =>
    have hconsume := consume_of_error kind none result
    rw [hconsume.1] at hresult
    refine .error _ hresult rfl ?_
    show (consumeAs kind parse lexer).state.sweep = _
    rw [hstate, hconsume.2]
    exact sweep

theorem follows_consumeExpression :
    Follows final (consumeExpression lexer) (takeExpression final.position items) :=
  (follows_consumeAs hrules hsweep parseNumber_error).andThen fun _ _ _ hrules hsweep =>
    (follows_consumeAs hrules hsweep parseOperator_error).andThen fun _ _ _ hrules hsweep =>
      (follows_consumeAs hrules hsweep parseNumber_error).andThen fun _ _ _ hrules hsweep =>
        .ok _ rfl rfl hrules hsweep

theorem follows_verdict :
    Follows final ⟨verdict lexer, (nextExpression lexer).state, []⟩
      (takeAnswer final.position items) := by
  have hmeets := meets hrules hsweep
  cases readsNext lexer with
  | ended ok ends state result =>
    have hends : endsBefore items = true := by
      cases hmeets with
      | token _ lookahead => exact ends _ (by rw [lookahead]; rfl)
      | endOfInput => rfl
      | unmatched unmatched => rw [ok] at unmatched; cases unmatched
      | failed failed => rw [ok] at failed; cases failed
    rw [takeAnswer, if_pos hends, verdict, result, state]
    exact .ok none rfl rfl ((rules_prime lexer).trans hrules) ((sweep_prime ok).trans hsweep)
  | failed error prime state result =>
    rw [verdict, result, state]
    cases hmeets with
    | token ok => rw [ok] at prime; cases prime
    | endOfInput ok => rw [ok] at prime; cases prime
    | unmatched unmatched sweep =>
      rw [unmatched] at prime
      cases prime
      exact .error _ rfl rfl sweep
    | failed failed sweep =>
      rw [failed] at prime
      cases prime
      exact .error _ rfl rfl sweep
  | started t next going =>
    obtain ⟨hresult, hstate⟩ := nextExpression_of_started next going
    obtain ⟨ok, hlook⟩ := prime_of_nextToken next
    have hends : endsBefore items = false := by
      cases hmeets with
      | token _ lookahead =>
        rw [hlook] at lookahead
        cases lookahead
        exact going
      | endOfInput _ lookahead => rw [hlook] at lookahead; cases lookahead
      | unmatched unmatched => rw [ok] at unmatched; cases unmatched
      | failed failed => rw [ok] at failed; cases failed
    rw [takeAnswer, hends, verdict, hresult, hstate]
    simp only [Bool.false_eq_true, if_false]
    cases follows_consumeExpression ((rules_prime lexer).trans hrules)
      ((sweep_prime ok).trans hsweep) with
    | ok e result taken_result rules sweep =>
      rw [Outcome.andThen_ok taken_result, result, evaluated]
      simp only [Except.map]
      cases evaluate? e.lhs e.op e.rhs with
      | none => exact .error _ rfl rfl sweep
      | some value => exact .ok _ rfl rfl rules sweep
    | error error result taken_result sweep =>
      rw [Outcome.andThen_error taken_result, result]
      exact .error error rfl rfl sweep

end Steps

end Calculator

open Calculator

namespace Session

/-! ## 3. Turns -/

theorem state_recover (session : Session) (error : CalcError) :
    (session.recover error).state = { session with lexer := passOver error session.lexer } := by
  cases error with
  | lex lexError =>
    obtain ⟨position, cause⟩ := lexError
    cases cause <;> rfl
  | _ => rfl

/-- A session without a prompt whose output does not fail, and the items in front of it. -/
structure InFrontOf (session : Session) (items : List Item) (final : Lexer Kind) : Prop where
  neverFails : session.sink.NeverFails
  prompt : session.prompt = none
  rules : session.lexer.rules = Calculator.rules
  sweep : session.lexer.sweep = (items, final)

namespace InFrontOf

variable {session : Session} {items : List Item} {final : Lexer Kind}

section Reading

variable (h : session.InFrontOf items final)

include h

theorem verdict_eq : verdict session.lexer = (takeAnswer final.position items).result := by
  have hfollows := follows_verdict h.rules h.sweep
  cases hfollows with
  | ok value result taken_result => exact result.trans taken_result.symm
  | error error result taken_result => exact result.trans taken_result.symm

/-- A step fails for want of a token, or at text that no rule matches, as on the items. -/
theorem step_eq_lex_iff {error : LexError Kind} :
    session.step.result = .error (.lex error) ↔
      (takeAnswer final.position items).result = .error (.lex error) := by
  rw [← h.verdict_eq]
  exact ⟨fun hstep => (verdict_of_step hstep fun _ => nofun).1, fun hverdict =>
    (session.step_of_fault hverdict).1⟩

theorem sweep_of_ok {found : Option Float} (hverdict : verdict session.lexer = .ok found) :
    (nextExpression session.lexer).state.sweep =
      ((takeAnswer final.position items).state, final) := by
  have hfollows := follows_verdict h.rules h.sweep
  cases hfollows with
  | ok value result taken_result rules sweep => exact sweep
  | error error result => rw [hverdict] at result; cases result

theorem sweep_of_error {error : CalcError} (hverdict : verdict session.lexer = .error error) :
    (passOver error (nextExpression session.lexer).state).sweep =
      ((takeAnswer final.position items).state, final) := by
  have hfollows := follows_verdict h.rules h.sweep
  cases hfollows with
  | ok value result => rw [hverdict] at result; cases result
  | error error result taken_result sweep =>
    rw [hverdict] at result
    cases result
    exact sweep

end Reading

/-- A turn is a step on the items: it goes behind them, goes on if there is a line, and writes it. -/
theorem turn (h : session.InFrontOf items final) :
    session.turn.state.InFrontOf (takeAnswer final.position items).state final ∧
      (session.turn.result = .ok true ↔ (reply final.position items).isSome = true) ∧
      session.turn.state.sink.written = session.sink.written ++
        encodeUtf8 ((reply final.position items).elim [] String.toList) := by
  have hrules : session.turn.state.lexer.rules = Calculator.rules :=
    (rules_turn session).trans h.rules
  have hemit := emit_promptText session h.prompt
  rw [reply, ← h.verdict_eq]
  cases session.unhindered h.neverFails with
  | ended verdict state result =>
    rw [hemit] at state
    rw [state] at hrules ⊢
    rw [result, verdict]
    exact ⟨⟨h.neverFails, h.prompt, hrules, h.sweep_of_ok verdict⟩, by simp,
      (List.append_nil _).symm⟩
  | answered value verdict state result =>
    rw [hemit] at state
    rw [state] at hrules ⊢
    rw [result, verdict]
    exact ⟨⟨neverFails_emit _ h.neverFails _, h.prompt, hrules, h.sweep_of_ok verdict⟩, by simp, rfl⟩
  | reported error verdict recoverable state result =>
    rw [hemit, state_recover] at state
    rw [state] at hrules ⊢
    rw [result, verdict]
    simp only [recoverable, if_true]
    exact ⟨⟨neverFails_emit _ h.neverFails _, h.prompt, hrules, h.sweep_of_error verdict⟩, by simp,
      rfl⟩
  | failed error verdict unrecoverable state result =>
    rw [hemit] at state
    rw [state] at hrules ⊢
    rw [result, verdict]
    simp only [unrecoverable, Bool.false_eq_true, if_false]
    have hsweep := h.sweep_of_error verdict
    rw [passOver_of_final unrecoverable] at hsweep
    exact ⟨⟨h.neverFails, h.prompt, hrules, hsweep⟩, by simp, (List.append_nil _).symm⟩

theorem afterTurns (h : session.InFrontOf items final) (count : Nat) :
    (session.afterTurns count).InFrontOf (afterAnswers final.position items count) final := by
  induction count generalizing session items with
  | zero => exact h
  | succ count ih => exact ih h.turn.1

/-- A run writes the lines of all steps on the items. -/
theorem written_run (h : session.InFrontOf items final) :
    session.run.state.sink.written = session.sink.written ++
      encodeUtf8 ((replies final.position items).flatMap String.toList) := by
  induction hlength : items.length using Nat.strongRecOn generalizing session items with
  | _ length ih =>
    subst hlength
    obtain ⟨hbehind, hgoing, hwritten⟩ := h.turn
    cases hreply : reply final.position items with
    | none =>
      rw [hreply] at hgoing hwritten
      simp only [Option.isSome_none, Bool.false_eq_true, iff_false] at hgoing
      rw [(run_of_last hgoing).2, replies_of_none hreply]
      exact hwritten
    | some line =>
      rw [hreply] at hgoing hwritten
      rw [(run_of_going (hgoing.mpr rfl)).2, ih _ (length_lt_of_reply hreply) hbehind rfl, hwritten,
        replies_of_some hreply, List.append_assoc]
      simp [encodeUtf8]

end InFrontOf

end Session

end Linewise
