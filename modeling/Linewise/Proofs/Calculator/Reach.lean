import Linewise.Calculator.Expression
import Linewise.Proofs.Lexer.Advance

/-!
# Reach — how far reading an expression goes

Reading an expression stays on its line, whatever the source is, or it comes to the end of the line
and asks the source for another one.  The line alone tells which of the two: with nothing behind it,
reading that does not stay comes to the end of input.
-/

namespace Linewise

variable {κ : Type}

/-! ## 1. Lines that are read -/

/-- The number of the line, if the event is that a line was read. -/
def LexEvent.lineNumber? : LexEvent κ → Option Nat
  | .lineRead number _ => some number
  | _ => none

/-- Scanning a line reads no other one. -/
theorem Scan.lineNumbers_line (rules : List (Rule κ)) (position : Position) (rest : List Char) :
    (line rules position rest).events.filterMap LexEvent.lineNumber? = [] := by
  induction position, rest using line_induction rules with
  | ignored _ _ _ scan ih =>
    rw [scan]
    exact ih
  | lineEnd scan => rw [scan]; rfl
  | unmatched _ _ scan => rw [scan]; rfl
  | splitCharacter _ _ _ scan => rw [scan]; rfl
  | token _ _ _ scan => rw [scan]; rfl

namespace Lexer

/-- The numbers of the lines that were read according to some events. -/
def lineNumbers (events : List (LexEvent κ)) : List Nat := events.filterMap LexEvent.lineNumber?

theorem lineNumbers_append (front back : List (LexEvent κ)) :
    lineNumbers (front ++ back) = lineNumbers front ++ lineNumbers back :=
  List.filterMap_append

/-! ## 2. Operations seen from the source -/

section Reach

variable {ε δ α β : Type}

/-- The outcome with another source in its lexer. -/
def withSource (source : Source) (outcome : Outcome (Lexer κ) (LexEvent κ) ε α) :
    Outcome (Lexer κ) (LexEvent κ) ε α :=
  { outcome with state := { outcome.state with source } }

/-- How far an operation goes: at the end of input it rests; else it stays on the line, whatever the
source is, or leaves the line, and does then what the source says. -/
inductive Reach (operation : Lexer κ → Outcome (Lexer κ) (LexEvent κ) ε α) (lexer : Lexer κ) :
    Prop where
  | rests (known : lexer.lookahead = .endOfInput) (lines : lineNumbers (operation lexer).events = [])
      (ended : (operation lexer).state.lookahead = .endOfInput)
  | stays (going : lexer.lookahead ≠ .endOfInput)
      (operation_eq : ∀ source,
        operation { lexer with source } = withSource source (operation lexer))
      (lines : lineNumbers (operation lexer).events = [])
      (ended : (operation lexer).state.lookahead ≠ .endOfInput)
  | leaves (going : lexer.lookahead ≠ .endOfInput)
      (ofLine : ∀ {source text behind}, source.nextLine = (.line text, behind) →
        lineNumbers (operation { lexer with source }).events ≠ [])
      (ofFinished : ∀ {source behind}, source.nextLine = (.finished, behind) →
        lineNumbers (operation { lexer with source }).events = [] ∧
          (operation { lexer with source }).state.lookahead = .endOfInput)
      (ofFailed : ∀ {source failure behind}, source.nextLine = (.failed failure, behind) →
        lineNumbers (operation { lexer with source }).events = [] ∧
          ∃ error, (operation { lexer with source }).result = .error error)

namespace Reach

variable {lexer : Lexer κ}

/-- An operation that does nothing with its source. -/
theorem of_local {operation : Lexer κ → Outcome (Lexer κ) (LexEvent κ) ε α}
    (hsource : ∀ source, operation { lexer with source } = withSource source (operation lexer))
    (hevents : (operation lexer).events = [])
    (hend : (operation lexer).state.lookahead = .endOfInput ↔ lexer.lookahead = .endOfInput) :
    Reach operation lexer := by
  by_cases hknown : lexer.lookahead = .endOfInput
  · exact .rests hknown (by rw [hevents]; rfl) (hend.mpr hknown)
  · exact .stays hknown hsource (by rw [hevents]; rfl) ((not_congr hend).mpr hknown)

theorem andThen {first : Lexer κ → Outcome (Lexer κ) (LexEvent κ) ε α}
    {next : α → Lexer κ → Outcome (Lexer κ) (LexEvent κ) ε β} (h : Reach first lexer)
    (hnext : ∀ value lexer, Reach (next value) lexer) :
    Reach (fun lexer => (first lexer).andThen next) lexer := by
  -- behind the end of input nothing is read
  have hrests {lexer : Lexer κ} (hlines : lineNumbers (first lexer).events = [])
      (hended : (first lexer).state.lookahead = .endOfInput) :
      lineNumbers ((first lexer).andThen next).events = [] ∧
        ((first lexer).andThen next).state.lookahead = .endOfInput := by
    cases hresult : (first lexer).result with
    | error error => rw [Outcome.andThen_error hresult]; exact ⟨hlines, hended⟩
    | ok value =>
      rw [Outcome.andThen_ok hresult, Outcome.events_preceded, lineNumbers_append, hlines]
      cases hnext value (first lexer).state with
      | rests known lines ended => exact ⟨lines, ended⟩
      | stays going => exact absurd hended going
      | leaves going => exact absurd hended going
  cases h with
  | rests known lines ended =>
    obtain ⟨hlines, hended⟩ := hrests lines ended
    exact .rests known hlines hended
  | stays going operation_eq lines ended =>
    cases hresult : (first lexer).result with
    | error error =>
      have hfirst (source : Source) : (first { lexer with source }).andThen next =
          ⟨.error error, { (first lexer).state with source }, (first lexer).events⟩ := by
        rw [operation_eq, Outcome.andThen_error (by exact hresult)]
        rfl
      refine .stays going (fun source => ?_) ?_ ?_
      · rw [hfirst, Outcome.andThen_error hresult]
        rfl
      · rw [Outcome.andThen_error hresult]; exact lines
      · rw [Outcome.andThen_error hresult]; exact ended
    | ok value =>
      have hfirst (source : Source) : (first { lexer with source }).andThen next =
          (next value { (first lexer).state with source }).preceded (first lexer).events := by
        rw [operation_eq, Outcome.andThen_ok (by exact hresult)]
        rfl
      have hlines (source : Source) : lineNumbers ((first { lexer with source }).andThen next).events =
          lineNumbers (next value { (first lexer).state with source }).events := by
        rw [hfirst, Outcome.events_preceded, lineNumbers_append, lines, List.nil_append]
      cases hnext value (first lexer).state with
      | rests known => exact absurd known ended
      | stays _ operation_eq' lines' ended' =>
        refine .stays going (fun source => ?_) ?_ ?_
        · rw [hfirst, operation_eq', Outcome.andThen_ok hresult]
          rfl
        · exact (hlines lexer.source).trans (by rw [operation_eq']; exact lines')
        · rw [Outcome.andThen_ok hresult]; exact ended'
      | leaves _ ofLine ofFinished ofFailed =>
        refine .leaves going (fun hline => ?_) (fun hline => ?_) fun hline => ?_
        · rw [hlines]; exact ofLine hline
        · rw [hlines, hfirst]; exact ofFinished hline
        · rw [hlines, hfirst]; exact ofFailed hline
  | leaves going ofLine ofFinished ofFailed =>
    refine .leaves going (fun {source _ _} hline hnone => ?_) (fun hline => ?_) fun hline => ?_
    · refine ofLine hline ?_
      cases hresult : (first { lexer with source }).result with
      | error error => rwa [Outcome.andThen_error hresult] at hnone
      | ok value =>
        rw [Outcome.andThen_ok hresult, Outcome.events_preceded, lineNumbers_append] at hnone
        exact (List.append_eq_nil_iff.mp hnone).1
    · exact hrests (ofFinished hline).1 (ofFinished hline).2
    · obtain ⟨hlines, error, hresult⟩ := ofFailed hline
      rw [Outcome.andThen_error hresult]
      exact ⟨hlines, error, rfl⟩

theorem mapError {operation : Lexer κ → Outcome (Lexer κ) (LexEvent κ) ε α} (error : ε → δ)
    (h : Reach operation lexer) :
    Reach (fun lexer => (operation lexer).embed id id error) lexer := by
  have hevents (lexer : Lexer κ) :
      ((operation lexer).embed id id error).events = (operation lexer).events := List.map_id _
  cases h with
  | rests known lines ended => exact .rests known (by rwa [hevents]) ended
  | stays going operation_eq lines ended =>
    exact .stays going (fun source => by rw [operation_eq]; rfl) (by rwa [hevents]) ended
  | leaves going ofLine ofFinished ofFailed =>
    refine .leaves going (fun hline => ?_) (fun hline => ?_) fun hline => ?_
    · rw [hevents]; exact ofLine hline
    · rw [hevents]; exact ofFinished hline
    · obtain ⟨hlines, fault, hresult⟩ := ofFailed hline
      rw [hevents]
      exact ⟨hlines, error fault, by rw [Outcome.result_embed, hresult]; rfl⟩

end Reach

end Reach

/-! ## 3. The operations of the lexer -/

section Operations

variable (lexer : Lexer κ)

theorem reach_prime : Reach prime lexer := by
  cases hlook : lexer.lookahead with
  | endOfInput =>
    refine .rests hlook ?_ ?_ <;> rw [prime_of_endOfInput hlook]
    · rfl
    · exact hlook
  | token t =>
    have hprime (source : Source) : ({ lexer with source } : Lexer κ).prime =
        .done () { lexer with source } := prime_of_token hlook
    refine .of_local (fun source => ?_) ?_ ?_
    · rw [hprime, hprime lexer.source]; rfl
    · rw [hprime lexer.source]; rfl
    · rw [hprime lexer.source]; rfl
  | unprimed =>
    have hgoing : lexer.lookahead ≠ .endOfInput := by simp [hlook]
    have hprime (source : Source) : ({ lexer with source } : Lexer κ).prime =
        (settle { lexer.scanned with source }
          (Scan.line lexer.rules lexer.position lexer.rest).found).preceded
          (Scan.line lexer.rules lexer.position lexer.rest).events := by
      rw [@prime_of_unprimed κ { lexer with source } hlook, advance_eq_settle]
      rfl
    have hevents := Scan.lineNumbers_line lexer.rules lexer.position lexer.rest
    have hlines (source : Source) : lineNumbers ({ lexer with source } : Lexer κ).prime.events =
        lineNumbers (settle { lexer.scanned with source }
          (Scan.line lexer.rules lexer.position lexer.rest).found).events := by
      rw [hprime, Outcome.events_preceded, lineNumbers_append, lineNumbers, hevents]
      rfl
    cases hfound : (Scan.line lexer.rules lexer.position lexer.rest).found with
    | lineEnd =>
      simp only [hfound] at hprime hlines
      refine .leaves hgoing (fun hline => ?_) (fun hline => ?_) fun hline => ?_
      · rw [hlines]; simp [settle, hline, Outcome.preceded, lineNumbers, LexEvent.lineNumber?]
      · rw [hlines, hprime]
        simp only [settle, hline]
        refine ⟨?_, rfl⟩
        unfold releaseEvents
        split <;> rfl
      · rw [hlines, hprime]
        simp only [settle, hline]
        exact ⟨rfl, _, rfl⟩
    | _ =>
      simp only [hfound] at hprime hlines
      refine .stays hgoing (fun source => ?_) ?_ ?_
      · rw [hprime, hprime lexer.source]; rfl
      · rw [hlines lexer.source]; rfl
      · rw [hprime lexer.source]; simp [settle, scanned, Outcome.preceded, Outcome.fail]

theorem reach_peek : Reach peek lexer :=
  (reach_prime lexer).andThen fun _ _ => .of_local (fun _ => rfl) rfl Iff.rfl

variable [DecidableEq κ] (kind : κ) (text : Option String)

theorem reach_check : Reach (check · kind text) lexer :=
  (reach_prime lexer).andThen fun _ _ => .of_local (fun _ => rfl) rfl Iff.rfl

theorem reach_consume : Reach (consume · kind text) lexer := by
  refine (reach_check lexer kind text).andThen fun suited checked => ?_
  obtain ⟨source, rules, line, rest, position, lookahead⟩ := checked
  -- at the end of input there is no token to take
  cases suited <;> cases lookahead <;>
    exact .of_local (fun _ => rfl) rfl (by simp [take, Outcome.done, Outcome.fail])

end Operations

end Lexer

namespace Calculator

open Lexer

/-! ## 4. Expressions -/

variable (lexer : Lexer Kind)

theorem reach_consumeAs {α : Type} (kind : Kind) (parse : String → Except CalcError α) :
    Reach (consumeAs kind parse) lexer :=
  ((reach_consume lexer kind none).mapError _).andThen fun _ _ =>
    .of_local (fun _ => rfl) rfl Iff.rfl

theorem reach_consumeExpression : Reach consumeExpression lexer :=
  (reach_consumeAs lexer .decimal parseNumber).andThen fun _ lexer =>
    (reach_consumeAs lexer .operator parseOperator).andThen fun _ lexer =>
      (reach_consumeAs lexer .decimal parseNumber).andThen fun _ _ =>
        .of_local (fun _ => rfl) rfl Iff.rfl

theorem reach_atEnd : Reach atEnd lexer := by
  refine Reach.mapError CalcError.lex ((reach_peek lexer).andThen fun token lexer => ?_)
  cases token with
  | none => exact .of_local (fun _ => rfl) rfl Iff.rfl
  | some t => exact reach_check lexer _ _

theorem reach_nextExpression : Reach nextExpression lexer := by
  refine (reach_atEnd lexer).andThen fun ended lexer => ?_
  cases ended with
  | true => exact .of_local (fun _ => rfl) rfl Iff.rfl
  | false =>
    exact (reach_consumeExpression lexer).andThen fun _ _ => .of_local (fun _ => rfl) rfl Iff.rfl

/-- The numbers of the lines that are read for the next expression. -/
def linesRead (lexer : Lexer Kind) : List Nat := lineNumbers (nextExpression lexer).events

/-- What is left of the line does not settle the next turn: with nothing behind it, reading an
expression comes to the end of input. -/
def RunsShort (lexer : Lexer Kind) : Prop :=
  (nextExpression { lexer with source := .released }).state.lookahead = .endOfInput

variable {lexer}

/-- A further line is read if what is left of the line does not settle the turn, and there is one. -/
theorem linesRead_ne_nil_iff (hreleased : lexer.lookahead = .endOfInput → lexer.isReleased = true) :
    linesRead lexer ≠ [] ↔
      RunsShort lexer ∧ ∃ text behind, lexer.source.nextLine = (.line text, behind) := by
  unfold RunsShort linesRead
  cases reach_nextExpression lexer with
  | rests known lines =>
    refine ⟨fun hread => absurd lines hread, fun ⟨_, text, behind, hline⟩ => ?_⟩
    have hsource : lexer.source.isReleased = true := hreleased known
    cases hlexer : lexer.source with
    | released => rw [hlexer] at hline; cases hline
    | reading reader => rw [hlexer] at hsource; cases hsource
  | stays _ operation_eq lines ended =>
    rw [operation_eq .released]
    exact ⟨fun hread => absurd lines hread, fun hshort => absurd hshort.1 ended⟩
  | leaves _ ofLine ofFinished ofFailed =>
    refine ⟨fun hread => ⟨(ofFinished rfl).2, ?_⟩, fun ⟨_, text, behind, hline⟩ => ofLine hline⟩
    rcases hline : lexer.source.nextLine with ⟨text | _ | failure, behind⟩
    · exact ⟨text, behind, rfl⟩
    · exact absurd (ofFinished hline).1 hread
    · exact absurd (ofFailed hline).1 hread

end Calculator

end Linewise
