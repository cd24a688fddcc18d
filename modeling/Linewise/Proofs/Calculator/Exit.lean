import Linewise.Proofs.Calculator.Charging
import Linewise.Proofs.Calculator.Scanning

/-!
# Exit — where the reserved word ends a session

The word `exit` ends a session where an expression could begin.  There it stays in front of the
lexer, and nothing behind it is looked for.  Where an operator or the second number of an expression
is wanted it is a token like any other: it is reported and discarded, and the session goes on.
-/

namespace Linewise

namespace Calculator

open Lexer

/-! ## 1. Reserved tokens -/

variable {lexer : Lexer Kind}

/-- The lexer has the calculator's rules, and a reserved token that it holds is the word `exit`. -/
structure KnowsExit (lexer : Lexer Kind) : Prop where
  rules_eq : lexer.rules = rules
  held : ∀ t ∈ lexer.lookahead.token?, t.kind = .reserved → isExit t = true

/-- Of the texts that can stand in front of a text the reserved one is the word itself. -/
theorem lexeme_of_front?_reserved {text lexeme : List Char}
    (hfront : front? text = some (.reserved, lexeme)) : lexeme = exitWord.toList := by
  unfold front? at hfront
  split at hfront
  · cases hfront
  · split at hfront
    · cases hfront
    · split at hfront
      · cases hfront
        rfl
      · cases hfront

theorem isExit_of_firstMatch? {text : List Char} {rule : Rule Kind} {m : RuleMatch}
    (hfirst : Rule.firstMatch? rules text = some (rule, m)) (hkind : rule.kind = .reserved)
    (position : Position) : isExit (rule.tokenAt m position) = true := by
  have hrules := firstMatch?_rules text
  cases hfront : front? text with
  | none =>
    rw [hfront] at hrules
    rw [hfirst] at hrules
    cases hrules
  | some found =>
    obtain ⟨kind, lexeme⟩ := found
    rw [hfront] at hrules
    obtain ⟨other, hne, hother, -, hmatch⟩ := hrules
    rw [hfirst] at hmatch
    cases hmatch
    rw [← hother, hkind] at hfront
    obtain rfl := lexeme_of_front?_reserved hfront
    show (rule.kind == .reserved && (String.ofList exitWord.toList == exitWord)) = true
    rw [hkind]
    decide

theorem KnowsExit.of_unprimed (hrules : lexer.rules = rules) (hprimed : lexer.lookahead = .unprimed) :
    KnowsExit lexer := by
  refine ⟨hrules, ?_⟩
  rw [hprimed]
  nofun

theorem findOnly_exit :
    Rule.FindOnly (fun t => t.kind = .reserved → isExit t = true) rules :=
  fun _ _ _ hfirst position hkind => isExit_of_firstMatch? hfirst hkind position

theorem KnowsExit.holds (h : KnowsExit lexer) :
    lexer.Holds fun t => t.kind = .reserved → isExit t = true :=
  ⟨h.rules_eq ▸ findOnly_exit, h.held⟩

theorem kept_knowsExit : Kept KnowsExit where
  prime h := ⟨(rules_prime _).trans h.rules_eq, h.holds.prime.held⟩
  nextToken h := ⟨(rules_nextToken _).trans h.rules_eq, h.holds.nextToken.held⟩
  skipLine h := ⟨h.rules_eq, h.holds.skipLine.held⟩

/-! ## 2. What a turn leaves behind -/

/-- The lexer after a turn that has taken some tokens: as they left it, or at the end of input, or
behind the rest of a line that no rule matches. -/
inductive Leaves (before : Lexer Kind) : Lexer Kind → Prop where
  | here : Leaves before before
  | ended (ok : before.prime.result = .ok ())
      (lookahead : before.prime.state.lookahead = .endOfInput) : Leaves before before.prime.state
  | skipped (position : Position) (remainder : String)
      (unmatched : before.prime.result = .error ⟨position, .unmatched remainder⟩) :
      Leaves before before.prime.state.skipLine.1

theorem ne_reserved_of_begins {ts : List (Token Kind)}
    (hbegins : ts.map Token.kind <+: Expression.kinds) : ∀ t ∈ ts, t.kind ≠ .reserved := by
  intro t ht hkind
  have hmem : Kind.reserved ∈ Expression.kinds := hbegins.subset (List.mem_map.mpr ⟨t, ht, hkind⟩)
  exact absurd hmem (by decide)

end Calculator

open Calculator Lexer

namespace Session

/-- To pass over an error no token is taken but one that was not wanted. -/
theorem leaves_recover {session : Session} {lexer : Lexer Kind} {error : CalcError}
    (hfault : Fault lexer session.lexer error) (hrecover : error.isRecoverable = true) :
    ∃ ts before, lexer.Takes ts before ∧ Leaves before (session.recover error).state.lexer ∧
      ∀ t ∈ ts, t.kind = .reserved → ∃ front kind, ts = front ++ [t] ∧
        front.map Token.kind ++ [kind] <+: Expression.kinds ∧
        error = .lex ⟨t.position, .unexpected kind none (some t)⟩ ∧
        (front = [] → lexer.prime.result = .ok () ∧ lexer.prime.state.lookahead = .token t) := by
  obtain ⟨behind, sink, prompt, summary⟩ := session
  cases hfault with
  | @misread ts t error takes begins misreads =>
    refine ⟨ts ++ [t], behind, takes, ?_, fun u hu hkind =>
      absurd hkind (ne_reserved_of_begins begins u hu)⟩
    cases misreads <;> exact .here
  | @division ts e takes kinds_eq =>
    refine ⟨ts, behind, takes, .here, fun u hu hkind => absurd hkind ?_⟩
    exact ne_reserved_of_begins (by rw [kinds_eq]) u hu
  | @unexpected ts kind before takes begins ok state unsuited started =>
    subst state
    have hfront : ts.map Token.kind <+: Expression.kinds := (List.prefix_append _ _).trans begins
    have hdiscard : before.prime.state.discard.state = before.nextToken.state := by
      rw [state_discard]
      exact (nextToken_prime ok).2
    rcases prime_ok ok with ⟨u, hlook⟩ | hended
    · have hnext : before.nextToken.result = .ok (some u) := by rw [nextToken_of_token ok hlook]
      refine ⟨ts ++ [u], before.nextToken.state, takes.append (.cons hnext (.nil _)), ?_, ?_⟩
      · show Leaves before.nextToken.state before.prime.state.discard.state
        rw [hdiscard]
        exact .here
      · intro t ht hkind
        rcases List.mem_append.mp ht with hearlier | hlast
        · exact absurd hkind (ne_reserved_of_begins hfront t hearlier)
        · obtain rfl := List.mem_singleton.mp hlast
          refine ⟨ts, kind, rfl, begins, ?_, ?_⟩
          · rw [Lexer.unexpected, hlook]
            rfl
          · rintro rfl
            cases takes
            exact ⟨ok, hlook⟩
    · refine ⟨ts, before, takes, ?_, fun u hu hkind =>
        absurd hkind (ne_reserved_of_begins hfront u hu)⟩
      show Leaves before before.prime.state.discard.state
      rw [hdiscard, nextToken_of_endOfInput ok hended]
      exact .ended ok hended
  | @failed ts before lexError takes begins prime state =>
    subst state
    refine ⟨ts, before, takes, ?_, fun u hu hkind =>
      absurd hkind (ne_reserved_of_begins begins u hu)⟩
    obtain ⟨position, cause⟩ := lexError
    cases cause with
    | unmatched remainder => exact .skipped position remainder prime
    | unexpected kind text found => exact absurd prime prime_ne_unexpected
    | device failure => cases hrecover
    | splitCharacter => cases hrecover

/-! ## 3. Turns that go on -/

/-- A turn that goes on has taken the tokens.  A reserved one among them is the last of them: it
stood where another token of an expression was wanted, and was reported as an error. -/
structure Passes (session : Session) (ts : List (Token Kind)) : Prop where
  going : session.turn.result = .ok true
  takes : ∃ before, session.lexer.Takes ts before ∧ Leaves before session.turn.state.lexer
  misplaced : ∀ t ∈ ts, t.kind = .reserved → ∃ front kind, ts = front ++ [t] ∧ front ≠ [] ∧
    front.map Token.kind ++ [kind] <+: Expression.kinds ∧
    verdict session.lexer = .error (.lex ⟨t.position, .unexpected kind none (some t)⟩) ∧
    session.turn.state.summary = session.countError.summary

variable {session : Session}

theorem exists_passes (hknows : KnowsExit session.lexer) (hgoing : session.turn.result = .ok true) :
    ∃ ts, session.Passes ts := by
  obtain ⟨⟨sink, hsink⟩, -⟩ := session.onlySink_showPrompt
  cases session.turned with
  | unprompted failure prompt state result => rw [hgoing] at result; cases result
  | ended prompt verdict state result => rw [hgoing] at result; cases result
  | failed error prompt verdict final state result => rw [hgoing] at result; cases result
  | answered value prompt verdict state result =>
    obtain ⟨ts, e, htakes, hkinds, -⟩ := spells_of_verdict verdict
    refine ⟨ts, hgoing, ⟨_, htakes, ?_⟩, fun t ht hkind => absurd hkind ?_⟩
    · obtain ⟨⟨told, htold⟩, -⟩ := session.showPrompt.state.read.onlySink_tell value
      rw [state, htold, hsink]
      exact .here
    · exact ne_reserved_of_begins (by rw [hkinds]) t ht
  | reported error prompt verdict recoverable state result =>
    cases session.showPrompt.state.read.reported error with
    | unwritten failure sink _ report =>
      rw [hgoing, report] at result
      cases result
    | passed passedSink report =>
      rw [report, hsink] at state
      generalize hcounted : ({ ({ session with sink } : Session).read.countError with
        sink := passedSink } : Session) = counted at state
      have hfault : Fault session.lexer counted.lexer error := by
        rw [← hcounted]
        exact fault_of_verdict verdict
      obtain ⟨ts, before, htakes, hleaves, hreserved⟩ := leaves_recover hfault recoverable
      rw [← state] at hleaves
      refine ⟨ts, hgoing, ⟨before, htakes, hleaves⟩, fun t ht hkind => ?_⟩
      obtain ⟨front, kind, hts, hbegins, herror, hfirst⟩ := hreserved t ht hkind
      refine ⟨front, kind, hts, fun hnil => ?_, hbegins, by rw [verdict, herror], ?_⟩
      · -- a reserved token in front of everything would have ended the session
        obtain ⟨hok, hlook⟩ := hfirst hnil
        have hexit : isExit t = true := (kept_knowsExit.prime hknows).held t (by rw [hlook]; rfl) hkind
        rw [verdict_of_prime hok (by rw [hlook]; rintro _ ⟨⟩; exact hexit)] at verdict
        cases verdict
      · obtain ⟨lexer, hrecovered⟩ := counted.exists_recover_eq error
        rw [state, hrecovered, ← hcounted]
        rfl

/-! ## 4. The turn that ends the session -/

/-- A reserved token where an expression could begin ends the session and stays where it is. -/
theorem turn_of_reserved (hknows : KnowsExit session.lexer) {t : Token Kind}
    (hok : session.lexer.prime.result = .ok ())
    (hlook : session.lexer.prime.state.lookahead = .token t) (hkind : t.kind = .reserved)
    (hprompt : session.showPrompt.result = .ok ()) :
    session.turn.result = .ok false ∧
      session.turn.state = { session.showPrompt.state with lexer := session.lexer.prime.state } := by
  have hexit : isExit t = true := (kept_knowsExit.prime hknows).held t (by rw [hlook]; rfl) hkind
  have hverdict : verdict session.lexer = .ok none :=
    verdict_of_prime hok (by rw [hlook]; rintro _ ⟨⟩; exact hexit)
  obtain ⟨⟨sink, hsink⟩, -⟩ := session.onlySink_showPrompt
  cases session.turned with
  | unprompted failure prompt => rw [hprompt] at prompt; cases prompt
  | ended prompt verdict state result =>
    refine ⟨result, ?_⟩
    rw [state, read, hsink, (prime_of_verdict hverdict).2.2]
  | answered value prompt verdict => rw [hverdict] at verdict; cases verdict
  | reported error prompt verdict => rw [hverdict] at verdict; cases verdict
  | failed error prompt verdict => rw [hverdict] at verdict; cases verdict

/-- A session ends before a reserved token or at the end of its input. -/
theorem reserved_of_turn (hended : session.turn.result = .ok false) :
    session.lexer.prime.result = .ok () ∧
      (∀ t ∈ session.lexer.prime.state.lookahead.token?, t.kind = .reserved) ∧
      session.turn.state.lexer = session.lexer.prime.state ∧
      session.turn.state.summary = session.summary := by
  obtain ⟨⟨sink, hsink⟩, -⟩ := session.onlySink_showPrompt
  cases session.turned with
  | unprompted failure prompt state result => rw [hended] at result; cases result
  | ended prompt verdict state result =>
    obtain ⟨hok, hends, hlexer⟩ := prime_of_verdict verdict
    refine ⟨hok, fun t ht => ?_, ?_, ?_⟩
    · have hexit := hends t ht
      rw [isExit, suits, Bool.and_eq_true, beq_iff_eq] at hexit
      exact hexit.1
    · rw [state, hsink]
      exact hlexer
    · rw [state, hsink]
      rfl
  | answered value prompt verdict state result =>
    rw [hended] at result
    cases htold : (session.showPrompt.state.read.tell value).result <;> rw [htold] at result <;>
      cases result
  | reported error prompt verdict recoverable state result =>
    rw [hended] at result
    cases hreport : (session.showPrompt.state.read.report error).result <;>
      rw [hreport] at result <;> cases result
  | failed error prompt verdict final state result => rw [hended] at result; cases result

/-! ## 5. Runs -/

/-- The sessions that a run goes through, with the tokens that each of its turns has taken. -/
inductive Passed (first : Session) : List (List (Token Kind)) → Session → Prop where
  | start : Passed first [] first
  | turn {groups : List (List (Token Kind))} {session : Session} {ts : List (Token Kind)}
      (earlier : Passed first groups session) (passes : session.Passes ts) :
      Passed first (groups ++ [ts]) session.turn.state

namespace Passed

variable {first : Session} {groups : List (List (Token Kind))}

theorem knowsExit (h : first.Passed groups session) (hfirst : KnowsExit first.lexer) :
    KnowsExit session.lexer := by
  induction h with
  | start => exact hfirst
  | turn _ _ ih => exact kept_turn kept_knowsExit ih

/-- The run of the first session is the run of each session on its way. -/
theorem run_eq (h : first.Passed groups session) :
    first.run.result = session.run.result ∧ first.run.state = session.run.state := by
  induction h with
  | start => exact ⟨rfl, rfl⟩
  | turn _ passes ih =>
    obtain ⟨hresult, hstate⟩ := run_of_going passes.going
    exact ⟨ih.1.trans hresult, ih.2.trans hstate⟩

/-- In each group a reserved token stands behind a number, or a number and an operator. -/
theorem misplaced (h : first.Passed groups session) {group : List (Token Kind)}
    (hgroup : group ∈ groups) {t : Token Kind} (ht : t ∈ group) (hkind : t.kind = .reserved) :
    ∃ front, group = front ++ [t] ∧
      (front.map Token.kind = [.decimal] ∨ front.map Token.kind = [.decimal, .operator]) := by
  induction h with
  | start => cases hgroup
  | @turn groups session ts earlier passes ih =>
    rcases List.mem_append.mp hgroup with hbefore | hlast
    · exact ih hbefore
    · obtain rfl := List.mem_singleton.mp hlast
      obtain ⟨front, kind, hts, hne, hbegins, -⟩ := passes.misplaced t ht hkind
      refine ⟨front, hts, ?_⟩
      have hlength := hbegins.length_le
      rw [List.length_append, List.length_map] at hlength
      have hpos := List.length_pos_iff.mpr hne
      have hkinds := List.prefix_iff_eq_take.mp ((List.prefix_append _ [kind]).trans hbegins)
      rw [List.length_map] at hkinds
      have htwo : front.length = 1 ∨ front.length = 2 := by
        simp only [Expression.kinds, List.length_cons, List.length_nil] at hlength
        omega
      rcases htwo with hone | htwo
      · left
        rw [hkinds, hone]
        rfl
      · right
        rw [hkinds, htwo]
        rfl

/-- A run goes through its turns to one that does not go on. -/
theorem exists_last (h : first.Passed groups session) (hfirst : KnowsExit first.lexer) :
    ∃ groups last, first.Passed groups last ∧ last.turn.result ≠ .ok true := by
  induction hbudget : session.lexer.budget using Nat.strongRecOn generalizing groups session with
  | _ budget ih =>
    by_cases hgoing : session.turn.result = .ok true
    · obtain ⟨ts, hpasses⟩ := exists_passes (h.knowsExit hfirst) hgoing
      have hless : session.turn.state.lexer.budget < budget := hbudget ▸ budget_turn_lt hgoing
      exact ih _ hless (h.turn hpasses) rfl
    · exact ⟨groups, session, h, hgoing⟩

end Passed

theorem knowsExit_fresh (reader : Reader) (sink : Sink) (prompt : Option String) :
    KnowsExit (fresh reader sink prompt).lexer := .of_unprimed rfl rfl

/-- A run ends at the first reserved token that stands where an expression could begin: the token
stays in front of the lexer, and nothing is looked for, counted or written behind it.  A reserved
token that a turn takes stood behind a number, or a number and an operator.  A run that does not
fail ends at a reserved token or at the end of its input. -/
theorem run_of_reserved (reader : Reader) (sink : Sink) (prompt : Option String) :
    ∃ first, start reader sink prompt = .ok first ∧
      (∀ groups session, first.Passed groups session →
        (∀ group ∈ groups, ∀ t ∈ group, t.kind = .reserved → ∃ front, group = front ++ [t] ∧
          (front.map Token.kind = [.decimal] ∨ front.map Token.kind = [.decimal, .operator])) ∧
        ∀ t, session.lexer.prime.result = .ok () →
          session.lexer.prime.state.lookahead = .token t → t.kind = .reserved →
          session.showPrompt.result = .ok () →
          first.run.result = .ok session.summary ∧
            first.run.state = { session.showPrompt.state with lexer := session.lexer.prime.state }) ∧
      ∃ groups last, first.Passed groups last ∧
        ((first.run.result = .ok last.summary ∧ last.lexer.prime.result = .ok () ∧
            (∀ t ∈ last.lexer.prime.state.lookahead.token?, t.kind = .reserved) ∧
            first.run.state.lexer = last.lexer.prime.state) ∨
          ∃ error, first.run.result = .error error ∧ error.OfDevice) := by
  have hfirst := knowsExit_fresh reader sink prompt
  refine ⟨fresh reader sink prompt, start_eq reader sink prompt, fun groups session h => ⟨?_, ?_⟩, ?_⟩
  · exact fun group hgroup t ht hkind => h.misplaced hgroup ht hkind
  · intro t hok hlook hkind hprompt
    obtain ⟨hturn, hstate⟩ := turn_of_reserved (h.knowsExit hfirst) hok hlook hkind hprompt
    obtain ⟨hresult, hlast⟩ := run_of_ended hturn
    obtain ⟨⟨shown, hshown⟩, -⟩ := session.onlySink_showPrompt
    have hsummary : session.turn.state.summary = session.summary := by
      rw [hstate, hshown]
    rw [h.run_eq.1, h.run_eq.2, hresult, hlast, hsummary, hstate]
    exact ⟨rfl, rfl⟩
  · obtain ⟨groups, last, hpassed, hstops⟩ := Passed.start.exists_last hfirst
    refine ⟨groups, last, hpassed, ?_⟩
    rw [hpassed.run_eq.1, hpassed.run_eq.2]
    cases hturn : last.turn.result with
    | error error =>
      right
      have hanchored : ∀ rule ∈ last.lexer.rules, rule.IsAnchored := by
        rw [(hpassed.knowsExit hfirst).rules_eq]
        exact isAnchored_of_mem_rules
      exact ⟨error, (run_of_failed hturn).1, ofDevice_of_turn hanchored hturn⟩
    | ok going =>
      cases going with
      | true => exact absurd hturn hstops
      | false =>
        left
        obtain ⟨hok, hreserved, hlexer, hsummary⟩ := reserved_of_turn hturn
        obtain ⟨hresult, hstate⟩ := run_of_ended hturn
        rw [hresult, hstate, hsummary]
        exact ⟨rfl, hok, hreserved, hlexer⟩

/-- The word in a line of its own, behind an expression that is not complete: it is counted as an
error, and the expression in the next line as an expression. -/
theorem summary_of_misplaced_exit :
    let session := fresh ⟨[.data [49, 32, 43, 10, 101, 120, 105, 116, 10, 50, 32, 43, 32, 51, 10]]⟩
      .unbounded none
    session.lexer.nextToken.state.nextToken.state.nextToken.result.toOption =
        some (some ⟨.reserved, "exit", ⟨2, 0⟩⟩) ∧
      session.run.result.toOption = some ⟨1, 1⟩ := by
  decide +kernel

end Session

end Linewise
