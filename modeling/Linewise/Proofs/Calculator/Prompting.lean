import Linewise.Proofs.Calculator.Transparency

/-!
# Prompting — what stands in front of a lexer when a prompt is written

A session writes its prompt where the line is used up and the source not released.  `AsksSource` says
that the source is asked for a line next; it follows if moreover no token is held.
-/

namespace Linewise

open Calculator

/-! ## 1. Steps at the end of a line -/

namespace Lexer

variable {lexer other : Lexer Kind}

/-- What is found first comes first in reading an expression, too. -/
theorem nextExpression_of_prime {events : List (LexEvent Kind)}
    (hprime : lexer.prime = other.prime.preceded events) :
    nextExpression lexer = (nextExpression other).preceded events := by
  have hend : atEnd lexer = (atEnd other).preceded events := by
    simp only [atEnd, peek, lexed, hprime, Outcome.andThen_preceded, Outcome.embed_preceded,
      List.map_id]
  rw [nextExpression, hend, Outcome.andThen_preceded]
  rfl

namespace AtLineEnd

variable (h : lexer.AtLineEnd)

include h

theorem nextExpression_of_line {text : List Char} {source : Source}
    (hline : lexer.source.nextLine = (.line text, source)) :
    nextExpression lexer = (nextExpression (lexer.startLine source text)).preceded
      [.lineRead lexer.position.nextLine.line (byteLength text)] := by
  apply nextExpression_of_prime
  rw [h.prime_eq, settle, hline, @prime_of_unprimed Kind (lexer.startLine source text) h.primed]
  rfl

theorem nextExpression_of_finished {source : Source}
    (hfinished : lexer.source.nextLine = (.finished, source)) :
    nextExpression lexer =
      ⟨.ok none, { lexer with source, lookahead := .endOfInput }, releaseEvents lexer.source⟩ := by
  have hprime := h.prime_eq
  simp only [settle, hfinished] at hprime
  simp only [nextExpression, atEnd, peek, lexed, hprime, Outcome.andThen, Outcome.done,
    Outcome.preceded, Outcome.embed, Lookahead.token?, Except.mapError, if_true, List.append_nil,
    List.map_id, id]

theorem nextExpression_of_failed {failure : Failure} {source : Source}
    (hfailed : lexer.source.nextLine = (.failed failure, source)) :
    nextExpression lexer =
      .fail (.lex ⟨lexer.position.nextLine, .device failure⟩) (lexer.loseLine source) := by
  have hprime := h.prime_eq
  simp only [settle, hfailed] at hprime
  simp only [nextExpression, atEnd, peek, lexed, hprime, Outcome.andThen, Outcome.fail,
    Outcome.embed, Except.mapError, List.map_nil, id]
  rfl

end AtLineEnd

/-! ## 2. What is held between turns -/

theorem Takes.unprimed {after : Lexer Kind} {ts : List (Token Kind)} {t : Token Kind}
    (htakes : lexer.Takes (ts ++ [t]) after) : after.lookahead = .unprimed := by
  induction ts generalizing lexer with
  | nil =>
    cases htakes with
    | cons first later =>
      cases later
      obtain ⟨hok, hlook⟩ := prime_of_nextToken first
      rw [nextToken_of_token hok hlook]
  | cons u ts ih =>
    cases htakes with
    | cons first later => exact ih later

theorem lookahead_nextToken (lexer : Lexer Kind) :
    lexer.nextToken.state.lookahead = .unprimed ∨ lexer.nextToken.state.lookahead = .endOfInput := by
  cases primed lexer with
  | token t ok lookahead => rw [nextToken_of_token ok lookahead]; exact .inl rfl
  | endOfInput ok lookahead => rw [nextToken_of_endOfInput ok lookahead]; exact .inr lookahead
  | failed error result =>
    rw [nextToken_of_error result]
    exact .inl (lookahead_prime_of_error result)

end Lexer

namespace Calculator

open Lexer

variable {lexer : Lexer Kind}

theorem kept_wellFormed : Kept WellFormed where
  prime h := h.prime
  nextToken {lexer} h := by
    have hreaches : Ledger.Reaches (fun _ => True) (.ofLexer lexer) _ :=
      Ledger.reaches_ask (.ofLexer lexer) .nextToken
    exact hreaches.wellFormed h
  skipLine h := h.skipLine

/-- Behind an error that has been passed over no token is held. -/
theorem lookahead_passOver {behind : Lexer Kind} {error : CalcError}
    (hfault : Fault lexer behind error) :
    (passOver error behind).lookahead = .unprimed ∨ (passOver error behind).lookahead = .endOfInput := by
  cases hfault with
  | misread takes begins misreads => cases misreads <;> exact .inl takes.unprimed
  | division takes kinds_eq spells =>
    obtain ⟨a, b, c, rfl, -⟩ := spells
    exact .inl (@Takes.unprimed lexer behind [a, b] c takes)
  | unexpected =>
    show behind.discard.state.lookahead = _ ∨ behind.discard.state.lookahead = _
    rw [state_discard]
    exact lookahead_nextToken behind
  | @failed ts before lexError takes begins prime state =>
    subst state
    have hunprimed := lookahead_prime_of_error prime
    obtain ⟨position, cause⟩ := lexError
    cases cause with
    | unmatched remainder =>
      left
      show before.prime.state.skipLine.1.lookahead = _
      rw [skipLine, hunprimed]
    | unexpected kind text found => exact absurd prime prime_ne_unexpected
    | device failure => exact .inl hunprimed
    | splitCharacter => exact .inl hunprimed

/-- Where a session goes on, or a failure has ended it, no token is held. -/
theorem lookahead_behindTurn (hlast : turnResult lexer ≠ .ok false) :
    (behindTurn lexer).lookahead = .unprimed ∨ (behindTurn lexer).lookahead = .endOfInput := by
  unfold turnResult at hlast
  unfold behindTurn
  cases hverdict : verdict lexer with
  | ok answer =>
    rw [hverdict] at hlast
    cases answer with
    | none => exact absurd rfl hlast
    | some value =>
      obtain ⟨ts, e, htakes, hkinds, ⟨a, b, c, rfl, -⟩, -⟩ := spells_of_verdict hverdict
      exact .inl (@Takes.unprimed lexer _ [a, b] c htakes)
  | error error => exact lookahead_passOver (fault_of_verdict hverdict)

/-- Where a session ends, what is held ends it: it is the word `exit`, or the end of input. -/
theorem isExit_behindTurn (hended : turnResult lexer = .ok false) :
    verdict lexer = .ok none ∧ behindTurn lexer = lexer.prime.state ∧
      ∀ t ∈ (behindTurn lexer).lookahead.token?, isExit t = true := by
  unfold turnResult at hended
  unfold behindTurn
  cases hverdict : verdict lexer with
  | ok answer =>
    rw [hverdict] at hended
    cases answer with
    | some value => cases hended
    | none =>
      obtain ⟨-, hends, hstate⟩ := prime_of_verdict hverdict
      exact ⟨rfl, hstate, by rw [hstate]; exact hends⟩
  | error error =>
    rw [hverdict] at hended
    simp only at hended
    split at hended <;> cases hended

end Calculator

namespace Session

/-! ## 3. Asking the source -/

/-- The next thing that the session does is to ask its source for a line.  Its step goes on from the
line, ends the session at the end of input, or fails with the source. -/
inductive AsksSource (session : Session) : Prop where
  | lineRead {text : List Char} {source : Source}
      (line : session.lexer.source.nextLine = (.line text, source))
      (step : session.step =
        ({ session with lexer := session.lexer.startLine source text } : Session).step.preceded
          [.lexing (.lineRead session.lexer.position.nextLine.line (byteLength text))])
  | finished {source : Source} (finished : session.lexer.source.nextLine = (.finished, source))
      (step : session.step =
        ⟨.ok false,
          { session with lexer := { session.lexer with source, lookahead := .endOfInput } },
          [.lexing .sourceReleased]⟩)
  | lineLost {failure : Failure} {source : Source}
      (failed : session.lexer.source.nextLine = (.failed failure, source))
      (step : session.step =
        .fail (.lex ⟨session.lexer.position.nextLine, .device failure⟩)
          { session with lexer := session.lexer.loseLine source })

variable {session first : Session} {run : Nat}

theorem asksSource (hend : session.lexer.AtLineEnd) (hreading : session.lexer.isReleased = false) :
    session.AsksSource := by
  rcases hline : session.lexer.source.nextLine with ⟨text | _ | failure, source⟩
  · refine .lineRead hline ?_
    rw [step, hend.nextExpression_of_line hline, reading, Outcome.embed_preceded,
      Outcome.andThen_preceded]
    rfl
  · refine .finished hline ?_
    have hevents : Lexer.releaseEvents (κ := Kind) session.lexer.source = [.sourceReleased] := by
      have hsource : session.lexer.source.isReleased = false := hreading
      rw [Lexer.releaseEvents, hsource]
      rfl
    rw [step, hend.nextExpression_of_finished hline, hevents]
    rfl
  · refine .lineLost hline ?_
    rw [step, hend.nextExpression_of_failed hline]
    rfl

/-! ## 4. Run after run -/

/-- The sessions in front of the turns of several runs, one behind another; the first run has the
number zero.  In front of each run the sink may be replaced by another one that never fails. -/
inductive Visited (first : Session) : Nat → Session → Prop where
  | start {sink : Sink} (fits : sink.NeverFails) : Visited first 0 { first with sink }
  | turn {run : Nat} {session : Session} (earlier : Visited first run session)
      (going : session.turn.result = .ok true) : Visited first run session.turn.state
  | again {run : Nat} {last : Session} (earlier : Visited first run last)
      (stopped : last.turn.result ≠ .ok true) {sink : Sink} (fits : sink.NeverFails) :
      Visited first (run + 1) { last.turn.state with sink }

namespace Visited

theorem neverFails (h : first.Visited run session) : session.sink.NeverFails := by
  induction h with
  | start fits => exact fits
  | turn _ _ ih => exact (charged_turn ih).2
  | again _ _ fits => exact fits

theorem prompt_eq (h : first.Visited run session) : session.prompt = first.prompt := by
  induction h with
  | start => rfl
  | turn earlier going ih => exact (prompt_turn earlier.neverFails).trans ih
  | again earlier stopped fits ih => exact (prompt_turn earlier.neverFails).trans ih

/-- What the lexer of the first session has, and is kept, the lexer of each session has. -/
theorem kept {P : Lexer Kind → Prop} (hkept : Kept P) (h : first.Visited run session)
    (hfirst : P first.lexer) : P session.lexer := by
  induction h with
  | start => exact hfirst
  | turn _ _ ih => exact kept_turn hkept ih
  | again _ _ _ ih => exact kept_turn hkept ih

/-- A run goes on to a last turn. -/
theorem exists_last (h : first.Visited run session) :
    ∃ last, first.Visited run last ∧ last.turn.result ≠ .ok true ∧
      session.run.state = last.turn.state := by
  induction session using run_induction with
  | going session hgoing ih =>
    obtain ⟨last, hlast, hstopped, hstate⟩ := ih (h.turn hgoing)
    exact ⟨last, hlast, hstopped, (run_of_going hgoing).2.trans hstate⟩
  | last session hlast => exact ⟨session, h, hlast, (run_of_last hlast).2⟩

/-- Each of several runs of a session begins at a visited one. -/
theorem of_mem_runMany {count : Nat} (hsink : session.sink.NeverFails)
    (h : ∀ sink : Sink, sink.NeverFails → first.Visited run { session with sink })
    {outcome : SessionOutcome Summary} (houtcome : outcome ∈ session.runMany count) :
    ∃ number before, first.Visited number before ∧ outcome = before.run := by
  induction count generalizing session run with
  | zero => cases houtcome
  | succ count ih =>
    have hbefore := h { session.sink with written := [] } ⟨hsink.room, hsink.flushes⟩
    rcases List.mem_cons.mp houtcome with rfl | hlater
    · exact ⟨run, _, hbefore, rfl⟩
    · obtain ⟨last, hlast, hstopped, hstate⟩ := hbefore.exists_last
      rw [hstate] at hlater
      exact ih (charged_turn hlast.neverFails).2 (fun sink fits => hlast.again hstopped fits) hlater

/-- A token is held only at the beginning of a run, and only the word `exit` at which the run before it
has ended. -/
theorem lookahead_cases (h : first.Visited run session) (hfirst : first.lexer.lookahead = .unprimed) :
    session.lexer.lookahead = .unprimed ∨ session.lexer.lookahead = .endOfInput ∨
      ∃ earlier last t, run = earlier + 1 ∧ first.Visited earlier last ∧
        last.turn.result = .ok false ∧ session.lexer = last.turn.state.lexer ∧
        session.lexer.lookahead = .token t ∧ isExit t = true := by
  have hnone {lexer : Lexer Kind} (h : lexer.lookahead = .unprimed ∨ lexer.lookahead = .endOfInput)
      {P : Prop} : lexer.lookahead = .unprimed ∨ lexer.lookahead = .endOfInput ∨ P :=
    h.elim .inl fun hend => .inr (.inl hend)
  cases h with
  | start fits => exact .inl hfirst
  | turn earlier going =>
    obtain ⟨hresult, hlexer⟩ := lexer_turn earlier.neverFails
    rw [hlexer]
    exact hnone (lookahead_behindTurn (by rw [← hresult, going]; exact nofun))
  | @again number last earlier stopped sink fits =>
    obtain ⟨hresult, hlexer⟩ := lexer_turn earlier.neverFails
    show last.turn.state.lexer.lookahead = _ ∨ last.turn.state.lexer.lookahead = _ ∨ _
    by_cases hended : last.turn.result = .ok false
    · obtain ⟨-, -, hends⟩ := isExit_behindTurn (hresult.symm.trans hended)
      rw [← hlexer] at hends
      cases hlook : last.turn.state.lexer.lookahead with
      | unprimed => exact .inl rfl
      | endOfInput => exact .inr (.inl rfl)
      | token t =>
        exact .inr (.inr ⟨number, last, t, rfl, earlier, hended, rfl, rfl,
          hends t (by rw [hlook]; rfl)⟩)
    · rw [hlexer]
      exact hnone (lookahead_behindTurn (by rwa [← hresult]))

end Visited

/-- A run in front of the word `exit`, already held, ends at once. -/
theorem run_of_held (hsink : session.sink.NeverFails) {t : Token Kind}
    (hlook : session.lexer.lookahead = .token t) (hexit : isExit t = true) :
    session.run.result = .ok session.summary ∧
      session.run.state = session.emit session.promptText := by
  have hprime := Lexer.prime_of_token hlook
  have hverdict : verdict session.lexer = .ok none := by
    apply verdict_of_prime
    · rw [hprime]
      rfl
    · rw [hprime]
      show ∀ u ∈ session.lexer.lookahead.token?, isExit u = true
      rw [hlook]
      rintro _ ⟨⟩
      exact hexit
  have hlexer : (nextExpression session.lexer).state = session.lexer := by
    rw [(prime_of_verdict hverdict).2.2, hprime]
    rfl
  obtain ⟨hturn, hstate⟩ := turn_of_ended session hsink hverdict
  have hread : (session.emit session.promptText).read = session.emit session.promptText := by
    show { session.emit session.promptText with lexer := (nextExpression session.lexer).state } = _
    rw [hlexer]
    rfl
  obtain ⟨hresult, hlast⟩ := run_of_ended hturn
  rw [hresult, hlast, hstate, hread]
  exact ⟨rfl, rfl⟩

/-- Whenever a session writes its prompt the line is used up and the source not released.  In the first
run no token is held then either, and the source is asked for a line next.  So it is in each further
run, unless the run before has ended at the word `exit` and nothing stands behind it on its line: then
the word is still held, and the run writes the prompt and ends without reading. -/
theorem asksSource_of_visited (reader : Reader) (written : List UInt8) (prompt : String) :
    ∃ first, start reader ⟨written, none, none⟩ (some prompt) = .ok first ∧
      (∀ count, ∀ outcome ∈ first.runMany count, ∃ run session,
        first.Visited run session ∧ outcome = session.run) ∧
      ∀ run session, first.Visited run session →
        session.showPrompt.result = .ok () ∧
        session.showPrompt.state = (if session.needsLine then session.emit prompt else session) ∧
        (session.needsLine = true →
          session.lexer.rest = [] ∧ session.lexer.isReleased = false ∧
          (session.lexer.lookahead = .unprimed ∧ (session.emit prompt).AsksSource ∨
            ∃ earlier last t, run = earlier + 1 ∧ first.Visited earlier last ∧
              last.turn.result = .ok false ∧ session.lexer = last.turn.state.lexer ∧
              session.lexer.lookahead = .token t ∧ t.kind = .reserved ∧
              session.run.result = .ok session.summary ∧
              session.run.state = session.emit prompt)) := by
  refine ⟨_, start_eq reader _ _, fun count outcome houtcome => ?_, fun run session h => ?_⟩
  · exact Visited.of_mem_runMany ⟨rfl, rfl⟩ (fun sink fits => .start fits) houtcome
  · obtain ⟨hshown, hstate⟩ := showPrompt_of_neverFails session h.neverFails
    have hprompt : session.prompt = some prompt := h.prompt_eq
    have htext : session.promptText = if session.needsLine then prompt else "" := by
      rw [promptText, hprompt]
      rfl
    refine ⟨hshown, ?_, fun hneeds => ?_⟩
    · rw [hstate, htext]
      split
      · rfl
      · exact emit_empty session
    · rw [hneeds] at htext
      simp only [needsLine, Bool.and_eq_true, List.isEmpty_iff, Bool.not_eq_true'] at hneeds
      obtain ⟨hrest, hreading⟩ := hneeds
      refine ⟨hrest, hreading, ?_⟩
      have hwell : session.lexer.WellFormed :=
        h.kept kept_wellFormed (Lexer.wellFormed_ofReader reader rules)
      rcases h.lookahead_cases rfl with hprimed | hended | hheld
      · exact .inl ⟨hprimed, asksSource ⟨hprimed, hrest⟩ hreading⟩
      · have hreleased := hwell.ended_iff.mp hended
        rw [hreading] at hreleased
        cases hreleased
      · obtain ⟨earlier, last, t, hrun, hlast, hended, hlexer, hlook, hexit⟩ := hheld
        obtain ⟨hresult, hstate⟩ := run_of_held h.neverFails hlook hexit
        rw [htext] at hstate
        rw [isExit, Lexer.suits, Bool.and_eq_true, beq_iff_eq] at hexit
        exact .inr ⟨earlier, last, t, hrun, hlast, hended, hlexer, hlook, hexit.1, hresult, hstate⟩

/-- Behind a run that has ended at the word `exit` on a line of its own, the next run writes a prompt
while the word is held, and reads nothing. -/
theorem prompt_of_held_exit :
    let session := (fresh ⟨[.data [101, 120, 105, 116, 10]]⟩ .unbounded (some "> ")).run.state
    session.lexer.lookahead = .token ⟨.reserved, "exit", ⟨1, 0⟩⟩ ∧
      session.sink.written = [62, 32] ∧ session.run.state.sink.written = [62, 32, 62, 32] ∧
      session.run.state.lexer = session.lexer := by
  decide +kernel

end Session

end Linewise
