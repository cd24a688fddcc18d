import Linewise.Proofs.Calculator.Charging
import Linewise.Proofs.Lexer.Chunking
import Linewise.Proofs.Lexer.Pausing

/-!
# Causality — what is written depends on the lines read so far

A reader that fails behind some lines shows what a session writes before it asks for more: whatever
is delivered behind these lines, the session has written the same until then.  If nothing more is
delivered, at most one line follows, for an expression that is not complete.
-/

namespace Linewise

variable {failure : Failure} {later : List Chunk} {more : List Delivery}

namespace Calculator

open Lexer

/-! ## 1. Reading an expression -/

/-- Two outcomes of reading behind shared lines: they are alike, or the first one is the failure of
its reader.  The other one then `ends` if nothing more is delivered to it. -/
inductive ReadShared {α : Type} (failure : Failure) (later : List Chunk) (more : List Delivery)
    (ends : Except CalcError α → Lexer Kind → Prop) (outcome other : CalcOutcome α) : Prop where
  | alike (result_eq : other.result = outcome.result)
      (state : outcome.state.Alike (Source.Shares failure later more) other.state)
  | paused (position : Position)
      (result : outcome.result = .error (.lex ⟨position, .device failure⟩))
      (ends : more = [] → other.state.IsDone ∧ ends other.result other.state)

/-- A token was wanted where the input ends. -/
def Unfinished {α : Type} (result : Except CalcError α) (lexer : Lexer Kind) : Prop :=
  ∃ kind, result = .error (.lex (lexer.unexpected kind none))

theorem ReadShared.andThen {α β : Type} {ends : Except CalcError α → Lexer Kind → Prop}
    {ends' : Except CalcError β → Lexer Kind → Prop} {outcome other : CalcOutcome α}
    {next : α → Lexer Kind → CalcOutcome β}
    (h : ReadShared failure later more ends outcome other)
    (hnext : ∀ value {lexer other : Lexer Kind},
      lexer.Alike (Source.Shares failure later more) other →
      ReadShared failure later more ends' (next value lexer) (next value other))
    (hends : other.state.IsDone → ends other.result other.state →
      (other.andThen next).state.IsDone ∧
        ends' (other.andThen next).result (other.andThen next).state) :
    ReadShared failure later more ends' (outcome.andThen next) (other.andThen next) := by
  cases h with
  | alike result_eq state =>
    cases hresult : outcome.result with
    | ok value =>
      rw [Outcome.andThen_ok hresult, Outcome.andThen_ok (result_eq.trans hresult)]
      cases hnext value state with
      | alike result_eq state => exact .alike result_eq state
      | paused position result ends => exact .paused position result ends
    | error error =>
      rw [Outcome.andThen_error hresult, Outcome.andThen_error (result_eq.trans hresult)]
      exact .alike rfl state
  | paused position result ends =>
    rw [Outcome.andThen_error result]
    refine .paused position rfl fun hnone => ?_
    exact hends (ends hnone).1 (ends hnone).2

/-- Reading stops at the first token that is missing. -/
theorem ReadShared.andThen_unfinished {α β : Type} {outcome other : CalcOutcome α}
    {next : α → Lexer Kind → CalcOutcome β}
    (h : ReadShared failure later more Unfinished outcome other)
    (hnext : ∀ value {lexer other : Lexer Kind},
      lexer.Alike (Source.Shares failure later more) other →
      ReadShared failure later more Unfinished (next value lexer) (next value other)) :
    ReadShared failure later more Unfinished (outcome.andThen next) (other.andThen next) := by
  refine h.andThen hnext fun hdone hends => ?_
  obtain ⟨kind, hresult⟩ := hends
  rw [Outcome.andThen_error hresult]
  exact ⟨hdone, kind, rfl⟩

section Parts

variable {lexer other : Lexer Kind} (hfinal : failure.isInterrupted = false)
  (h : lexer.Alike (Source.Shares failure later more) other)

include hfinal h

theorem readShared_consumeAs {α : Type} (kind : Kind) (parse : String → Except CalcError α) :
    ReadShared failure later more Unfinished (consumeAs kind parse lexer)
      (consumeAs kind parse other) := by
  obtain ⟨hresult, hstate⟩ := consumeAs_eq parse kind lexer
  obtain ⟨hresult', hstate'⟩ := consumeAs_eq parse kind other
  rcases h.prime_shares hfinal with halike | ⟨⟨position, herror⟩, hdone⟩
  · obtain ⟨hanswer, -, hconsumed⟩ := halike.ask (.consume kind none)
    have hconsume : (other.consume kind none).result = (lexer.consume kind none).result :=
      Outcome.result_eq_of_map (fun _ _ => Answer.text.inj) hanswer
    refine .alike ?_ ?_
    · rw [hresult', hresult, hconsume]
    · rw [hstate', hstate]
      exact hconsumed
  · have hconsume := consume_of_error kind none herror
    rw [hconsume.1] at hresult
    refine .paused position hresult fun hnone => ?_
    obtain ⟨hok, hended, hreleased⟩ := hdone hnone
    have hconsume' := consume_of_endOfInput kind none hok hended
    rw [hconsume'.1] at hresult'
    rw [hresult', hstate', hconsume'.2]
    exact ⟨⟨hended, hreleased⟩, kind, rfl⟩

theorem readShared_consumeExpression :
    ReadShared failure later more Unfinished (consumeExpression lexer) (consumeExpression other) := by
  refine (readShared_consumeAs hfinal h .decimal parseNumber).andThen_unfinished ?_
  intro lhs lexer other h
  refine (readShared_consumeAs hfinal h .operator parseOperator).andThen_unfinished ?_
  intro op lexer other h
  refine (readShared_consumeAs hfinal h .decimal parseNumber).andThen_unfinished ?_
  intro rhs lexer other h
  exact .alike rfl h

theorem readShared_atEnd :
    ReadShared failure later more (fun result _ => result = .ok true) (atEnd lexer) (atEnd other) := by
  obtain ⟨hstate, -⟩ := atEnd_eq lexer
  obtain ⟨hstate', -⟩ := atEnd_eq other
  rcases h.prime_shares hfinal with halike | ⟨⟨position, herror⟩, hdone⟩
  · refine .alike ?_ (by rw [hstate, hstate']; exact halike.state)
    cases primed lexer with
    | token t ok lookahead =>
      rw [atEnd_of_token ok lookahead,
        atEnd_of_token (halike.result_eq.trans ok) (halike.lookahead_eq.trans lookahead)]
    | endOfInput ok lookahead =>
      rw [atEnd_of_endOfInput ok lookahead,
        atEnd_of_endOfInput (halike.result_eq.trans ok) (halike.lookahead_eq.trans lookahead)]
    | failed error result =>
      rw [atEnd_of_error result, atEnd_of_error (halike.result_eq.trans result)]
  · refine .paused position (atEnd_of_error herror) fun hnone => ?_
    obtain ⟨hok, hended, hreleased⟩ := hdone hnone
    rw [atEnd_of_endOfInput hok hended, hstate']
    exact ⟨⟨hended, hreleased⟩, rfl⟩

/-- Where the input ends there is no expression, or one that is not complete. -/
theorem readShared_nextExpression :
    ReadShared failure later more (fun result last => result = .ok none ∨ Unfinished result last)
      (nextExpression lexer) (nextExpression other) := by
  refine (readShared_atEnd hfinal h).andThen (fun ended lexer other h => ?_) fun hdone hended => ?_
  · cases ended with
    | true => exact .alike rfl h
    | false =>
      show ReadShared failure later more _ ((consumeExpression lexer).andThen _)
        ((consumeExpression other).andThen _)
      have hwhole : ReadShared failure later more Unfinished
          ((consumeExpression lexer).andThen fun e after => .done (some e) after)
          ((consumeExpression other).andThen fun e after => .done (some e) after) :=
        (readShared_consumeExpression hfinal h).andThen_unfinished fun e _ _ h => .alike rfl h
      cases hwhole with
      | alike result_eq state => exact .alike result_eq state
      | paused position result ends =>
        exact .paused position result fun hnone => ⟨(ends hnone).1, .inr (ends hnone).2⟩
  · rw [Outcome.andThen_ok hended]
    exact ⟨hdone, .inl rfl⟩

end Parts

end Calculator

open Calculator

namespace Session

/-! ## 2. Turns -/

/-- The sessions differ in the sources of their lexers only, and these are related. -/
def Alike (R : Source → Source → Prop) (session other : Session) : Prop :=
  ∃ lexer, session.lexer.Alike R lexer ∧ other = { session with lexer }

section Recovery

variable {R : Source → Source → Prop} {session other : Session} {error : CalcError}

theorem Alike.emit (h : session.Alike R other) (text : String) :
    (session.emit text).Alike R (other.emit text) := by
  obtain ⟨lexer, hlexer, rfl⟩ := h
  exact ⟨lexer, hlexer, rfl⟩

theorem Alike.countValue (h : session.Alike R other) : session.countValue.Alike R other.countValue := by
  obtain ⟨lexer, hlexer, rfl⟩ := h
  exact ⟨lexer, hlexer, rfl⟩

theorem Alike.countError (h : session.Alike R other) : session.countError.Alike R other.countError := by
  obtain ⟨lexer, hlexer, rfl⟩ := h
  exact ⟨lexer, hlexer, rfl⟩

theorem Alike.promptText_eq (hreleased : ∀ {source other}, R source other →
    other.isReleased = source.isReleased) (h : session.Alike R other) :
    other.promptText = session.promptText := by
  obtain ⟨_, ⟨source, hsource, rfl⟩, rfl⟩ := h
  rw [promptText, promptText, needsLine, needsLine, Lexer.isReleased, Lexer.isReleased,
    hreleased hsource]

/-- What caused the error is known already, so it is passed over alike. -/
theorem Alike.recover (h : session.Alike R other) {lexer : Lexer Kind}
    (hfault : Fault lexer session.lexer error) :
    (session.recover error).state.Alike R (other.recover error).state := by
  obtain ⟨next, hlexer, rfl⟩ := h
  unfold Session.recover
  split
  · have hlook : session.lexer.lookahead ≠ .unprimed := by
      rcases hfault.known_of_unexpected.2 with ⟨t, ht⟩ | hend
      · rw [ht]; nofun
      · rw [hend]; nofun
    refine ⟨next.discard.state, ?_, rfl⟩
    show session.lexer.discard.state.Alike R next.discard.state
    rw [Lexer.state_discard, Lexer.state_discard]
    exact (hlexer.prime_of_known hlook).nextToken.state
  · obtain ⟨source, hsource, rfl⟩ := hlexer
    exact ⟨_, ⟨source, hsource, rfl⟩, rfl⟩
  · exact ⟨next, hlexer, rfl⟩

end Recovery

/-- A turn of two sessions behind shared lines: they stay alike, or the first one has met the
failure of its reader, having written its prompt. -/
inductive TurnShared (failure : Failure) (later : List Chunk) (more : List Delivery)
    (session other : Session) : Prop where
  | alike (result_eq : other.turn.result = session.turn.result)
      (state : session.turn.state.Alike (Source.Shares failure later more) other.turn.state)
  | paused (error : CalcError) (result : session.turn.result = .error error)
      (sink : session.turn.state.sink = (other.emit other.promptText).sink)
      (ends : more = [] → (nextExpression other.lexer).state.IsDone ∧
        ((nextExpression other.lexer).result = .ok none ∨
          Unfinished (nextExpression other.lexer).result (nextExpression other.lexer).state))

section Turns

variable {session other : Session} (hfinal : failure.isInterrupted = false)

include hfinal

theorem turnShared (h : session.Alike (Source.Shares failure later more) other)
    (hsink : session.sink.NeverFails) : TurnShared failure later more session other := by
  have hprompt := h.promptText_eq (Source.couples_shares hfinal).isReleased_eq
  have hprompted := h.emit session.promptText
  obtain ⟨lexer, hlexer, rfl⟩ := h
  have hother : ({ session with lexer } : Session).sink.NeverFails := hsink
  cases readShared_nextExpression hfinal hlexer with
  | alike result_eq state =>
    have hverdict : verdict lexer = verdict session.lexer := by rw [verdict, verdict, result_eq]
    have hread : (session.emit session.promptText).read.Alike (Source.Shares failure later more)
        (({ session with lexer } : Session).emit session.promptText).read := ⟨_, state, rfl⟩
    cases session.unhindered hsink with
    | ended verdict turned result =>
      obtain ⟨hresult, hstate⟩ := turn_of_ended _ hother (hverdict.trans verdict)
      refine .alike (hresult.trans result.symm) ?_
      rw [turned, hstate, hprompt]
      exact hread
    | answered value verdict turned result =>
      obtain ⟨hresult, hstate⟩ := turn_of_value _ hother (hverdict.trans verdict)
      refine .alike (hresult.trans result.symm) ?_
      rw [turned, hstate, hprompt]
      exact hread.countValue.emit (valueLine value)
    | reported error verdict recoverable turned result =>
      obtain ⟨hresult, hstate⟩ := turn_of_fault _ hother (hverdict.trans verdict) recoverable
      refine .alike (hresult.trans result.symm) ?_
      rw [turned, hstate, hprompt]
      exact (hread.countError.emit (errorLine error)).recover (fault_of_verdict verdict)
    | failed error verdict final turned result =>
      obtain ⟨hresult, hstate⟩ := turn_of_final _ hother (hverdict.trans verdict) final
      refine .alike (hresult.trans result.symm) ?_
      rw [turned, hstate, hprompt]
      exact hread
  | paused position result ends =>
    have hverdict : verdict session.lexer = .error (.lex ⟨position, .device failure⟩) := by
      rw [verdict, result]
    obtain ⟨hresult, hstate⟩ := turn_of_final session hsink hverdict rfl
    refine .paused _ hresult ?_ ends
    rw [hstate, hprompt]
    rfl

/-! ## 3. Runs -/

/-- A run of two sessions behind shared lines: both write the same, or the first one ends with the
prompt of a turn in which the other one goes on. -/
theorem run_of_shared (h : session.Alike (Source.Shares failure later more) other)
    (hsink : session.sink.NeverFails) :
    other.run.state.sink = session.run.state.sink ∨
      ∃ last : Session, last.sink.NeverFails ∧ other.run.state = last.run.state ∧
        session.run.state.sink = (last.emit last.promptText).sink ∧
        (more = [] → (nextExpression last.lexer).state.IsDone ∧
          ((nextExpression last.lexer).result = .ok none ∨
            Unfinished (nextExpression last.lexer).result (nextExpression last.lexer).state)) := by
  induction session using run_induction generalizing other with
  | going session hgoing ih =>
    cases turnShared hfinal h hsink with
    | alike result_eq state =>
      rw [(run_of_going hgoing).2, (run_of_going (result_eq.trans hgoing)).2]
      exact ih state (charged_turn hsink).2
    | paused error result sink ends => rw [hgoing] at result; cases result
  | last session hlast =>
    cases turnShared hfinal h hsink with
    | alike result_eq state =>
      left
      rw [(run_of_last hlast).2, (run_of_last (result_eq ▸ hlast)).2]
      obtain ⟨lexer, -, hstate⟩ := state
      rw [hstate]
    | paused error result sink ends =>
      right
      obtain ⟨lexer, -, rfl⟩ := h
      refine ⟨{ session with lexer }, hsink, rfl, ?_, ends⟩
      rw [(run_of_failed result).2, sink]

omit hfinal

end Turns

/-! ## 4. What is written stays -/

theorem prefix_emit (session : Session) (text : String) :
    session.sink.written <+: (session.emit text).sink.written := List.prefix_append _ _

/-- A turn writes behind its prompt, and behind what was written before. -/
theorem prefix_turn {session : Session} (hsink : session.sink.NeverFails) :
    (session.emit session.promptText).sink.written <+: session.turn.state.sink.written := by
  cases session.unhindered hsink with
  | ended verdict state => rw [state]; exact List.prefix_rfl
  | answered value verdict state => rw [state]; exact prefix_emit _ (valueLine value)
  | reported error verdict recoverable state =>
    obtain ⟨lexer, hrecover⟩ := ((((session.emit session.promptText).read.countError).emit
      (errorLine error))).exists_recover_eq error
    rw [state, hrecover]
    exact prefix_emit _ (errorLine error)
  | failed error verdict final state => rw [state]; exact List.prefix_rfl

theorem prefix_run {session : Session} (hsink : session.sink.NeverFails) :
    (session.emit session.promptText).sink.written <+: session.run.state.sink.written := by
  induction session using run_induction with
  | going session hgoing ih =>
    rw [(run_of_going hgoing).2]
    exact (prefix_turn hsink).trans ((prefix_emit _ _).trans (ih (charged_turn hsink).2))
  | last session hlast =>
    rw [(run_of_last hlast).2]
    exact prefix_turn hsink

/-! ## 5. The end of the input -/

/-- Where the input has ended a session ends, and writes nothing. -/
theorem sink_run_of_isDone {session : Session} (hsink : session.sink.NeverFails)
    (hdone : session.lexer.IsDone) : session.run.state.sink = session.sink := by
  have hprime := Lexer.prime_of_endOfInput hdone.1
  have hverdict : verdict session.lexer = .ok none := by
    apply verdict_of_prime
    · rw [hprime]
      rfl
    · rw [hprime]
      show ∀ t ∈ session.lexer.lookahead.token?, isExit t = true
      rw [hdone.1]
      nofun
  have hprompt : session.promptText = "" := by
    have hreleased : session.lexer.isReleased = true := hdone.2
    simp [promptText, needsLine, hreleased]
  obtain ⟨hresult, hstate⟩ := turn_of_ended session hsink hverdict
  rw [(run_of_ended hresult).2, hstate, hprompt, emit_empty]
  rfl

/-- The line for an expression that the end of the input leaves incomplete. -/
def unfinishedLine (position : Position) (kind : Kind) : String :=
  "error: " ++ position.describe ++ ": expected " ++ TokenKind.name kind ++
    ", found end of input\n"

theorem errorLine_unexpected (position : Position) (kind : Kind) :
    errorLine (.lex ⟨position, .unexpected kind none none⟩) = unfinishedLine position kind := by
  have hfront : ": expected " = ": " ++ "expected " := by decide
  have hback : ", found end of input\n" = ", found " ++ ("end of input" ++ "\n") := by decide
  rw [unfinishedLine, hfront, hback]
  show "error: " ++ (position.describe ++ ": " ++
    ("expected " ++ TokenKind.name kind ++ ", found " ++ "end of input")) ++ "\n" = _
  simp only [String.append_assoc]

theorem run_of_unfinished {session : Session} (hsink : session.sink.NeverFails)
    (hdone : (nextExpression session.lexer).state.IsDone)
    (hends : (nextExpression session.lexer).result = .ok none ∨
      Unfinished (nextExpression session.lexer).result (nextExpression session.lexer).state) :
    session.run.state.sink = (session.emit session.promptText).sink ∨
      ∃ position kind, session.run.state.sink =
        ((session.emit session.promptText).emit (unfinishedLine position kind)).sink := by
  rcases hends with hnone | ⟨kind, herror⟩
  · left
    have hverdict : verdict session.lexer = .ok none := by rw [verdict, hnone]
    obtain ⟨hresult, hstate⟩ := turn_of_ended session hsink hverdict
    rw [(run_of_ended hresult).2, hstate]
    rfl
  · right
    generalize hlast : (nextExpression session.lexer).state = last at hdone herror
    have hwanted : last.unexpected kind none = ⟨last.position, .unexpected kind none none⟩ := by
      rw [Lexer.unexpected, hdone.1]
      rfl
    rw [hwanted] at herror
    have hverdict : verdict session.lexer =
        .error (.lex ⟨last.position, .unexpected kind none none⟩) := by
      rw [verdict, herror]
    obtain ⟨hresult, hstate⟩ := turn_of_fault session hsink hverdict rfl
    rw [errorLine_unexpected] at hstate
    -- there is no token to discard, so the session ends with the next turn
    have hdiscard : last.discard.state = last := by
      rw [Lexer.state_discard, Lexer.nextToken_of_known_end hdone.1]
      rfl
    generalize hcounted : ((session.emit session.promptText).read.countError).emit
      (unfinishedLine last.position kind) = counted at hstate
    have hlexer : counted.lexer = last := by
      rw [← hcounted, ← hlast]
      rfl
    have hrecover : (counted.recover (.lex ⟨last.position, .unexpected kind none none⟩)).state =
        counted := by
      show { counted with lexer := counted.lexer.discard.state } = counted
      rw [hlexer, hdiscard, ← hlexer]
    rw [hrecover] at hstate
    have hquiet : counted.sink.NeverFails := by
      rw [← hcounted]
      exact neverFails_emit _ (neverFails_emit session hsink session.promptText) _
    refine ⟨last.position, kind, ?_⟩
    rw [(run_of_going hresult).2, hstate, sink_run_of_isDone hquiet (hlexer ▸ hdone), ← hcounted]
    rfl

/-! ## 6. Whole sessions -/

theorem alike_fresh {chunks : List Chunk} {reader : Reader} (hsteady : Reader.IsSteady ⟨chunks⟩)
    (hclosed : IsClosed (Reader.stream ⟨chunks⟩)) (hreader : reader.IsSteady)
    (hstream : reader.stream = Reader.stream ⟨chunks⟩ ++ more) (sink : Sink)
    (prompt : Option String) :
    (fresh ⟨chunks ++ .failure failure :: later⟩ sink prompt).Alike
      (Source.Shares failure later more) (fresh reader sink prompt) :=
  ⟨_, ⟨.reading reader, .intro hsteady hclosed hreader hstream, rfl⟩, rfl⟩

/-- What a session writes up to the failure of a reader that has delivered `front`, whole lines,
it writes before anything behind them: in front of any `back` the output begins with it.  Where
nothing is delivered behind `front`, the output is the same, but for one line if an expression is
not complete. -/
theorem written_of_delivers (front back : List UInt8) (hfront : ∀ last ∈ front.getLast?, last = 10)
    (chunks later : List Chunk) (failure : Failure) (whole alone : Reader)
    (hchunks : Reader.Delivers ⟨chunks⟩ front) (hfinal : failure.isInterrupted = false)
    (hwhole : whole.Delivers (front ++ back)) (halone : alone.Delivers front)
    (prompt : Option String) :
    ∃ first second third : Session,
      start ⟨chunks ++ .failure failure :: later⟩ .unbounded prompt = .ok first ∧
      start whole .unbounded prompt = .ok second ∧ start alone .unbounded prompt = .ok third ∧
      first.run.state.sink.written <+: second.run.state.sink.written ∧
      (third.run.state.sink.written = first.run.state.sink.written ∨
        ∃ (position : Position) (kind : Kind),
          third.run.state.sink.written = first.run.state.sink.written ++
            encodeUtf8 ("error: " ++ position.describe ++ ": expected " ++ TokenKind.name kind ++
              ", found end of input\n").toList) := by
  obtain ⟨hstream, hsteady⟩ := Reader.stream_of_delivers hchunks
  obtain ⟨hwholeStream, hwholeSteady⟩ := Reader.stream_of_delivers hwhole
  obtain ⟨haloneStream, haloneSteady⟩ := Reader.stream_of_delivers halone
  have hclosed : IsClosed (Reader.stream ⟨chunks⟩) := by
    rw [hstream, isClosed_map_byte]
    intro last hlast
    rw [hfront last hlast]
    rfl
  have hsink : Sink.unbounded.NeverFails := ⟨rfl, rfl⟩
  refine ⟨fresh ⟨chunks ++ .failure failure :: later⟩ .unbounded prompt,
    fresh whole .unbounded prompt, fresh alone .unbounded prompt, start_eq _ _ _, start_eq _ _ _,
    start_eq _ _ _, ?_, ?_⟩
  · have hshared : (fresh ⟨chunks ++ .failure failure :: later⟩ .unbounded prompt).Alike
        (Source.Shares failure later (back.map .byte)) (fresh whole .unbounded prompt) :=
      alike_fresh hsteady hclosed hwholeSteady (by rw [hwholeStream, List.map_append, hstream]) _ _
    rcases run_of_shared hfinal hshared hsink with hsame | ⟨last, hlast, hrun, hpaused, -⟩
    · rw [hsame]
    · rw [hrun, hpaused]
      exact prefix_run hlast
  · have hshared : (fresh ⟨chunks ++ .failure failure :: later⟩ .unbounded prompt).Alike
        (Source.Shares failure later []) (fresh alone .unbounded prompt) :=
      alike_fresh hsteady hclosed haloneSteady (by rw [haloneStream, List.append_nil, hstream]) _ _
    rcases run_of_shared hfinal hshared hsink with hsame | ⟨last, hlast, hrun, hpaused, hends⟩
    · rw [hsame]
      exact .inl rfl
    · obtain ⟨hdone, hended⟩ := hends rfl
      rw [hrun, hpaused]
      rcases run_of_unfinished hlast hdone hended with hsame | ⟨position, kind, hline⟩
      · rw [hsame]
        exact .inl rfl
      · rw [hline]
        exact .inr ⟨position, kind, rfl⟩

/-- An expression, and one that goes on in the next line. -/
theorem written_of_delivers_sum :
    let front : List UInt8 := [49, 43, 50, 10, 51, 43, 10]
    let paused : Reader := ⟨[.data [49, 43], .failure ⟨"Interrupted", "again"⟩,
      .data [50, 10, 51, 43, 10], .failure ⟨"TimedOut", "slow"⟩]⟩
    let whole : Reader := ⟨[.data (front ++ [52, 10])]⟩
    let alone : Reader := ⟨[.data front]⟩
    ∃ first second third : Session,
      start paused .unbounded (some "> ") = .ok first ∧
      start whole .unbounded (some "> ") = .ok second ∧
      start alone .unbounded (some "> ") = .ok third ∧
      first.run.state.sink.written <+: second.run.state.sink.written ∧
      (third.run.state.sink.written = first.run.state.sink.written ∨
        ∃ (position : Position) (kind : Kind),
          third.run.state.sink.written = first.run.state.sink.written ++
            encodeUtf8 ("error: " ++ position.describe ++ ": expected " ++ TokenKind.name kind ++
              ", found end of input\n").toList) := by
  intro front paused whole alone
  have hfront : ∀ last ∈ front.getLast?, last = 10 := by
    rintro _ ⟨⟩
    rfl
  have hpaused : Reader.Delivers
      ⟨[.data [49, 43], .failure ⟨"Interrupted", "again"⟩, .data [50, 10, 51, 43, 10]]⟩ front :=
    .data (by simp) (.retried (by decide) (.data (by simp) .ended))
  have hwhole : whole.Delivers (front ++ [52, 10]) := .data (by simp [front]) .ended
  have halone : alone.Delivers front := .data (by simp [front]) .ended
  exact written_of_delivers front [52, 10] hfront _ [] ⟨"TimedOut", "slow"⟩ whole alone hpaused
    (by decide) hwhole halone (some "> ")

end Session

end Linewise
