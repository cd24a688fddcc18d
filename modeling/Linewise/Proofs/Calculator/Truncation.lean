import Linewise.Proofs.Calculator.Causality

/-!
# Truncation — what an output gets that takes so many bytes only

A session whose sink has room for so many bytes goes through the same states as one whose output
never fails, but for the bytes that do not fit, until a text is written that does not fit as a
whole: there the session ends.  `Truncated` says so of an operation; it is shown for writing, for a
turn, and for a run.
-/

namespace Linewise

open Calculator

/-- What a sink would hold, and what room there would be, had it taken so many bytes only. -/
def Sink.limited (limit : Nat) (sink : Sink) : Sink :=
  { sink with written := sink.written.take limit, room := some (limit - sink.written.length) }

namespace Session

def limited (limit : Nat) (session : Session) : Session :=
  { session with sink := session.sink.limited limit }

/-- Nothing has been written beyond the limit. -/
def Fits (limit : Nat) (session : Session) : Prop := session.sink.written.length ≤ limit

/-- The outcome of an operation whose output gives out at the limit, beside the outcome of the same
operation with an output that does not. -/
inductive Truncated {α : Type} (limit : Nat) (free bounded : SessionOutcome α) : Prop where
  | whole (fits : free.state.Fits limit) (state : bounded.state = free.state.limited limit)
      (result : bounded.result = free.result)
  | cut (exceeds : ¬ free.state.Fits limit)
      (written : bounded.state.sink.written = free.state.sink.written.take limit)
      (result : bounded.result = .error (.output .closedOutput))

variable {limit : Nat} {session : Session}

/-- Where the output has given out, it makes no difference what would have been written behind. -/
theorem Truncated.cut_of_early {α β : Type} {early : SessionOutcome α} {free : SessionOutcome β}
    {bounded : SessionOutcome β} (hexceeds : ¬ early.state.Fits limit)
    (hearly : early.state.sink.written <+: free.state.sink.written)
    (hwritten : bounded.state.sink.written = early.state.sink.written.take limit)
    (hresult : bounded.result = .error (.output .closedOutput)) :
    Truncated limit free bounded := by
  obtain ⟨later, hlater⟩ := hearly
  unfold Fits at hexceeds
  refine .cut ?_ ?_ hresult
  · rw [Fits, ← hlater, List.length_append]
    omega
  · rw [hwritten, ← hlater, List.take_append_of_le_length (by omega)]

/-! ## 1. Writing -/

/-- A text is written up to the limit; the write fails if it reaches beyond. -/
theorem truncated_write (hfits : session.Fits limit) (text : String) :
    Truncated limit (.done () (session.emit text)) ((session.limited limit).write text) := by
  unfold Fits at hfits
  have hstate : ((session.limited limit).write text).state = (session.emit text).limited limit := by
    have hwritten : session.sink.written.take limit ++
          (encodeUtf8 text.toList).take (limit - session.sink.written.length) =
        (session.sink.written ++ encodeUtf8 text.toList).take limit := by
      rw [List.take_append]
    have hroom : limit - session.sink.written.length - (encodeUtf8 text.toList).length =
        limit - (session.sink.written ++ encodeUtf8 text.toList).length := by
      rw [List.length_append]
      omega
    simp only [write, onSink, Sink.write, limited, Sink.limited, emit, hwritten, hroom]
  have hresult : ((session.limited limit).write text).result =
      if (encodeUtf8 text.toList).length ≤ limit - session.sink.written.length then .ok ()
      else .error (.output .closedOutput) := by
    simp only [write, onSink, Sink.write, limited, Sink.limited]
    split <;> rfl
  by_cases hlength : (encodeUtf8 text.toList).length ≤ limit - session.sink.written.length
  · rw [if_pos hlength] at hresult
    refine .whole ?_ hstate hresult
    show (session.sink.written ++ encodeUtf8 text.toList).length ≤ limit
    rw [List.length_append]
    omega
  · rw [if_neg hlength] at hresult
    refine .cut ?_ (by rw [hstate]; rfl) hresult
    show ¬ (session.sink.written ++ encodeUtf8 text.toList).length ≤ limit
    rw [List.length_append]
    omega

theorem truncated_showPrompt (hfits : session.Fits limit) (hsink : session.sink.NeverFails) :
    Truncated limit (.done () (session.emit session.promptText))
      (session.limited limit).showPrompt := by
  have hunwritten (htext : session.promptText = "")
      (hshow : (session.limited limit).showPrompt = .done () (session.limited limit)) :
      Truncated limit (.done () (session.emit session.promptText))
        (session.limited limit).showPrompt := by
    rw [htext, emit_empty, hshow]
    exact .whole hfits rfl rfl
  cases hprompt : session.prompt with
  | none =>
    refine hunwritten (by simp [promptText, hprompt]) ?_
    simp only [showPrompt, limited, hprompt]
  | some prompt =>
    by_cases hneeds : session.needsLine = true
    · have htext : session.promptText = prompt := by simp [promptText, hprompt, hneeds]
      have hshow : (session.limited limit).showPrompt =
          ((session.limited limit).write prompt).andThen
            fun _ session => session.onSink Sink.flush := by
        have hneeds' : (session.limited limit).needsLine = true := hneeds
        have hprompt' : (session.limited limit).prompt = some prompt := hprompt
        simp only [showPrompt, hprompt', hneeds', if_true]
      rw [htext, hshow]
      cases truncated_write hfits prompt with
      | whole fits state result =>
        rw [Outcome.andThen_ok result, state]
        -- flushing never fails
        have hflush : ((session.emit prompt).limited limit).onSink Sink.flush =
            .done () ((session.emit prompt).limited limit) := by
          have hflushes : ((session.emit prompt).limited limit).sink.flushes = none := hsink.flushes
          simp only [onSink, Sink.flush, hflushes]
          rfl
        show Truncated limit _ ((((session.emit prompt).limited limit).onSink Sink.flush).preceded _)
        rw [hflush]
        exact .whole fits rfl rfl
      | cut exceeds written result =>
        rw [Outcome.andThen_error result]
        exact .cut exceeds written rfl
    · refine hunwritten (by simp [promptText, hneeds]) ?_
      have hneeds' : ¬ (session.limited limit).needsLine = true := hneeds
      have hprompt' : (session.limited limit).prompt = some prompt := hprompt
      simp only [showPrompt, hprompt', hneeds']
      rfl

theorem truncated_tell (hfits : session.Fits limit) (value : Float) :
    Truncated limit (.done () (session.countValue.emit (valueLine value)))
      ((session.limited limit).tell value) :=
  have hcounted : session.countValue.Fits limit := hfits
  truncated_write hcounted (valueLine value)

theorem limited_recover (limit : Nat) (session : Session) (error : CalcError) :
    ((session.limited limit).recover error).state = (session.recover error).state.limited limit ∧
      ((session.limited limit).recover error).result = (session.recover error).result := by
  unfold recover
  split <;> exact ⟨rfl, rfl⟩

/-- An error that is reported is passed over, unless its line does not fit. -/
theorem truncated_report (hfits : session.Fits limit) {error : CalcError}
    (hrecover : ((session.countError.emit (errorLine error)).recover error).result = .ok ()) :
    Truncated limit (.done () ((session.countError.emit (errorLine error)).recover error).state)
      ((session.limited limit).report error) := by
  have hreport : (session.limited limit).report error =
      ((session.countError.limited limit).write (errorLine error)).andThen
        fun _ session => session.recover error := rfl
  have hwritten : ((session.countError.emit (errorLine error)).recover error).state.sink =
      (session.countError.emit (errorLine error)).sink := by
    obtain ⟨lexer, hstate⟩ := (session.countError.emit (errorLine error)).exists_recover_eq error
    rw [hstate]
  have hcounted : session.countError.Fits limit := hfits
  rw [hreport]
  cases truncated_write hcounted (errorLine error) with
  | whole fits state result =>
    obtain ⟨hpassed, hok⟩ :=
      limited_recover limit (session.countError.emit (errorLine error)) error
    rw [Outcome.andThen_ok result, state]
    refine .whole ?_ hpassed (hok.trans hrecover)
    rw [Fits, Outcome.done, hwritten]
    exact fits
  | cut exceeds written result =>
    rw [Outcome.andThen_error result]
    exact .cut_of_early exceeds (by rw [Outcome.done, Outcome.done, hwritten]) written rfl

/-! ## 2. Turns -/

theorem truncated_turn (hfits : session.Fits limit) (hsink : session.sink.NeverFails) :
    Truncated limit session.turn (session.limited limit).turn := by
  have hprompted := neverFails_emit session hsink session.promptText
  cases truncated_showPrompt hfits hsink with
  | cut exceeds written result =>
    have hturn : (session.limited limit).turn =
        ⟨.error (.output .closedOutput), (session.limited limit).showPrompt.state,
          (session.limited limit).showPrompt.events⟩ := Outcome.andThen_error result _
    rw [hturn]
    exact .cut_of_early exceeds (prefix_turn hsink) written rfl
  | whole fits prompted shown =>
    have hread : (session.limited limit).showPrompt.state.read =
        (session.emit session.promptText).read.limited limit := by
      rw [prompted]
      rfl
    replace fits : (session.emit session.promptText).read.Fits limit := fits
    cases (session.limited limit).turned with
    | unprompted failure prompt => rw [shown] at prompt; cases prompt
    | ended prompt verdict state result =>
      obtain ⟨hresult, hstate⟩ := turn_of_ended session hsink verdict
      rw [hread] at state
      exact .whole (hstate ▸ fits) (by rw [state, hstate]) (result.trans hresult.symm)
    | answered value prompt verdict state result =>
      obtain ⟨hresult, hstate⟩ := turn_of_value session hsink verdict
      rw [hread] at state result
      cases truncated_tell fits value with
      | whole fits told done =>
        rw [done] at result
        exact .whole (hstate ▸ fits) (by rw [state, hstate, told]; rfl) (result.trans hresult.symm)
      | cut exceeds written done =>
        rw [done] at result
        exact .cut_of_early exceeds (by rw [hstate]; exact List.prefix_rfl) (state ▸ written) result
    | reported error prompt verdict recoverable state result =>
      obtain ⟨hresult, hstate⟩ := turn_of_fault session hsink verdict recoverable
      rw [hread] at state result
      have hrecover : (((session.emit session.promptText).read.countError.emit
          (errorLine error)).recover error).result = .ok () :=
        recover_of_fault (fault_of_verdict verdict) recoverable
      cases truncated_report fits hrecover with
      | whole fits reported done =>
        rw [done] at result
        exact .whole (hstate ▸ fits) (by rw [state, hstate, reported]; rfl)
          (result.trans hresult.symm)
      | cut exceeds written done =>
        rw [done] at result
        exact .cut_of_early exceeds (by rw [hstate]; exact List.prefix_rfl) (state ▸ written) result
    | failed error prompt verdict final state result =>
      obtain ⟨hresult, hstate⟩ := turn_of_final session hsink verdict final
      rw [hread] at state
      exact .whole (hstate ▸ fits) (by rw [state, hstate]) (result.trans hresult.symm)

/-! ## 3. Runs -/

/-- A run writes behind its first turn. -/
theorem prefix_run_turn (hsink : session.sink.NeverFails) :
    session.turn.state.sink.written <+: session.run.state.sink.written := by
  cases hturn : session.turn.result with
  | error error => rw [(run_of_failed hturn).2]
  | ok going =>
    cases going with
    | false => rw [(run_of_ended hturn).2]
    | true =>
      rw [(run_of_going hturn).2]
      exact (prefix_emit _ _).trans (prefix_run (charged_turn hsink).2)

theorem truncated_run (hfits : session.Fits limit) (hsink : session.sink.NeverFails) :
    Truncated limit session.run (session.limited limit).run := by
  induction session using run_induction with
  | going session hgoing ih =>
    cases truncated_turn hfits hsink with
    | cut exceeds written result =>
      obtain ⟨hresult, hstate⟩ := run_of_failed result
      exact .cut_of_early exceeds (prefix_run_turn hsink) (hstate ▸ written) hresult
    | whole fits state result =>
      obtain ⟨hresult, hlast⟩ := run_of_going hgoing
      obtain ⟨hresult', hlast'⟩ := run_of_going (result.trans hgoing)
      rw [state] at hresult' hlast'
      cases ih fits (charged_turn hsink).2 with
      | whole fits state result =>
        exact .whole (hlast ▸ fits) (by rw [hlast', hlast, state])
          (by rw [hresult', hresult, result])
      | cut exceeds written result =>
        exact .cut (hlast ▸ exceeds) (by rw [hlast', hlast, written]) (hresult'.trans result)
  | last session hlast =>
    cases truncated_turn hfits hsink with
    | cut exceeds written result =>
      obtain ⟨hresult, hstate⟩ := run_of_failed result
      exact .cut_of_early exceeds (prefix_run_turn hsink) (hstate ▸ written) hresult
    | whole fits state result =>
      obtain ⟨hresult, hrun⟩ := run_of_last hlast
      obtain ⟨hresult', hrun'⟩ := run_of_last (result ▸ hlast)
      refine .whole (hrun ▸ fits) (by rw [hrun', hrun, state]) ?_
      rw [hresult', hresult, result, state]
      rfl

/-- While the output does not fail, only the source ends a session with an error. -/
theorem device_of_run (hanchored : ∀ rule ∈ session.lexer.rules, rule.IsAnchored)
    (hsink : session.sink.NeverFails) {error : CalcError} (herror : session.run.result = .error error) :
    ∃ position failure, error = .lex ⟨position, .device failure⟩ := by
  obtain ⟨count, -, -, -, ⟨found, hturn, hrun⟩ | ⟨-, hrun⟩⟩ := exists_turns_of_run session
  · have hcourse : Course Sink.NeverFails session (session.afterTurns count) :=
      Course.start.afterTurns count
    have hlast : (session.afterTurns count).sink.NeverFails :=
      hcourse.preserves (fun session => session.sink.NeverFails) hsink
        (fun _ h => (charged_turn h).2) fun _ _ fits _ => fits
    rw [hrun] at herror
    cases herror
    rw [← hcourse.rules_eq] at hanchored
    rcases ofDevice_of_turn hanchored hturn with hsource | ⟨failure, rfl⟩
    · exact hsource
    · -- what stands in front of the lexer is no failure of the output
      cases unhindered _ hlast with
      | ended verdict state result => rw [hturn] at result; cases result
      | answered value verdict state result => rw [hturn] at result; cases result
      | reported error verdict recoverable state result => rw [hturn] at result; cases result
      | failed error verdict final state result =>
        rw [hturn] at result
        cases result
        cases fault_of_verdict verdict with
        | misread takes begins misreads => cases misreads
  · rw [hrun] at herror
    cases herror

/-- An output that takes `limit` bytes gets the first bytes of what an output without a limit gets.
If these are all of them the run ends as it does there, with its counts or with a failure of the
source, and leaves the same behind; if they are not, it ends with the failure of the output. -/
theorem run_of_limit (reader : Reader) (prompt : Option String) (limit : Nat) :
    ∃ free bounded : Session,
      start reader .unbounded prompt = .ok free ∧
      start reader ⟨[], some limit, none⟩ prompt = .ok bounded ∧
      bounded.run.state.sink.written = free.run.state.sink.written.take limit ∧
      (free.run.state.sink.written.length ≤ limit →
        bounded.run.result = free.run.result ∧
        bounded.run.state.lexer = free.run.state.lexer ∧
        bounded.run.state.summary = free.run.state.summary) ∧
      (limit < free.run.state.sink.written.length →
        bounded.run.result = .error (.output .closedOutput)) ∧
      ((∃ summary, free.run.result = .ok summary) ∨
        ∃ position failure, free.run.result = .error (.lex ⟨position, .device failure⟩)) := by
  have hsink : (fresh reader .unbounded prompt).sink.NeverFails := ⟨rfl, rfl⟩
  have hbounded : (fresh reader .unbounded prompt).limited limit =
      fresh reader ⟨[], some limit, none⟩ prompt := by
    simp [limited, Sink.limited, fresh, Sink.unbounded]
  have hends : (∃ summary, (fresh reader .unbounded prompt).run.result = .ok summary) ∨
      ∃ position failure,
        (fresh reader .unbounded prompt).run.result = .error (.lex ⟨position, .device failure⟩) := by
    cases hresult : (fresh reader .unbounded prompt).run.result with
    | ok summary => exact .inl ⟨summary, rfl⟩
    | error error =>
      obtain ⟨position, failure, rfl⟩ := device_of_run isAnchored_of_mem_rules hsink hresult
      exact .inr ⟨position, failure, rfl⟩
  refine ⟨fresh reader .unbounded prompt, fresh reader ⟨[], some limit, none⟩ prompt,
    start_eq _ _ _, start_eq _ _ _, ?_⟩
  have hfits : (fresh reader .unbounded prompt).Fits limit := Nat.zero_le limit
  rw [← hbounded]
  cases truncated_run hfits hsink with
  | whole fits state result =>
    rw [state]
    exact ⟨rfl, fun _ => ⟨result, rfl, rfl⟩, fun hexceeds => absurd fits (Nat.not_le.mpr hexceeds),
      hends⟩
  | cut exceeds written result =>
    exact ⟨written, fun hfits => absurd hfits exceeds, fun _ => result, hends⟩

end Session

end Linewise
