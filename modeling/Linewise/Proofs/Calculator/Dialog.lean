import Linewise.Proofs.Calculator.Prompting
import Linewise.Proofs.Calculator.Reach

/-!
# Dialogs — prompts and lines in the order in which they come

The dialog of a run is the sequence of the prompts that it writes and the lines that it reads.  Every
prompt is followed at once by a line, or by the end of the run.  Not every line has a prompt of its
own in front of it: a turn whose line does not settle it reads on without one.
-/

namespace Linewise

open Calculator

/-! ## 1. Lines that a turn reads -/

/-- The number of the line, if the event is that a line was read. -/
def SessionEvent.lineNumber? : SessionEvent → Option Nat
  | .lexing event => event.lineNumber?
  | .evaluated _ _ _ _ | .finished _ => none

namespace Session

variable {session : Session}

/-- The numbers of the lines that were read according to some events. -/
def lineNumbers (events : List SessionEvent) : List Nat := events.filterMap SessionEvent.lineNumber?

theorem lineNumbers_append (front back : List SessionEvent) :
    lineNumbers (front ++ back) = lineNumbers front ++ lineNumbers back :=
  List.filterMap_append

theorem lineNumbers_map_lexing (events : List (LexEvent Kind)) :
    lineNumbers (events.map .lexing) = Lexer.lineNumbers events := by
  rw [lineNumbers, List.filterMap_map]
  rfl

theorem events_showPrompt (session : Session) : session.showPrompt.events = [] := by
  unfold showPrompt
  split
  · rfl
  · next prompt _ =>
    split
    · cases hwrite : (session.write prompt).result with
      | ok => rw [Outcome.andThen_ok hwrite]; rfl
      | error => rw [Outcome.andThen_error hwrite]; rfl
    · rfl

theorem lineNumbers_step (session : Session) :
    lineNumbers session.step.events = linesRead session.lexer := by
  have hreading : lineNumbers (session.reading (nextExpression session.lexer)).events =
      linesRead session.lexer := lineNumbers_map_lexing _
  rw [step]
  cases hread : (session.reading (nextExpression session.lexer)).result with
  | error error => rw [Outcome.andThen_error hread]; exact hreading
  | ok found =>
    rw [Outcome.andThen_ok hread, Outcome.events_preceded, lineNumbers_append, hreading]
    cases found with
    | none => exact List.append_nil _
    | some e =>
      have hanswer (session : Session) :
          lineNumbers ((session.answer e).andThen fun _ session => .done true session).events =
            [] := by
        unfold answer
        split
        · rfl
        · next value _ =>
          rw [Outcome.andThen_preceded]
          unfold Outcome.andThen
          split <;> rfl
      exact (congrArg _ (hanswer _)).trans (List.append_nil _)

/-- To pass over an error no line is read: what caused it has been met already. -/
theorem lineNumbers_recover {lexer : Lexer Kind} {error : CalcError}
    (hfault : Fault lexer session.lexer error) :
    lineNumbers (session.recover error).events = [] := by
  unfold recover
  split
  · have hknown := hfault.known_of_unexpected.1
    show lineNumbers ((session.lexer.discard.events.map id).map .lexing) = []
    rw [List.map_id, lineNumbers_map_lexing, Lexer.discard, hknown]
    simp only [Outcome.done, Outcome.andThen]
    split <;> rfl
  · show lineNumbers (session.lexer.skipLine.2.map .lexing) = []
    rw [lineNumbers_map_lexing, Lexer.skipLine]
    simp only
    split <;> rfl
  · rfl

theorem lineNumbers_report {lexer : Lexer Kind} {error : CalcError}
    (hfault : Fault lexer session.lexer error) :
    lineNumbers (session.report error).events = [] := by
  rw [report]
  unfold Outcome.andThen
  split
  · exact lineNumbers_recover (by exact hfault)
  · rfl

/-- The lines of a turn are those that are read for its expression. -/
theorem lineNumbers_turn (hsink : session.sink.NeverFails) :
    lineNumbers session.turn.events = linesRead session.lexer := by
  obtain ⟨hshown, hstate⟩ := showPrompt_of_neverFails session hsink
  rw [turn, Outcome.andThen_ok hshown, Outcome.events_preceded, events_showPrompt, List.nil_append,
    hstate]
  have hlines := lineNumbers_step (session.emit session.promptText)
  unfold Outcome.orElse
  split
  · exact hlines
  · next error hstep =>
    rw [Outcome.events_preceded, lineNumbers_append, hlines]
    dsimp only
    split
    · next hrecover =>
      have hreport := lineNumbers_report (fault_of_step hstep hrecover)
      have hlast : lineNumbers (((session.emit session.promptText).step.state.report error).andThen
          fun _ session => .done true session).events = [] := by
        unfold Outcome.andThen
        split
        · exact (congrArg lineNumbers (List.append_nil _)).trans hreport
        · exact hreport
      rw [hlast]
      exact List.append_nil _
    · exact List.append_nil _

end Session

/-! ## 2. Turns that read on -/

namespace Calculator

variable {lexer : Lexer Kind}

/-- The lexer on the line of its next turn: where a new line is awaited, the next one. -/
def onLine (lexer : Lexer Kind) : Lexer Kind :=
  match awaitsLine lexer, lexer.source.nextLine with
  | true, (.line text, source) => lexer.startLine source text
  | _, _ => lexer

/-- The line of the next turn does not settle it, and there is a further one. -/
def ReadsOn (lexer : Lexer Kind) : Prop :=
  RunsShort (onLine lexer) ∧ ∃ text behind, (onLine lexer).source.nextLine = (.line text, behind)

/-- Where a new line is awaited, the first line that is read is the next one. -/
theorem linesRead_of_line (h : lexer.AtLineEnd) {text : List Char} {source : Source}
    (hline : lexer.source.nextLine = (.line text, source)) :
    linesRead lexer = lexer.position.nextLine.line :: linesRead (lexer.startLine source text) := by
  rw [linesRead, h.nextExpression_of_line hline]
  rfl

/-- Where no further line comes, none is read, and the turn is the last one. -/
theorem linesRead_of_none (h : lexer.AtLineEnd)
    (hnone : ∀ text source, lexer.source.nextLine ≠ (.line text, source)) :
    linesRead lexer = [] ∧ turnResult lexer ≠ .ok true := by
  rw [linesRead, turnResult, verdict]
  rcases hline : lexer.source.nextLine with ⟨text | _ | failure, source⟩
  · exact absurd hline (hnone text source)
  · rw [h.nextExpression_of_finished hline]
    refine ⟨?_, fun hgoing => by cases hgoing⟩
    show Lexer.lineNumbers (Lexer.releaseEvents lexer.source) = []
    unfold Lexer.releaseEvents
    split <;> rfl
  · rw [h.nextExpression_of_failed hline]
    exact ⟨rfl, fun hgoing => by cases hgoing⟩

end Calculator

/-! ## 3. Dialogs -/

/-- What a session and its user say to each other: a prompt, or the line with a number. -/
inductive DialogEntry where
  | prompt
  | line (number : Nat)
deriving DecidableEq, Repr

namespace DialogEntry

def lineNumber? : DialogEntry → Option Nat
  | .prompt => none
  | .line number => some number

/-- Every prompt is followed at once by a line, or nothing follows it. -/
def EachAnswered (dialog : List DialogEntry) : Prop :=
  ∀ front back, dialog = front ++ .prompt :: back →
    back = [] ∨ ∃ number later, back = .line number :: later

/-- Every line stands directly behind a prompt. -/
def EachPrompted (dialog : List DialogEntry) : Prop :=
  ∀ front number back, dialog = front ++ .line number :: back → front.getLast? = some .prompt

variable {front back : List DialogEntry}

/-- An entry of two dialogs one behind another is an entry of one of them. -/
theorem append_eq_append_cons {entry : DialogEntry} {before behind : List DialogEntry}
    (h : front ++ back = before ++ entry :: behind) :
    (∃ middle, front = before ++ entry :: middle ∧ behind = middle ++ back) ∨
      ∃ middle, before = front ++ middle ∧ back = middle ++ entry :: behind := by
  rcases List.append_eq_append_iff.mp h with ⟨middle, hbefore, hback⟩ | ⟨middle, hfront, hbehind⟩
  · exact .inr ⟨middle, hbefore, hback⟩
  · cases middle with
    | nil => exact .inr ⟨[], by simpa using hfront.symm, hbehind.symm⟩
    | cons _ middle =>
      obtain ⟨rfl, htail⟩ := List.cons.inj hbehind
      exact .inl ⟨middle, hfront, htail⟩

theorem EachAnswered.append (hfront : EachAnswered front) (hlast : front.getLast? ≠ some .prompt)
    (hback : EachAnswered back) : EachAnswered (front ++ back) := by
  intro before behind hsplit
  rcases append_eq_append_cons hsplit with ⟨middle, hbefore, rfl⟩ | ⟨middle, -, hbehind⟩
  · rcases hfront before middle hbefore with rfl | ⟨number, later, rfl⟩
    · rw [hbefore, List.getLast?_concat] at hlast
      exact absurd rfl hlast
    · exact .inr ⟨number, later ++ back, rfl⟩
  · exact hback middle behind hbehind

theorem eachPrompted_append (hlast : front.getLast? ≠ some .prompt) :
    EachPrompted (front ++ back) ↔ EachPrompted front ∧ EachPrompted back := by
  refine ⟨fun h => ⟨fun before number behind hsplit => ?_, fun before number behind hsplit => ?_⟩,
    ?_⟩
  · exact h before number (behind ++ back) (by rw [hsplit]; simp)
  · have hprompt := h (front ++ before) number behind (by rw [hsplit]; simp)
    -- a prompt directly in front of the second dialog would be the last entry of the first
    rcases List.eq_nil_or_concat' before with rfl | ⟨earlier, entry, rfl⟩
    · rw [List.append_nil] at hprompt
      exact absurd hprompt hlast
    · rwa [← List.append_assoc, List.getLast?_concat, ← @List.getLast?_concat _ earlier] at hprompt
  · rintro ⟨hfront, hback⟩ before number behind hsplit
    rcases append_eq_append_cons hsplit with ⟨middle, hbefore, -⟩ | ⟨middle, rfl, hbehind⟩
    · exact hfront before number middle hbefore
    · have hprompt := hback middle number behind hbehind
      rw [List.getLast?_append, hprompt]
      rfl

theorem lineNumbers_concat_prompt (dialog : List DialogEntry) :
    (dialog ++ [DialogEntry.prompt]).filterMap lineNumber? = dialog.filterMap lineNumber? := by
  rw [List.filterMap_append]
  exact List.append_nil _

/-- Where every line stands behind a prompt, there are no more lines than prompts. -/
theorem EachPrompted.length_le {dialog : List DialogEntry} (h : EachPrompted dialog) :
    (dialog.filterMap lineNumber?).length ≤ dialog.count .prompt := by
  induction hlength : dialog.length using Nat.strongRecOn generalizing dialog with
  | _ length ih =>
    subst hlength
    rcases List.eq_nil_or_concat' dialog with rfl | ⟨front, entry, rfl⟩
    · exact Nat.le_refl _
    · have hfront {earlier : List DialogEntry} (hearlier : earlier <+: front) :
          (earlier.filterMap lineNumber?).length ≤ earlier.count .prompt := by
        refine ih _ ?_ (fun before number behind hsplit => ?_) rfl
        · have := hearlier.length_le
          simp only [List.length_append, List.length_singleton]
          omega
        · obtain ⟨more, rfl⟩ := hearlier
          exact h before number (behind ++ (more ++ [entry])) (by rw [hsplit]; simp)
      cases entry with
      | prompt =>
        have := hfront List.prefix_rfl
        rw [lineNumbers_concat_prompt, List.count_append, List.count_singleton_self]
        omega
      | line number =>
        -- the prompt in front of the line belongs to no other line
        obtain ⟨earlier, rfl⟩ := List.getLast?_eq_some_iff.mp (h front number [] rfl)
        have := hfront (List.prefix_append earlier _)
        rw [List.filterMap_append, lineNumbers_concat_prompt, List.length_append, List.count_append,
          List.count_append, List.count_singleton_self]
        exact Nat.add_le_add_right this 1

end DialogEntry

namespace Session

open DialogEntry

variable {session : Session}

/-- The dialog of a turn: its prompt, if a new line is awaited, and the lines that it reads. -/
def turnDialog (session : Session) : List DialogEntry :=
  (if session.prompt.isSome && session.needsLine then [.prompt] else []) ++
    (lineNumbers session.turn.events).map .line

/-- The dialog of a run, turn after turn. -/
def dialog (session : Session) : List DialogEntry :=
  match h : session.turn.result with
  | .ok true =>
    have := budget_turn_lt h
    session.turnDialog ++ session.turn.state.dialog
  | .ok false => session.turnDialog
  | .error _ => session.turnDialog
termination_by session.lexer.budget

theorem dialog_of_going (hgoing : session.turn.result = .ok true) :
    session.dialog = session.turnDialog ++ session.turn.state.dialog := by
  rw [dialog]
  split
  · rfl
  · next hended => rw [hgoing] at hended; cases hended
  · next hfailed => rw [hgoing] at hfailed; cases hfailed

theorem dialog_of_last (hlast : session.turn.result ≠ .ok true) :
    session.dialog = session.turnDialog := by
  rw [dialog]
  split
  · next hgoing => exact absurd hgoing hlast
  · rfl
  · rfl

theorem lineNumber?_turnDialog (session : Session) :
    session.turnDialog.filterMap DialogEntry.lineNumber? = lineNumbers session.turn.events := by
  have hprompt : (if session.prompt.isSome && session.needsLine then [DialogEntry.prompt]
      else []).filterMap DialogEntry.lineNumber? = [] := by
    split <;> rfl
  rw [turnDialog, List.filterMap_append, hprompt, List.filterMap_map, List.nil_append]
  exact List.filterMap_some

/-- The lines of the dialog are the lines that the run reads. -/
theorem lineNumber?_dialog (session : Session) :
    session.dialog.filterMap DialogEntry.lineNumber? = lineNumbers session.run.events := by
  induction hbudget : session.lexer.budget using Nat.strongRecOn generalizing session with
  | _ budget ih =>
    rw [run]
    split
    · next hfailed =>
      rw [dialog_of_last (by rw [hfailed]; exact nofun), lineNumber?_turnDialog]
    · next hgoing =>
      rw [dialog_of_going hgoing, List.filterMap_append, lineNumber?_turnDialog,
        ih _ (hbudget ▸ budget_turn_lt hgoing) _ rfl]
      exact (lineNumbers_append _ _).symm
    · next hended =>
      rw [dialog_of_last (by rw [hended]; exact nofun), lineNumber?_turnDialog]
      exact ((lineNumbers_append _ _).trans (List.append_nil _)).symm

/-! ## 4. Turns in a first run -/

/-- A session with a prompt in front of a turn of its first run. -/
structure Ready (session : Session) : Prop where
  neverFails : session.sink.NeverFails
  prompted : session.prompt.isSome = true
  wellFormed : session.lexer.WellFormed
  lookahead : session.lexer.lookahead = .unprimed ∨ session.lexer.lookahead = .endOfInput

namespace Ready

variable (h : session.Ready)

include h

theorem turn (hgoing : session.turn.result = .ok true) : session.turn.state.Ready where
  neverFails := (charged_turn h.neverFails).2
  prompted := by
    rw [prompt_turn h.neverFails]
    exact h.prompted
  wellFormed := kept_turn kept_wellFormed h.wellFormed
  lookahead := by
    obtain ⟨hresult, hlexer⟩ := lexer_turn h.neverFails
    rw [hlexer]
    exact lookahead_behindTurn (by rw [← hresult, hgoing]; exact nofun)

theorem atLineEnd (hneeds : session.needsLine = true) : session.lexer.AtLineEnd := by
  simp only [needsLine, Bool.and_eq_true, List.isEmpty_iff, Bool.not_eq_true'] at hneeds
  refine ⟨h.lookahead.resolve_right fun hended => ?_, hneeds.1⟩
  have hreleased := h.wellFormed.ended_iff.mp hended
  rw [hneeds.2] at hreleased
  cases hreleased

end Ready

/-- What is said in a turn: lines without a prompt; the prompt, its line, and further lines; or the
prompt alone, in the last turn.  Beyond the line of the prompt lines are read exactly if the turn reads
on. -/
inductive Exchange (session : Session) : Prop where
  | unprompted (numbers : List Nat) (dialog : session.turnDialog = numbers.map .line)
      (readsOn : ReadsOn session.lexer ↔ numbers ≠ [])
  | prompted (number : Nat) (numbers : List Nat)
      (dialog : session.turnDialog = .prompt :: .line number :: numbers.map .line)
      (readsOn : ReadsOn session.lexer ↔ numbers ≠ [])
  | last (dialog : session.turnDialog = [.prompt]) (last : session.turn.result ≠ .ok true)
      (readsOn : ¬ ReadsOn session.lexer)

theorem Ready.exchange (h : session.Ready) : session.Exchange := by
  have hended := h.wellFormed.ended_iff.mp
  by_cases hneeds : session.needsLine = true
  · have hend := h.atLineEnd hneeds
    have hdialog : session.turnDialog = .prompt :: (linesRead session.lexer).map .line := by
      rw [turnDialog, lineNumbers_turn h.neverFails, h.prompted, hneeds]
      rfl
    by_cases hline : ∃ text source, session.lexer.source.nextLine = (.line text, source)
    · obtain ⟨text, source, hline⟩ := hline
      have honLine : onLine session.lexer = session.lexer.startLine source text := by
        rw [onLine, show awaitsLine session.lexer = true from hneeds, hline]
      rw [linesRead_of_line hend hline, List.map_cons] at hdialog
      refine .prompted _ _ hdialog ?_
      rw [ReadsOn, honLine, linesRead_ne_nil_iff]
      exact fun hlook => absurd (hend.primed.symm.trans hlook) nofun
    · have hnone (text : List Char) (source : Source) :
          session.lexer.source.nextLine ≠ (.line text, source) := fun hsome => hline ⟨_, _, hsome⟩
      obtain ⟨hlines, hresult⟩ := linesRead_of_none hend hnone
      have honLine : onLine session.lexer = session.lexer := by
        rw [onLine]
        split
        · next hsome => exact absurd hsome (hnone _ _)
        · rfl
      rw [hlines] at hdialog
      refine .last hdialog (by rwa [(lexer_turn h.neverFails).1]) ?_
      rw [ReadsOn, honLine]
      exact fun hreads => hline hreads.2
  · have hneeds : session.needsLine = false := by simpa using hneeds
    have honLine : onLine session.lexer = session.lexer := by
      rw [onLine, show awaitsLine session.lexer = false from hneeds]
    refine .unprompted (linesRead session.lexer) ?_ ?_
    · rw [turnDialog, lineNumbers_turn h.neverFails, hneeds, Bool.and_false]
      rfl
    · rw [ReadsOn, honLine, linesRead_ne_nil_iff hended]

namespace Exchange

variable (h : session.Exchange)

include h

/-- A session that goes on has not ended its turn with a prompt. -/
theorem getLast?_ne (hgoing : session.turn.result = .ok true) :
    session.turnDialog.getLast? ≠ some .prompt := by
  have hlines (numbers : List Nat) (entry : DialogEntry) (hentry : entry ≠ .prompt) :
      (entry :: numbers.map .line).getLast? ≠ some .prompt := by
    rcases List.eq_nil_or_concat' numbers with rfl | ⟨front, number, rfl⟩
    · simpa using hentry
    · rw [List.map_append, ← List.cons_append, List.map_singleton, List.getLast?_concat]
      nofun
  cases h with
  | unprompted numbers dialog =>
    rw [dialog]
    cases numbers with
    | nil => nofun
    | cons number numbers => exact hlines numbers (.line number) nofun
  | prompted number numbers dialog =>
    rw [dialog, List.getLast?_cons_cons]
    exact hlines numbers (.line number) nofun
  | last dialog last => exact absurd hgoing last

theorem eachAnswered : EachAnswered session.turnDialog := by
  -- among lines there is no prompt
  have hlines (numbers : List Nat) {front back : List DialogEntry}
      (hsplit : numbers.map .line = front ++ .prompt :: back) : False := by
    have hmem : DialogEntry.prompt ∈ numbers.map .line := by rw [hsplit]; simp
    simp at hmem
  intro front back hsplit
  cases h with
  | unprompted numbers dialog => exact (hlines numbers (dialog.symm.trans hsplit)).elim
  | prompted number numbers dialog =>
    rw [dialog] at hsplit
    cases front with
    | nil => exact .inr ⟨number, _, (List.cons.inj hsplit).2.symm⟩
    | cons entry front => exact (hlines (number :: numbers) (List.cons.inj hsplit).2).elim
  | last dialog =>
    rw [dialog] at hsplit
    cases front with
    | nil => exact .inl (List.cons.inj hsplit).2.symm
    | cons entry front => simp at hsplit

theorem eachPrompted_iff : EachPrompted session.turnDialog ↔ ¬ ReadsOn session.lexer := by
  cases h with
  | unprompted numbers dialog readsOn =>
    rw [readsOn, dialog, not_ne_iff]
    refine ⟨fun heach => ?_, ?_⟩
    · cases numbers with
      | nil => rfl
      | cons number numbers => exact absurd (heach [] number (numbers.map .line) rfl) nofun
    · rintro rfl front number back hsplit
      simp at hsplit
  | prompted number numbers dialog readsOn =>
    rw [readsOn, dialog, not_ne_iff]
    refine ⟨fun heach => ?_, ?_⟩
    · cases numbers with
      | nil => rfl
      | cons further numbers =>
        exact absurd (heach [.prompt, .line number] further (numbers.map .line) rfl) (by simp)
    · rintro rfl front further back hsplit
      cases front with
      | nil => simp at hsplit
      | cons entry front =>
        obtain ⟨rfl, hrest⟩ := List.cons.inj hsplit
        cases front with
        | nil => rfl
        | cons entry front => simp at hrest
  | last dialog _ readsOn =>
    refine iff_of_true ?_ readsOn
    rw [dialog]
    rintro front number back hsplit
    cases front with
    | nil => simp at hsplit
    | cons entry front => simp at hsplit

end Exchange

/-! ## 5. Runs -/

/-- What holds in front of each turn of a run. -/
def EachTurn (P : Session → Prop) (session : Session) : Prop :=
  ∀ count, (∀ earlier < count, (session.afterTurns earlier).turn.result = .ok true) →
    P (session.afterTurns count)

theorem eachTurn_iff {P : Session → Prop} :
    EachTurn P session ↔
      P session ∧ (session.turn.result = .ok true → EachTurn P session.turn.state) := by
  refine ⟨fun h => ⟨h 0 (by simp), fun hgoing count hearlier => ?_⟩,
    fun ⟨hnow, hlater⟩ count hearlier => ?_⟩
  · refine h (count + 1) fun earlier hlt => ?_
    cases earlier with
    | zero => exact hgoing
    | succ earlier => exact hearlier earlier (by omega)
  · cases count with
    | zero => exact hnow
    | succ count =>
      exact hlater (hearlier 0 (by omega)) count fun earlier hlt => hearlier (earlier + 1) (by omega)

theorem Ready.eachAnswered_dialog (h : session.Ready) : EachAnswered session.dialog := by
  induction session using run_induction with
  | going session hgoing ih =>
    rw [dialog_of_going hgoing]
    exact h.exchange.eachAnswered.append (h.exchange.getLast?_ne hgoing) (ih (h.turn hgoing))
  | last session hlast =>
    rw [dialog_of_last hlast]
    exact h.exchange.eachAnswered

/-- Every line has a prompt of its own exactly if no turn reads on. -/
theorem Ready.eachPrompted_dialog_iff (h : session.Ready) :
    EachPrompted session.dialog ↔ session.EachTurn fun session => ¬ ReadsOn session.lexer := by
  induction session using run_induction with
  | going session hgoing ih =>
    rw [eachTurn_iff, ← h.exchange.eachPrompted_iff, dialog_of_going hgoing,
      eachPrompted_append (h.exchange.getLast?_ne hgoing), ih (h.turn hgoing)]
    simp [hgoing]
  | last session hlast =>
    rw [eachTurn_iff, ← h.exchange.eachPrompted_iff, dialog_of_last hlast]
    simp [hlast]

theorem count_prompt_turnDialog (hprompt : session.prompt.isSome = true) :
    session.turnDialog.count .prompt = if awaitsLine session.lexer then 1 else 0 := by
  have hlines (numbers : List Nat) : (numbers.map DialogEntry.line).count .prompt = 0 :=
    List.count_eq_zero.mpr (by simp)
  rw [turnDialog, List.count_append, hlines, hprompt, Bool.true_and]
  show _ = if session.needsLine then 1 else 0
  split <;> rfl

/-- The output has one piece more than the dialog has prompts. -/
theorem Ready.length_outputPieces (h : session.Ready) :
    (outputPieces session.lexer).length = session.dialog.count .prompt + 1 := by
  have hadd (lexer : Lexer Kind) (later : List String) :
      (addTurn lexer later).length = (if awaitsLine lexer then 1 else 0) + later.length := by
    rw [addTurn]
    split <;> simp [Nat.add_comm]
  induction session using run_induction with
  | going session hgoing ih =>
    obtain ⟨hresult, hlexer⟩ := lexer_turn h.neverFails
    have hlater := ih (h.turn hgoing)
    rw [hlexer] at hlater
    rw [dialog_of_going hgoing, List.count_append, count_prompt_turnDialog h.prompted,
      outputPieces_of_going (hresult.symm.trans hgoing), hadd, hlater]
    omega
  | last session hlast =>
    obtain ⟨hresult, -⟩ := lexer_turn h.neverFails
    rw [dialog_of_last hlast, count_prompt_turnDialog h.prompted,
      outputPieces_of_last (by rwa [← hresult]), hadd]
    rfl

/-- In a first run with a prompt every prompt is followed at once by a line, or by the end of the run;
the prompts stand between pieces of output that are the same for all prompts.  Every line has a prompt
of its own in front of it, so that there are no more lines than prompts, if and only if no turn reads
on: a line that is used up before it settles the turn (it has only blanks, or it leaves an expression
unfinished) is followed by a further line without a prompt. -/
theorem dialog_of_run (reader : Reader) :
    ∃ pieces : List String, ∀ (written : List UInt8) (prompt : String), ∃ first,
      start reader ⟨written, none, none⟩ (some prompt) = .ok first ∧
      first.dialog.filterMap DialogEntry.lineNumber? = lineNumbers first.run.events ∧
      first.dialog.count .prompt + 1 = pieces.length ∧
      first.run.state.sink.written =
        written ++ encodeUtf8 (prompt.intercalate pieces).toList ∧
      EachAnswered first.dialog ∧
      (EachPrompted first.dialog ↔ first.EachTurn fun session => ¬ ReadsOn session.lexer) ∧
      (EachPrompted first.dialog →
        (lineNumbers first.run.events).length ≤ first.dialog.count .prompt) := by
  obtain ⟨result, behind, counted, hrun⟩ :=
    exists_run ((Lexer.ofReader reader).addRules rules) ⟨0, 0⟩
  refine ⟨outputPieces ((Lexer.ofReader reader).addRules rules), fun written prompt => ?_⟩
  have hready : (fresh reader ⟨written, none, none⟩ (some prompt)).Ready :=
    ⟨⟨rfl, rfl⟩, rfl, Lexer.wellFormed_ofReader reader rules, .inl rfl⟩
  refine ⟨_, start_eq reader _ _, lineNumber?_dialog _, hready.length_outputPieces.symm, ?_,
    hready.eachAnswered_dialog, hready.eachPrompted_dialog_iff, fun heach => ?_⟩
  · rw [(hrun _ hready.neverFails rfl rfl).2]
    rfl
  · rw [← lineNumber?_dialog]
    exact heach.length_le

/-- The first line leaves a sum unfinished, so the second one is read without a prompt. -/
theorem dialog_of_unfinished_sum :
    ∃ first, start (.ofBytes (encodeUtf8 "1 +\n2\n".toList)) .unbounded (some "> ") = .ok first ∧
      first.dialog = [.prompt, .line 1, .line 2, .prompt] ∧ ¬ EachPrompted first.dialog ∧
      first.run.state.sink.written = encodeUtf8 "> 3\n> ".toList := by
  refine ⟨_, start_eq _ _ _, ?_⟩
  have hdialog : (fresh (.ofBytes (encodeUtf8 "1 +\n2\n".toList)) .unbounded (some "> ")).dialog =
      [.prompt, .line 1, .line 2, .prompt] := by decide +kernel
  have hwritten : (fresh (.ofBytes (encodeUtf8 "1 +\n2\n".toList)) .unbounded
      (some "> ")).run.state.sink.written = encodeUtf8 "> 3\n> ".toList := by decide +kernel
  refine ⟨hdialog, fun heach => ?_, hwritten⟩
  have hprompt := heach [.prompt, .line 1] 2 [.prompt] hdialog
  cases hprompt

end Session

end Linewise
