import Linewise.Proofs.Lexer.Alike
import Linewise.Proofs.Lexer.Taking

/-!
# Chunking — how the bytes arrive does not matter

Sources with the same stream never part, so lexers in front of them stay alike through any actions.
Two readers have the same stream if they deliver the same bytes, wherever these are cut into chunks
and however often a read has to be tried again.
-/

namespace Linewise

variable {κ : Type} {R : Source → Source → Prop}

/-! ## 1. Actions of alike lexers -/

/-- The sources do not part anywhere. -/
abbrev Source.Couples.Throughout (R : Source → Source → Prop) : Prop :=
  Source.Couples R fun _ _ => False

namespace Lexer

section Requests

variable {lexer other : Lexer κ}

theorem GoAlike.exists_prime_eq (h : GoAlike R lexer.prime other.prime) :
    ∃ source, R lexer.prime.state.source source ∧
      other.prime = ⟨lexer.prime.result, { lexer.prime.state with source }, lexer.prime.events⟩ := by
  obtain ⟨source, hsource, hstate⟩ := h.state
  exact ⟨source, hsource, by rw [← h.result_eq, ← h.events_eq, ← hstate]⟩

/-- Everything that follows from the next token is alike. -/
theorem GoAlike.nextToken (h : GoAlike R lexer.prime other.prime) :
    GoAlike R lexer.nextToken other.nextToken := by
  obtain ⟨source, hsource, hprime⟩ := h.exists_prime_eq
  cases primed lexer with
  | failed error result =>
    have hother := h.result_eq.trans result
    rw [nextToken_of_error result, nextToken_of_error hother, hprime]
    exact ⟨rfl, rfl, source, hsource, rfl⟩
  | token t ok lookahead =>
    have hother := h.result_eq.trans ok
    have hlook := h.lookahead_eq.trans lookahead
    rw [nextToken_of_token ok lookahead, nextToken_of_token hother hlook, hprime]
    exact ⟨rfl, rfl, source, hsource, rfl⟩
  | endOfInput ok lookahead =>
    have hother := h.result_eq.trans ok
    have hlook := h.lookahead_eq.trans lookahead
    rw [nextToken_of_endOfInput ok lookahead, nextToken_of_endOfInput hother hlook, hprime]
    exact ⟨rfl, rfl, source, hsource, rfl⟩

theorem GoAlike.ask [DecidableEq κ] (request : Request κ)
    (h : GoAlike R lexer.prime other.prime) :
    GoAlike R (request.ask lexer) (request.ask other) := by
  obtain ⟨source, hsource, hprime⟩ := h.exists_prime_eq
  cases primed lexer with
  | failed error result =>
    have hother := h.result_eq.trans result
    rw [request.ask_of_error result, request.ask_of_error hother, hprime]
    exact ⟨rfl, rfl, source, hsource, rfl⟩
  | token t ok lookahead =>
    have hother := h.result_eq.trans ok
    have hlook := h.lookahead_eq.trans lookahead
    rw [request.ask_of_token ok lookahead, request.ask_of_token hother hlook, hprime]
    refine ⟨rfl, rfl, source, ?_⟩
    show R (ite _ _ _ : Lexer κ).source source ∧ (ite _ _ _ : Lexer κ) = _
    by_cases htakes : request.takes t = true
    · rw [if_pos htakes, if_pos htakes]
      exact ⟨hsource, rfl⟩
    · rw [if_neg htakes, if_neg htakes]
      exact ⟨hsource, rfl⟩
  | endOfInput ok lookahead =>
    have hother := h.result_eq.trans ok
    have hlook := h.lookahead_eq.trans lookahead
    rw [request.ask_of_endOfInput ok lookahead, request.ask_of_endOfInput hother hlook, hprime]
    exact ⟨rfl, rfl, source, hsource, rfl⟩

theorem Alike.prime_throughout (hcouples : Source.Couples.Throughout R)
    (h : lexer.Alike R other) : GoAlike R lexer.prime other.prime := by
  rcases h.prime hcouples with halike | ⟨-, -, -, -, -, hparts, -⟩
  · exact halike
  · exact hparts.elim

end Requests

end Lexer

/-- Two streams of tokens have given the same items and events, and have alike lexers. -/
structure TokenStream.RunAlike {β : Type} (R : Source → Source → Prop)
    (run other : β × TokenStream κ × List (LexEvent κ)) : Prop where
  items_eq : other.1 = run.1
  failed_eq : other.2.1.failed = run.2.1.failed
  events_eq : other.2.2 = run.2.2
  lexer : run.2.1.lexer.Alike R other.2.1.lexer

theorem TokenStream.runAlike_next {lexer other : Lexer κ} (h : lexer.Alike R other)
    (hnext : Lexer.GoAlike R lexer.nextToken other.nextToken) (failed : Bool) :
    RunAlike R (next ⟨lexer, failed⟩) (next ⟨other, failed⟩) := by
  cases failed with
  | true =>
    rw [next, next, if_pos rfl, if_pos rfl]
    exact ⟨rfl, rfl, rfl, h⟩
  | false =>
    rw [next, next, if_neg Bool.false_ne_true, if_neg Bool.false_ne_true]
    simp only [hnext.result_eq]
    cases lexer.nextToken.result with
    | ok token => exact ⟨rfl, rfl, hnext.events_eq, hnext.state⟩
    | error error => exact ⟨rfl, rfl, hnext.events_eq, hnext.state⟩

theorem TokenStream.runAlike_nextMany (hcouples : Source.Couples.Throughout R) {lexer other : Lexer κ}
    (h : lexer.Alike R other) (failed : Bool) (count : Nat) :
    RunAlike R (nextMany count ⟨lexer, failed⟩) (nextMany count ⟨other, failed⟩) := by
  induction count generalizing lexer other failed with
  | zero => exact ⟨rfl, rfl, rfl, h⟩
  | succ count ih =>
    obtain ⟨hitem, hfailed, hevents, hlexer⟩ :=
      runAlike_next h (h.prime_throughout hcouples).nextToken failed
    have hlater := ih hlexer (next ⟨lexer, failed⟩).2.1.failed
    have hbehind : (next ⟨other, failed⟩).2.1 =
        ⟨(next ⟨other, failed⟩).2.1.lexer, (next ⟨lexer, failed⟩).2.1.failed⟩ := by
      rw [← hfailed]
    rw [nextMany, nextMany]
    rw [← hbehind] at hlater
    refine ⟨?_, hlater.failed_eq, ?_, hlater.lexer⟩
    · exact congrArg₂ List.cons hitem hlater.items_eq
    · exact congrArg₂ (· ++ ·) hevents hlater.events_eq

section Transcripts

variable [DecidableEq κ]

structure Reaction.Alike (R : Source → Source → Prop) (reaction other : Reaction κ) : Prop where
  response_eq : other.response = reaction.response
  removed_eq : other.removed = reaction.removed
  events_eq : other.events = reaction.events
  lexer : reaction.lexer.Alike R other.lexer

theorem Action.alike_perform (hcouples : Source.Couples.Throughout R) {lexer other : Lexer κ}
    (h : lexer.Alike R other) (action : Action κ) :
    (action.perform lexer).Alike R (action.perform other) := by
  cases action with
  | request request =>
    have hprime := h.prime_throughout hcouples
    have hask := hprime.ask request
    refine ⟨congrArg Response.answered hask.result_eq, ?_, hask.events_eq, hask.state⟩
    obtain ⟨source, -, hstate⟩ := hprime.state
    simp only [perform, hstate]
  | tokens count =>
    have hrun := TokenStream.runAlike_nextMany hcouples h false count
    exact ⟨congrArg Response.items hrun.items_eq,
      congrArg (List.filterMap StreamItem.token?) hrun.items_eq, hrun.events_eq, hrun.lexer⟩
  | skipLine =>
    obtain ⟨source, hsource, rfl⟩ := h
    exact ⟨rfl, rfl, rfl, source, hsource, rfl⟩
  | addRules rules =>
    obtain ⟨source, hsource, rfl⟩ := h
    exact ⟨rfl, rfl, rfl, source, hsource, rfl⟩
  | define kind pattern ignored =>
    obtain ⟨source, hsource, rfl⟩ := h
    rw [perform, perform, Lexer.define, Lexer.define]
    cases Rule.make kind pattern ignored with
    | ok rule => exact ⟨rfl, rfl, rfl, source, hsource, rfl⟩
    | error error => exact ⟨rfl, rfl, rfl, source, hsource, rfl⟩

/-- Two transcripts are the same, but for the sources of their lexers. -/
structure Transcript.Alike (R : Source → Source → Prop) (transcript other : Transcript κ) :
    Prop where
  responses_eq : other.responses = transcript.responses
  removed_eq : other.removed = transcript.removed
  events_eq : other.events = transcript.events
  lineRecord_eq : other.lineRecord = transcript.lineRecord
  lexer : transcript.lexer.Alike R other.lexer

theorem Transcript.Alike.perform (hcouples : Source.Couples.Throughout R)
    {transcript other : Transcript κ} (h : transcript.Alike R other) (action : Action κ) :
    (transcript.perform action).Alike R (other.perform action) := by
  have hover : other.isOver = transcript.isOver := by rw [isOver, isOver, h.responses_eq]
  cases hcase : transcript.isOver with
  | true =>
    rw [perform_of_isOver hcase, perform_of_isOver (hover.trans hcase)]
    exact h
  | false =>
    rw [perform_of_not_isOver hcase, perform_of_not_isOver (hover.trans hcase)]
    have hreaction := action.alike_perform hcouples h.lexer
    refine ⟨?_, ?_, ?_, ?_, hreaction.lexer⟩
    · rw [h.responses_eq, hreaction.response_eq]
    · rw [h.removed_eq, hreaction.removed_eq]
    · rw [h.events_eq, hreaction.events_eq]
    · simp only [Action.note, h.lineRecord_eq, hreaction.response_eq, hreaction.events_eq]

theorem Lexer.Alike.transcript (hcouples : Source.Couples.Throughout R) {lexer other : Lexer κ}
    (h : lexer.Alike R other) (actions : List (Action κ)) :
    (lexer.transcript actions).Alike R (other.transcript actions) := by
  induction actions using List.reverseRecOn with
  | nil => exact ⟨rfl, rfl, rfl, rfl, h⟩
  | append_singleton actions action ih =>
    rw [transcript_concat, transcript_concat]
    exact ih.perform hcouples action

/-! ## 2. The same stream -/

/-- Both sources have still the same to deliver, or both have let go of their readers. -/
structure Source.SameStream (source other : Source) : Prop where
  isReleased_eq : other.isReleased = source.isReleased
  stream_eq : other.stream = source.stream
  isSteady : source.IsSteady
  isSteady_other : other.IsSteady

theorem Source.couples_sameStream : Source.Couples.Throughout Source.SameStream where
  isReleased_eq h := h.isReleased_eq
  nextLine {source other} h := by
    right
    by_cases hnil : source.stream = []
    · have hother : other.stream = [] := h.stream_eq.trans hnil
      rw [nextLine_of_stream_nil h.isSteady hnil, nextLine_of_stream_nil h.isSteady_other hother]
      exact ⟨rfl, rfl, rfl, trivial, trivial⟩
    · have hother : other.stream ≠ [] := by rwa [h.stream_eq]
      obtain ⟨rest, hnext, hstream, hsteady⟩ := nextLine_of_stream h.isSteady hnil
      obtain ⟨rest', hnext', hstream', hsteady'⟩ := nextLine_of_stream h.isSteady_other hother
      rw [hnext, hnext', h.stream_eq]
      rw [h.stream_eq] at hstream'
      exact ⟨rfl, rfl, hstream'.trans hstream.symm, hsteady, hsteady'⟩

/-- The same stream has the same number of bytes. -/
theorem Source.SameStream.unread_eq {source other : Source} (h : source.SameStream other) :
    other.reader?.map Reader.unread = source.reader?.map Reader.unread := by
  obtain ⟨hreleased, hstream, -, -⟩ := h
  cases source with
  | released =>
    cases other with
    | released => rfl
    | reading reader => cases hreleased
  | reading reader =>
    cases other with
    | released => cases hreleased
    | reading reader' =>
      show some reader'.unread = some reader.unread
      rw [Reader.unread_eq, Reader.unread_eq, show reader'.stream = reader.stream from hstream]

theorem Source.sameStream_of_delivers {reader other : Reader} {bytes : List UInt8}
    (hreader : reader.Delivers bytes) (hother : other.Delivers bytes) :
    SameStream (.reading reader) (.reading other) := by
  obtain ⟨hstream, hsteady⟩ := Reader.stream_of_delivers hreader
  obtain ⟨hstream', hsteady'⟩ := Reader.stream_of_delivers hother
  exact ⟨rfl, hstream'.trans hstream.symm, hsteady, hsteady'⟩

/-- Two readers that deliver the same bytes, however these are cut into chunks and however often a
read has to be tried again, make lexers that answer any actions alike. -/
theorem transcript_of_delivers (reader other : Reader) (bytes : List UInt8)
    (hreader : reader.Delivers bytes) (hother : other.Delivers bytes) (rules : List (Rule κ))
    (actions : List (Action κ)) :
    let first := ((Lexer.ofReader reader).addRules rules).transcript actions
    let second := ((Lexer.ofReader other).addRules rules).transcript actions
    second.responses = first.responses ∧ second.removed = first.removed ∧
      second.events = first.events ∧ second.lexer.position = first.lexer.position ∧
      second.lexer.remaining = first.lexer.remaining ∧
      second.lexer.lookahead = first.lexer.lookahead ∧
      second.lexer.isReleased = first.lexer.isReleased ∧
      second.lexer.source.reader?.map Reader.unread =
        first.lexer.source.reader?.map Reader.unread := by
  intro first second
  obtain ⟨hstream, hsteady⟩ := Reader.stream_of_delivers hreader
  obtain ⟨hstream', hsteady'⟩ := Reader.stream_of_delivers hother
  have hsources : Source.SameStream (.reading reader) (.reading other) :=
    ⟨rfl, hstream'.trans hstream.symm, hsteady, hsteady'⟩
  have hlexers : ((Lexer.ofReader reader).addRules rules).Alike Source.SameStream
      ((Lexer.ofReader other).addRules rules) := ⟨.reading other, hsources, rfl⟩
  have hwhole := hlexers.transcript Source.couples_sameStream actions
  obtain ⟨source, hsource, hlexer⟩ := hwhole.lexer
  have hfields : second.lexer = { first.lexer with source } := hlexer
  rw [hfields]
  exact ⟨hwhole.responses_eq, hwhole.removed_eq, hwhole.events_eq, rfl, rfl, rfl,
    hsource.isReleased_eq, hsource.unread_eq⟩

/-- Two lines, once in one chunk and once torn inside the character and
inside the end of the line. -/
theorem transcript_of_delivers_torn :
    let whole : Reader := ⟨[.data [195, 169, 13, 10, 97]]⟩
    let torn : Reader := ⟨[.data [195], .failure ⟨"Interrupted", "again"⟩, .data [169, 13],
      .data [10, 97], .failure ⟨"Interrupted", "again"⟩]⟩
    let rules : List (Rule Unit) := (Rule.make () "(.)" false).toOption.toList
    let actions : List (Action Unit) := [.request .nextToken, .request .peek]
    let first := ((Lexer.ofReader whole).addRules rules).transcript actions
    let second := ((Lexer.ofReader torn).addRules rules).transcript actions
    whole.Delivers [195, 169, 13, 10, 97] ∧ torn.Delivers [195, 169, 13, 10, 97] ∧
      second.responses = first.responses ∧ second.events = first.events ∧
      second.removed = [⟨(), "é", ⟨1, 0⟩⟩] := by
  intro whole torn rules actions first second
  have hwhole : whole.Delivers [195, 169, 13, 10, 97] :=
    .data (by simp) .ended
  have htorn : torn.Delivers [195, 169, 13, 10, 97] :=
    .data (by simp) <| .retried (by decide) <| .data (by simp) <| .data (by simp) <|
      .retried (by decide) .ended
  obtain ⟨hresponses, -, hevents, -⟩ :=
    transcript_of_delivers whole torn _ hwhole htorn rules actions
  exact ⟨hwhole, htorn, hresponses, hevents, by decide +kernel⟩

end Transcripts

end Linewise
