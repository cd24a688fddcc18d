import Linewise.Proofs.Lexer.Alike

/-!
# Pausing — a reader that fails behind its lines

A reader that fails behind some whole lines stands for one whose next line has not been typed yet.
A lexer in front of it and a lexer in front of a reader that delivers the same lines, and then
anything else, stay alike up to the failure: nothing is asked for early.
-/

namespace Linewise

variable {κ : Type}

/-! ## 1. Sources that share their lines -/

/-- The first source fails behind some whole lines, where the other one delivers `more`. -/
inductive Source.Shares (failure : Failure) (later : List Chunk) (more : List Delivery) :
    Source → Source → Prop where
  | intro {chunks : List Chunk} {reader : Reader} (steady : Reader.IsSteady ⟨chunks⟩)
      (closed : IsClosed (Reader.stream ⟨chunks⟩)) (steady_other : reader.IsSteady)
      (stream_eq : reader.stream = Reader.stream ⟨chunks⟩ ++ more) :
      Shares failure later more (.reading ⟨chunks ++ .failure failure :: later⟩) (.reading reader)

/-- The first source fails here, where the other one delivers `more`. -/
structure Source.Pauses (failure : Failure) (more : List Delivery) (source other : Source) :
    Prop where
  failed : source.nextLine.1 = .failed failure
  steady_other : other.IsSteady
  stream_eq : other.stream = more

variable {failure : Failure} {later : List Chunk} {more : List Delivery}

theorem Source.couples_shares (hfinal : failure.isInterrupted = false) :
    Source.Couples (Source.Shares failure later more) (Source.Pauses failure more) where
  isReleased_eq h := by
    cases h
    rfl
  nextLine h := by
    cases h with | @intro chunks reader steady closed steady_other stream_eq =>
    by_cases hnil : Reader.stream ⟨chunks⟩ = []
    · left
      refine ⟨?_, steady_other, ?_⟩
      · rw [nextLine, Reader.takeLine, Reader.takeFrom_of_silent steady hnil, Reader.takeFrom,
          if_neg (by simp [hfinal])]
      · show reader.stream = more
        rw [stream_eq, hnil, List.nil_append]
    · right
      -- both take the first piece of what they share
      obtain ⟨hcut, hbehind⟩ := cutPiece_append hnil closed more
      obtain ⟨rest, htake, hstream, hrest⟩ := Reader.takeFrom_of_stream steady []
      have hpaused : Reader.takeFrom [] (chunks ++ .failure failure :: later) =
          (takenOf [] (cutPiece (Reader.stream ⟨chunks⟩)).1, rest ++ .failure failure :: later) := by
        rw [Reader.takeFrom_append steady hnil closed, htake]
      have hother : (reading reader).stream = Reader.stream ⟨chunks⟩ ++ more := stream_eq
      have hne : (reading reader).stream ≠ [] := fun hempty =>
        hnil (List.append_eq_nil_iff.mp (hother.symm.trans hempty)).1
      obtain ⟨reader', hnext, hstream', hsteady'⟩ :=
        @nextLine_of_stream (reading reader) steady_other hne
      rw [hother, hcut] at hnext hstream'
      rw [nextLine_of_takeFrom (cutPiece_ne_nil hnil) hpaused, hnext]
      rw [← hstream] at hbehind hstream'
      exact ⟨rfl, .intro hrest hbehind hsteady' hstream'⟩

/-! ## 2. Lexers that share their lines -/

namespace Lexer

variable {lexer other : Lexer κ}

/-- The lexer has come to the end of its input and has let go of its reader. -/
def IsDone (lexer : Lexer κ) : Prop := lexer.lookahead = .endOfInput ∧ lexer.isReleased = true

/-- Looking for the next token is alike until the first lexer meets the failure; a lexer that has
nothing more to read is done there. -/
theorem Alike.prime_shares (hfinal : failure.isInterrupted = false)
    (h : lexer.Alike (Source.Shares failure later more) other) :
    GoAlike (Source.Shares failure later more) lexer.prime other.prime ∨
      (∃ position, lexer.prime.result = .error ⟨position, .device failure⟩) ∧
        (more = [] → other.prime.result = .ok () ∧ other.prime.state.IsDone) := by
  rcases h.prime (Source.couples_shares hfinal) with
    halike | ⟨here, source, events, hprimed, hrest, hpauses, hfirst, hsecond⟩
  · exact .inl halike
  · right
    rw [hfirst, hsecond]
    refine ⟨⟨here.position.nextLine, ?_⟩, fun hnone => ?_⟩
    · rcases hline : here.source.nextLine with ⟨found, behind⟩
      have hfound := hpauses.failed
      rw [hline] at hfound
      rw [advance_of_lineEnd hprimed hrest, settle, hline, show found = .failed failure from hfound]
      rfl
    · have hended : source.nextLine = (.finished, .released) :=
        Source.nextLine_of_stream_nil hpauses.steady_other (hpauses.stream_eq.trans hnone)
      rw [@advance_of_lineEnd κ { here with source } hprimed hrest, settle, hended]
      exact ⟨rfl, rfl, rfl⟩

end Lexer

end Linewise
