import Linewise.Proofs.Lexer.Supply

/-!
# One line — the text in front of a lexer has no line feed

A source takes a line up to its first line feed and hands it out without this one, whatever its
reader delivers and wherever that fails.  So there is never a line feed in the unread text of a
lexer, nor in what an error says of it.
-/

namespace Linewise

/-! ## 1. The lines of a source -/

theorem mem_encodeUtf8_of_feed {text : List Char} (hfeed : '\n' ∈ text) :
    (10 : UInt8) ∈ encodeUtf8 text :=
  List.mem_flatMap.mpr ⟨'\n', hfeed, by decide⟩

/-- Bytes with no line feed but at their end are a text of this kind. -/
theorem no_feed_of_decodeUtf8? {bytes : List UInt8} {text : List Char}
    (hbytes : ∀ byte ∈ bytes.dropLast, isLineFeed byte = false)
    (hdecode : decodeUtf8? bytes = some text) : '\n' ∉ text.dropLast := by
  intro hfeed
  have hne : text ≠ [] := by
    rintro rfl
    cases hfeed
  have hlast : encodeUtf8 [text.getLast hne] ≠ [] := by
    rw [← List.length_pos_iff, length_encodeUtf8]
    exact byteLength_pos (by simp)
  -- the last character takes at least the last byte, so the others are encoded in front of it
  have hencode := encodeUtf8_of_decodeUtf8? hdecode
  rw [← List.dropLast_concat_getLast hne, encodeUtf8_append] at hencode
  rw [← hencode, List.dropLast_append_of_ne_nil hlast] at hbytes
  have hnone := hbytes 10 (List.mem_append_left _ (mem_encodeUtf8_of_feed hfeed))
  cases hnone

theorem no_feed_stripLineEnd {text : List Char} (htext : '\n' ∉ text.dropLast) :
    '\n' ∉ stripLineEnd text := by
  rcases List.eq_nil_or_concat text with rfl | ⟨front, c, rfl⟩
  · exact List.not_mem_nil
  rw [List.concat_eq_append] at *
  rw [List.dropLast_concat] at htext
  by_cases hc : c = '\n'
  · subst hc
    obtain ⟨trail, hsplit, hne, -⟩ := exists_append_stripLineEnd front
    exact (count_feed_of_append htext hsplit hne).1
  · have hall : '\n' ∉ front ++ [c] := by
      rw [List.mem_append, List.mem_singleton]
      rintro (hfront | rfl)
      · exact htext hfront
      · exact hc rfl
    rw [stripLineEnd_of_no_feed hall]
    exact hall

theorem Source.no_feed_of_nextLine {source after : Source} {text : List Char}
    (hline : source.nextLine = (.line text, after)) : '\n' ∉ text := by
  cases source with
  | released => cases hline
  | reading reader =>
    rw [nextLine] at hline
    rcases htake : reader.takeLine with ⟨(_ | ⟨byte, line⟩) | failure, rest⟩
    · simp [htake, lineOfBytes] at hline
    · simp only [htake, lineOfBytes, List.isEmpty_cons, Bool.false_eq_true, if_false] at hline
      cases hdecode : decodeUtf8? (byte :: line) with
      | none => simp [hdecode] at hline
      | some decoded =>
        simp only [hdecode, Prod.mk.injEq, NextLine.line.injEq] at hline
        obtain ⟨rfl, -⟩ := hline
        have hbytes := @Reader.no_feed_of_takeFrom [] _ _ (by simp) (congrArg Prod.fst htake)
        exact no_feed_stripLineEnd (no_feed_of_decodeUtf8? hbytes hdecode)
    · simp [htake] at hline

/-! ## 2. The text in front of a lexer -/

namespace Lexer

variable {κ : Type} {lexer : Lexer κ}

theorem Advances.no_feed {outcome : LexOutcome κ Unit} (h : lexer.Advances outcome)
    (hrest : '\n' ∉ lexer.rest) : '\n' ∉ outcome.state.rest := by
  induction h with
  | ignored _ behind _ _ ih => exact ih fun hmem => hrest ((Scan.behind?_suffix behind).subset hmem)
  | @lineRead _ text _ _ _ line _ ih =>
    have htext := Source.no_feed_of_nextLine line
    exact ih fun hmem => htext ((trimBlanks_suffix text).subset hmem)
  | token _ behind _ => exact fun hmem => hrest ((Scan.behind?_suffix behind).subset hmem)
  | lineLost => exact List.not_mem_nil
  | _ => exact hrest

theorem no_feed_prime (hrest : '\n' ∉ lexer.rest) : '\n' ∉ lexer.prime.state.rest := by
  rcases lexer.prime_cases with hknown | ⟨-, hsearch⟩
  · rw [hknown]
    exact hrest
  · exact hsearch.no_feed hrest

theorem no_feed_nextToken (hrest : '\n' ∉ lexer.rest) : '\n' ∉ lexer.nextToken.state.rest := by
  obtain ⟨lookahead, hstate⟩ := lexer.state_nextToken
  rw [hstate]
  exact no_feed_prime hrest

/-- The text that an error says no rule matches is the unread text of the lexer. -/
theorem Advances.remainder_eq {outcome : LexOutcome κ Unit} (h : lexer.Advances outcome)
    {position : Position} {remainder : String}
    (hresult : outcome.result = .error ⟨position, .unmatched remainder⟩) :
    remainder = outcome.state.remaining := by
  induction h with
  | ignored _ _ _ _ ih => exact ih hresult
  | lineRead _ _ _ ih => exact ih hresult
  | unmatched => cases hresult; rfl
  | _ => cases hresult

theorem remainder_of_prime {position : Position} {remainder : String}
    (hprime : lexer.prime.result = .error ⟨position, .unmatched remainder⟩) :
    remainder = lexer.prime.state.remaining := by
  rcases lexer.prime_cases with hknown | ⟨-, hsearch⟩
  · rw [hknown] at hprime
    cases hprime
  · exact hsearch.remainder_eq hprime

end Lexer

end Linewise
