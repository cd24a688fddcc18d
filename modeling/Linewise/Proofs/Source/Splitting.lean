import Linewise.Proofs.Source.Delivery
import Mathlib.Data.List.Forall2

/-!
# Splitting — the lines of a source, one call after another

Every call takes one segment of the delivered bytes and hands out its text without the line end, or
refuses a segment that is no text.  Behind the last segment the source lets go of its reader.  The
texts with their line ends are the delivered bytes again (`nextLines_of_delivers`).
-/

namespace Linewise

/-! ## 1. Line ends -/

/-- What ends a segment: a line feed, a carriage return and a line feed, or nothing.  Without a line
feed behind it a carriage return ends no line. -/
def lineEnd (segment : List UInt8) : List UInt8 :=
  if [13, 10] <:+ segment then [13, 10] else if [10] <:+ segment then [10] else []

/-- The last byte of a text belongs to its last character. -/
theorem exists_concat_of_getLast?_encodeUtf8 {text : List Char} {byte : UInt8}
    (hlast : (encodeUtf8 text).getLast? = some byte) (hascii : byte.toNat < 128) :
    ∃ front c, text = front ++ [c] ∧ c.val.toNat = byte.toNat := by
  rcases List.eq_nil_or_concat text with rfl | ⟨front, c, rfl⟩
  · cases hlast
  · rw [List.concat_eq_append] at hlast ⊢
    refine ⟨front, c, rfl, ?_⟩
    have hchar : encodeUtf8 [c] = String.utf8EncodeChar c := List.append_nil _
    rw [encodeUtf8_append, hchar,
      List.getLast?_append_of_ne_nil _ String.utf8EncodeChar_ne_nil] at hlast
    exact toNat_of_mem_utf8EncodeChar (List.mem_of_getLast? hlast) hascii

theorem lineEnd_return (front : List UInt8) : lineEnd (front ++ [13, 10]) = [13, 10] :=
  if_pos (List.suffix_append front [13, 10])

theorem lineEnd_feed {front : List UInt8} (hfront : front.getLast? ≠ some 13) :
    lineEnd (front ++ [10]) = [10] := by
  rw [lineEnd, if_neg, if_pos (List.suffix_append front [10])]
  rintro ⟨before, hbefore⟩
  have hends : before ++ [13] ++ [10] = front ++ [10] := by
    rw [← hbefore, List.append_assoc]
    rfl
  have hsplit : before ++ [13] = front := List.append_cancel_right hends
  rw [← hsplit, List.getLast?_concat] at hfront
  exact hfront rfl

theorem lineEnd_of_no_feed {segment : List UInt8} (hlast : segment.getLast? ≠ some 10) :
    lineEnd segment = [] := by
  rw [lineEnd, if_neg, if_neg]
  · rintro ⟨before, rfl⟩
    exact hlast List.getLast?_concat
  · rintro ⟨before, rfl⟩
    exact hlast (by simp)

/-- What is stripped from the end of a text is the line end of its bytes. -/
theorem encodeUtf8_stripLineEnd (text : List Char) :
    encodeUtf8 (stripLineEnd text) ++ lineEnd (encodeUtf8 text) = encodeUtf8 text := by
  by_cases hfeed : text.getLast? = some '\n'
  · obtain ⟨line, rfl⟩ := List.getLast?_eq_some_iff.mp hfeed
    by_cases hreturn : line.getLast? = some '\r'
    · obtain ⟨front, rfl⟩ := List.getLast?_eq_some_iff.mp hreturn
      have hjoin : front ++ ['\r'] ++ ['\n'] = front ++ ['\r', '\n'] := by simp
      have hbytes : encodeUtf8 (front ++ ['\r', '\n']) = encodeUtf8 front ++ [13, 10] :=
        encodeUtf8_append front ['\r', '\n']
      rw [hjoin, stripLineEnd_return, hbytes, lineEnd_return]
    · have hbytes : encodeUtf8 (line ++ ['\n']) = encodeUtf8 line ++ [10] :=
        encodeUtf8_append line ['\n']
      rw [stripLineEnd_feed hreturn, hbytes, lineEnd_feed]
      intro hlast
      obtain ⟨front, c, rfl, hc⟩ := exists_concat_of_getLast?_encodeUtf8 hlast (by decide)
      have hc : c = '\r' := Char.ext (UInt32.toNat_inj.mp hc)
      rw [hc, List.getLast?_concat] at hreturn
      exact hreturn rfl
  · rw [stripLineEnd_of_unended hfeed, lineEnd_of_no_feed, List.append_nil]
    intro hlast
    obtain ⟨front, c, rfl, hc⟩ := exists_concat_of_getLast?_encodeUtf8 hlast (by decide)
    have hc : c = '\n' := Char.ext (UInt32.toNat_inj.mp hc)
    rw [hc, List.getLast?_concat] at hfeed
    exact hfeed rfl

namespace Source

/-! ## 2. One call -/

/-- What a call hands out for a segment: its text without the line end, or that it is no text. -/
inductive HandsOut (segment : List UInt8) : NextLine → Prop where
  | line {text : List Char} (bytes : encodeUtf8 text ++ lineEnd segment = segment) :
      HandsOut segment (.line text)
  | failed (invalid : ∀ text, encodeUtf8 text ≠ segment) : HandsOut segment (.failed .invalidText)

theorem handsOut_lineOfBytes {segment : List UInt8} (hne : segment ≠ []) :
    HandsOut segment (lineOfBytes segment) := by
  rw [lineOfBytes, if_neg (by simpa using hne)]
  cases hdecode : decodeUtf8? segment with
  | none =>
    refine .failed fun text htext => ?_
    rw [← htext, decodeUtf8?_encodeUtf8] at hdecode
    cases hdecode
  | some text =>
    rw [← encodeUtf8_of_decodeUtf8? hdecode]
    exact .line (encodeUtf8_stripLineEnd text)

/-! ## 3. Call after call -/

/-- What several calls hand out, one after another, and the source behind them. -/
def nextLines (source : Source) : Nat → List NextLine × Source
  | 0 => ([], source)
  | count + 1 =>
    let (found, rest) := source.nextLine
    let (later, last) := rest.nextLines count
    (found :: later, last)

theorem nextLines_released (count : Nat) :
    released.nextLines count = (List.replicate count .finished, released) := by
  induction count with
  | zero => rfl
  | succ count ih =>
    simp only [nextLines, nextLine, ih]
    rfl

/-- The calls take the segments one by one, and then find nothing more. -/
theorem nextLines_eq {reader : Reader} {bytes : List UInt8} (h : reader.Delivers bytes)
    (count : Nat) :
    ((reading reader).nextLines count).1 = ((segments bytes).take count).map lineOfBytes ++
        List.replicate (count - (segments bytes).length) .finished ∧
      ((reading reader).nextLines count).2.isReleased =
        decide ((segments bytes).length < count) := by
  induction count generalizing reader bytes with
  | zero => simp [nextLines, isReleased]
  | succ count ih =>
    by_cases hbytes : bytes = []
    · -- the reader is let go by this call
      subst hbytes
      simp [nextLines, nextLine_of_delivers_nil h, nextLines_released, segments, isReleased,
        List.replicate_succ]
    · obtain ⟨rest, hnext, -, hrest⟩ := nextLine_of_delivers h hbytes
      obtain ⟨hlater, hreleased⟩ := ih hrest
      simp [nextLines, hnext, hlater, hreleased, segments_of_ne_nil hbytes]

/-! ## 4. The bytes again -/

/-- Where all segments are text, the texts handed out and the line ends make them up again. -/
theorem exists_texts {segments : List (List UInt8)} {found : List NextLine}
    (h : List.Forall₂ HandsOut segments found)
    (hvalid : ∀ segment ∈ segments, ∃ text, encodeUtf8 text = segment) :
    ∃ texts, found = texts.map .line ∧
      List.zipWith (fun text segment => encodeUtf8 text ++ lineEnd segment) texts segments =
        segments := by
  induction h with
  | nil => exact ⟨[], rfl, rfl⟩
  | cons first _ ih =>
    obtain ⟨texts, rfl, hjoin⟩ := ih fun segment hmem => hvalid segment (List.mem_cons_of_mem _ hmem)
    cases first with
    | @line text bytes => exact ⟨text :: texts, rfl, by rw [List.zipWith_cons_cons, bytes, hjoin]⟩
    | failed invalid =>
      obtain ⟨text, htext⟩ := hvalid _ List.mem_cons_self
      exact absurd htext (invalid text)

/-! ## 5. Every delivery -/

/-- However the bytes arrive, each call takes the next segment and hands out its text without the line
end, or that it is no text.  All further calls find nothing more, and the first of them lets go of the
reader.  Bytes all of whose segments are texts can be put together again from what is handed out and
the line ends. -/
theorem nextLines_of_delivers {reader : Reader} {bytes : List UInt8} (h : reader.Delivers bytes) :
    ∃ found : List NextLine, List.Forall₂ HandsOut (segments bytes) found ∧
      (∀ count, ((reading reader).nextLines count).1 =
          found.take count ++ List.replicate (count - found.length) .finished ∧
        ((reading reader).nextLines count).2.isReleased = decide (found.length < count)) ∧
      ((∀ segment ∈ segments bytes, ∃ text, encodeUtf8 text = segment) →
        ∃ texts, found = texts.map .line ∧
          bytes = (List.zipWith (fun text segment => encodeUtf8 text ++ lineEnd segment) texts
            (segments bytes)).flatten) := by
  have hhanded : List.Forall₂ HandsOut (segments bytes) ((segments bytes).map lineOfBytes) := by
    rw [List.forall₂_map_right_iff, List.forall₂_same]
    exact fun segment hmem => handsOut_lineOfBytes (ne_nil_of_mem_segments hmem)
  refine ⟨(segments bytes).map lineOfBytes, hhanded, fun count => ?_, fun hvalid => ?_⟩
  · rw [← List.map_take, List.length_map]
    exact nextLines_eq h count
  · obtain ⟨texts, hfound, hjoin⟩ := exists_texts hhanded hvalid
    exact ⟨texts, hfound, by rw [hjoin, flatten_segments]⟩

/-- Carriage returns in front of a line feed, alone, doubled and at the end of input, and a segment that
is no text, in pieces that cut the line ends in two. -/
theorem nextLines_of_delivers_returns :
    let reader : Reader := ⟨[.data [97, 13], .data [10, 255, 10, 13], .data [13, 10, 98, 13]]⟩
    ((reading reader).nextLines 5).1 =
        [.line ['a'], .failed .invalidText, .line ['\r'], .line ['b', '\r'], .finished] ∧
      ∃ found : List NextLine, found.length = 4 ∧
        List.Forall₂ HandsOut [[97, 13, 10], [255, 10], [13, 13, 10], [98, 13]] found ∧
        ∀ count, ((reading reader).nextLines count).2.isReleased = decide (4 < count) := by
  intro reader
  have hreader : reader.Delivers [97, 13, 10, 255, 10, 13, 13, 10, 98, 13] :=
    .data (by simp) (.data (by simp) (.data (by simp) .ended))
  obtain ⟨found, hhanded, hcalls, -⟩ := nextLines_of_delivers hreader
  have hlength : found.length = 4 := hhanded.length_eq.symm
  exact ⟨by decide +kernel, found, hlength, hhanded, fun count => by
    rw [(hcalls count).2, hlength]⟩

end Source

end Linewise
