import Linewise.Source
import Linewise.Text.Blank

/-!
# Deliveries — the bytes of a reader, line by line

A reader that never fails delivers a list of bytes, in whatever pieces.  A line taken from it is the
front of these bytes up to and including the first line feed, and what it delivers afterwards are
the bytes behind; the pieces make no difference.
-/

namespace Linewise

/-! ## 1. Cutting bytes into lines -/

/-- The first line of some bytes, with its line feed if it has one, and the bytes behind it. -/
def cutLine (bytes : List UInt8) : List UInt8 × List UInt8 := (splitLine? bytes).getD (bytes, [])

/-- The bytes cut behind every line feed; the last line need not have one. -/
def segments : List UInt8 → List (List UInt8)
  | [] => []
  | byte :: rest =>
    if isLineFeed byte then [byte] :: segments rest
    else
      match segments rest with
      | [] => [[byte]]
      | line :: later => (byte :: line) :: later

theorem no_feed_of_splitLine?_none {bytes : List UInt8} (h : splitLine? bytes = none) :
    ∀ byte ∈ bytes, isLineFeed byte = false := by
  induction bytes with
  | nil => simp
  | cons byte rest ih =>
    simp only [splitLine?] at h
    split at h
    · cases h
    · next hfeed =>
      rw [Option.map_eq_none_iff] at h
      intro b hb
      rcases List.mem_cons.mp hb with rfl | hb
      · simpa using hfeed
      · exact ih h b hb

theorem segments_eq_nil_iff {bytes : List UInt8} : segments bytes = [] ↔ bytes = [] := by
  cases bytes with
  | nil => simp [segments]
  | cons byte rest =>
    simp only [segments]
    split
    · simp
    · split <;> simp

theorem ne_nil_of_mem_segments {bytes segment : List UInt8} (hmem : segment ∈ segments bytes) :
    segment ≠ [] := by
  induction bytes generalizing segment with
  | nil => cases hmem
  | cons byte rest ih =>
    rw [segments] at hmem
    split at hmem
    · rcases List.mem_cons.mp hmem with rfl | hlater
      · simp
      · exact ih hlater
    · split at hmem
      · rw [List.mem_singleton.mp hmem]
        simp
      · next line later hrest =>
        rcases List.mem_cons.mp hmem with rfl | hlater
        · simp
        · exact ih (hrest ▸ List.mem_cons_of_mem line hlater)

theorem cutLine_cons (byte : UInt8) (rest : List UInt8) :
    cutLine (byte :: rest) =
      if isLineFeed byte then ([byte], rest)
      else (byte :: (cutLine rest).1, (cutLine rest).2) := by
  simp only [cutLine, splitLine?]
  split
  · rfl
  · cases splitLine? rest <;> rfl

/-- The first segment is the first line, and the others are those of the bytes behind it. -/
theorem segments_of_ne_nil {bytes : List UInt8} (hbytes : bytes ≠ []) :
    segments bytes = (cutLine bytes).1 :: segments (cutLine bytes).2 := by
  induction bytes with
  | nil => exact absurd rfl hbytes
  | cons byte rest ih =>
    rw [cutLine_cons, segments]
    by_cases hfeed : isLineFeed byte = true
    · rw [if_pos hfeed, if_pos hfeed]
    · rw [if_neg hfeed, if_neg hfeed]
      cases rest with
      | nil => rfl
      | cons next rest => rw [ih (by simp)]

theorem cutLine_append_feed {front : List UInt8} (hfront : ∀ byte ∈ front, isLineFeed byte = false)
    (behind : List UInt8) : cutLine (front ++ 10 :: behind) = (front ++ [10], behind) := by
  induction front with
  | nil => rfl
  | cons byte front ih =>
    rw [List.cons_append, cutLine_cons, ih fun b hb => hfront b (List.mem_cons_of_mem _ hb)]
    simp [hfront byte List.mem_cons_self]

theorem cutLine_of_no_feed {bytes : List UInt8} (hbytes : ∀ byte ∈ bytes, isLineFeed byte = false) :
    cutLine bytes = (bytes, []) := by
  induction bytes with
  | nil => rfl
  | cons byte rest ih =>
    rw [cutLine_cons, ih fun b hb => hbytes b (List.mem_cons_of_mem _ hb)]
    simp [hbytes byte List.mem_cons_self]

/-- Behind bytes that end with a line feed, or behind none, a new segment begins. -/
theorem segments_append {front : List UInt8} (hfront : ∀ byte ∈ front.getLast?, isLineFeed byte)
    (back : List UInt8) : segments (front ++ back) = segments front ++ segments back := by
  induction front with
  | nil => rfl
  | cons byte rest ih =>
    rw [List.cons_append, segments, segments]
    by_cases hfeed : isLineFeed byte = true
    · have hrest : ∀ b ∈ rest.getLast?, isLineFeed b := fun b hb => by
        cases rest with
        | nil => cases hb
        | cons next rest => exact hfront b (by simpa [List.getLast?_cons_cons] using hb)
      rw [if_pos hfeed, if_pos hfeed, ih hrest, List.cons_append]
    · -- the front goes on, so its last segment is not touched by what is appended
      cases rest with
      | nil => exact absurd (hfront byte rfl) hfeed
      | cons next rest =>
        rw [if_neg hfeed, if_neg hfeed,
          ih fun b hb => hfront b (by simpa [List.getLast?_cons_cons] using hb),
          segments_of_ne_nil (List.cons_ne_nil next rest)]
        rfl

theorem flatten_segments (bytes : List UInt8) : (segments bytes).flatten = bytes := by
  induction bytes with
  | nil => rfl
  | cons byte rest ih =>
    rw [segments]
    split
    · rw [List.flatten_cons, ih]
      rfl
    · split
      · next hrest =>
        rw [segments_eq_nil_iff.mp hrest]
        rfl
      · next line later hrest =>
        rw [hrest] at ih
        rw [List.flatten_cons, List.cons_append, ← List.flatten_cons, ih]

/-! ## 2. Bytes of encoded texts -/

/-- An ASCII byte of a character is all of it. -/
theorem toNat_of_mem_utf8EncodeChar {c : Char} {byte : UInt8}
    (hmem : byte ∈ String.utf8EncodeChar c) (hascii : byte.toNat < 128) :
    c.val.toNat = byte.toNat := by
  have hof (n : Nat) (h : byte = UInt8.ofNat n) : byte.toNat = n % 256 := by
    rw [h, UInt8.toNat_ofNat']
  have hvalid := c.val.toNat_lt
  rw [String.utf8EncodeChar.eq_1] at hmem
  -- only a character of one byte has a byte below 128
  split at hmem
  · have := hof _ (List.mem_singleton.mp hmem)
    omega
  split at hmem
  · simp only [List.mem_cons, List.not_mem_nil, or_false] at hmem
    rcases hmem with h | h <;> have := hof _ h <;> omega
  split at hmem
  · simp only [List.mem_cons, List.not_mem_nil, or_false] at hmem
    rcases hmem with h | h | h <;> have := hof _ h <;> omega
  · simp only [List.mem_cons, List.not_mem_nil, or_false] at hmem
    rcases hmem with h | h | h | h <;> have := hof _ h <;> omega

/-- A byte of a character is a line feed only if the character is one. -/
theorem eq_feed_of_mem_utf8EncodeChar {c : Char} {byte : UInt8}
    (hmem : byte ∈ String.utf8EncodeChar c) (hfeed : isLineFeed byte = true) : c = '\n' := by
  rw [isLineFeed, beq_iff_eq] at hfeed
  subst hfeed
  exact Char.ext (UInt32.toNat_inj.mp (toNat_of_mem_utf8EncodeChar hmem (by decide)))

theorem no_feed_of_encodeUtf8 {text : List Char} (htext : '\n' ∉ text) :
    ∀ byte ∈ encodeUtf8 text, isLineFeed byte = false := by
  intro byte hbyte
  obtain ⟨c, hc, hmem⟩ := List.mem_flatMap.mp hbyte
  cases hfeed : isLineFeed byte with
  | false => rfl
  | true => exact absurd (eq_feed_of_mem_utf8EncodeChar hmem hfeed ▸ hc) htext

/-! ## 3. Readers that deliver bytes -/

namespace Reader

/-- The reader delivers the given bytes, in pieces that are not empty and with reads in between
that only have to be tried again, and then ends. -/
inductive Delivers : Reader → List UInt8 → Prop where
  | ended : Delivers ⟨[]⟩ []
  | data {piece : List UInt8} {chunks : List Chunk} {bytes : List UInt8} (piece_ne : piece ≠ [])
      (later : Delivers ⟨chunks⟩ bytes) : Delivers ⟨.data piece :: chunks⟩ (piece ++ bytes)
  | retried {failure : Failure} {chunks : List Chunk} {bytes : List UInt8}
      (interrupted : failure.isInterrupted = true) (later : Delivers ⟨chunks⟩ bytes) :
      Delivers ⟨.failure failure :: chunks⟩ bytes

theorem delivers_putBack {chunks : List Chunk} {later : List UInt8}
    (h : Delivers ⟨chunks⟩ later) (bytes : List UInt8) :
    Delivers ⟨putBack bytes chunks⟩ (bytes ++ later) := by
  cases bytes with
  | nil => exact h
  | cons byte rest => exact .data (by simp) h

theorem delivers_ofBytes (bytes : List UInt8) : (ofBytes bytes).Delivers bytes := by
  have h : Delivers ⟨putBack bytes []⟩ (bytes ++ []) := delivers_putBack .ended bytes
  rw [List.append_nil] at h
  exact h

theorem splitLine?_append {bytes later : List UInt8} :
    splitLine? (bytes ++ later) =
      match splitLine? bytes with
      | some (front, behind) => some (front, behind ++ later)
      | none => (splitLine? later).map fun (front, behind) => (bytes ++ front, behind) := by
  induction bytes with
  | nil => simp [splitLine?]
  | cons byte bytes ih =>
    simp only [List.cons_append, splitLine?, ih]
    split
    · rfl
    · cases splitLine? bytes with
      | none => cases splitLine? later <;> rfl
      | some cut => rfl

/-- The pieces in which a line arrives are put together again. -/
theorem takeFrom_of_delivers {reader : Reader} {bytes : List UInt8} (h : reader.Delivers bytes)
    (line : List UInt8) :
    ∃ rest, takeFrom line reader.chunks = (.bytes (line ++ (cutLine bytes).1), rest) ∧
      Delivers ⟨rest⟩ (cutLine bytes).2 := by
  induction h generalizing line with
  | ended => exact ⟨[], by simp [takeFrom, cutLine, splitLine?], .ended⟩
  | @data piece chunks bytes piece_ne later ih =>
    simp only [takeFrom, List.isEmpty_eq_false_iff.mpr piece_ne, Bool.false_eq_true, if_false]
    cases hsplit : splitLine? piece with
    | some cut =>
      have hcut : cutLine (piece ++ bytes) = (cut.1, cut.2 ++ bytes) := by
        simp [cutLine, splitLine?_append, hsplit]
      rw [hcut]
      exact ⟨_, rfl, delivers_putBack later cut.2⟩
    | none =>
      -- the line goes on in the next piece
      obtain ⟨rest, htake, hrest⟩ := ih (line ++ piece)
      have hcut : cutLine (piece ++ bytes) = (piece ++ (cutLine bytes).1, (cutLine bytes).2) := by
        simp only [cutLine, splitLine?_append, hsplit]
        cases splitLine? bytes <;> rfl
      rw [hcut]
      exact ⟨rest, by rw [htake, List.append_assoc], hrest⟩
  | retried interrupted later ih =>
    simp only [takeFrom, interrupted, if_true]
    exact ih line

theorem takeLine_of_delivers {reader : Reader} {bytes : List UInt8} (h : reader.Delivers bytes) :
    ∃ rest, reader.takeLine = (.bytes (cutLine bytes).1, rest) ∧
      rest.Delivers (cutLine bytes).2 := by
  obtain ⟨rest, htake, hrest⟩ := takeFrom_of_delivers h []
  exact ⟨⟨rest⟩, by simp [takeLine, htake], hrest⟩

end Reader

/-! ## 4. Lines of a source -/

namespace Source

theorem nextLine_of_delivers_nil {reader : Reader} (h : reader.Delivers []) :
    (reading reader).nextLine = (.finished, .released) := by
  obtain ⟨rest, htake, -⟩ := Reader.takeLine_of_delivers h
  simp [nextLine, htake, cutLine, splitLine?, lineOfBytes]

/-- The source hands out what the next segment comes to, and goes on behind it. -/
theorem nextLine_of_delivers {reader : Reader} {bytes : List UInt8} (h : reader.Delivers bytes)
    (hbytes : bytes ≠ []) :
    ∃ rest : Reader, (reading reader).nextLine = (lineOfBytes (cutLine bytes).1, .reading rest) ∧
      lineOfBytes (cutLine bytes).1 ≠ .finished ∧ rest.Delivers (cutLine bytes).2 := by
  obtain ⟨rest, htake, hrest⟩ := Reader.takeLine_of_delivers h
  have hne : lineOfBytes (cutLine bytes).1 ≠ .finished := by
    rw [ne_eq, lineOfBytes_eq_finished_iff]
    cases bytes with
    | nil => exact absurd rfl hbytes
    | cons byte tail =>
      rw [cutLine_cons]
      split <;> simp
  refine ⟨rest, ?_, hne, hrest⟩
  simp only [nextLine, htake]

end Source

/-! ## 5. Lines of a text -/

theorem stripLineEnd_return (line : List Char) : stripLineEnd (line ++ ['\r', '\n']) = line := by
  simp [stripLineEnd]

theorem stripLineEnd_feed {line : List Char} (hline : line.getLast? ≠ some '\r') :
    stripLineEnd (line ++ ['\n']) = line := by
  rcases List.eq_nil_or_concat line with rfl | ⟨front, c, rfl⟩
  · rfl
  · have hc : c ≠ '\r' := by simpa using hline
    simp [stripLineEnd, hc]

/-- What is stripped from the end of a line is blank. -/
theorem exists_append_stripLineEnd (line : List Char) :
    ∃ trail, line ++ ['\n'] = stripLineEnd (line ++ ['\n']) ++ trail ∧ trail ≠ [] ∧
      ∀ c ∈ trail, isBlank c = true := by
  have hfeed : isBlank '\n' = true := by decide
  have hreturn : isBlank '\r' = true := by decide
  rw [stripLineEnd, List.reverse_append]
  cases hline : line.reverse with
  | nil =>
    obtain rfl : line = [] := by simpa using hline
    exact ⟨['\n'], rfl, by simp, by simpa using hfeed⟩
  | cons c front =>
    obtain rfl : line = front.reverse ++ [c] := by simpa using congrArg List.reverse hline
    by_cases hc : c = '\r'
    · subst hc
      refine ⟨['\r', '\n'], ?_, by simp, by simp [hfeed, hreturn]⟩
      simp
    · refine ⟨['\n'], ?_, by simp, by simpa using hfeed⟩
      simp [hc]

/-- The line feed of a line belongs to its end. -/
theorem count_feed_of_append {line front trail : List Char} (hline : '\n' ∉ line)
    (hsplit : line ++ ['\n'] = front ++ trail) (htrail : trail ≠ []) :
    '\n' ∉ front ∧ trail.count '\n' = 1 := by
  have hlast : '\n' ∈ trail := by
    have hlast := congrArg List.getLast? hsplit
    rw [List.getLast?_concat, List.getLast?_append] at hlast
    cases hback : trail.getLast? with
    | none => exact absurd (List.getLast?_eq_none_iff.mp hback) htrail
    | some c =>
      rw [hback] at hlast
      obtain rfl : '\n' = c := Option.some.inj hlast
      exact List.mem_of_getLast? hback
  have hcount := congrArg (List.count '\n') hsplit
  rw [List.count_append, List.count_append, List.count_eq_zero_of_not_mem hline,
    List.count_singleton_self] at hcount
  have := List.count_pos_iff.mpr hlast
  exact ⟨List.count_eq_zero.mp (by omega), by omega⟩

theorem stripLineEnd_of_unended {text : List Char} (htext : text.getLast? ≠ some '\n') :
    stripLineEnd text = text := by
  rcases List.eq_nil_or_concat text with rfl | ⟨front, c, rfl⟩
  · rfl
  · have hc : c ≠ '\n' := by simpa using htext
    simp [stripLineEnd, hc]

theorem stripLineEnd_of_no_feed {text : List Char} (htext : '\n' ∉ text) :
    stripLineEnd text = text :=
  stripLineEnd_of_unended fun hlast => htext (List.mem_of_getLast? hlast)

theorem Source.lineOfBytes_encodeUtf8 {text : List Char} (htext : text ≠ []) :
    lineOfBytes (encodeUtf8 text) = .line (stripLineEnd text) := by
  have hbytes : encodeUtf8 text ≠ [] := by
    rw [← List.length_pos_iff, length_encodeUtf8]
    exact byteLength_pos htext
  rw [lineOfBytes, if_neg (by simpa using hbytes), decodeUtf8?_encodeUtf8]

/-- The first line of a text is handed out without what ends it.  Bytes behind the text are on lines
of their own. -/
theorem Source.nextLine_of_text {reader : Reader} {text : List Char} {bytes : List UInt8}
    (h : reader.Delivers (encodeUtf8 text ++ bytes)) (htext : text ≠ [])
    (hclosed : bytes = [] ∨ text.getLast? = some '\n') :
    ∃ (here trail later : List Char) (rest : Reader), text = here ++ (trail ++ later) ∧
      (reading reader).nextLine = (.line here, .reading rest) ∧
      rest.Delivers (encodeUtf8 later ++ bytes) ∧ (∀ c ∈ trail, isBlank c = true) ∧
      (trail ≠ [] ∨ later = []) ∧ here ++ trail ≠ [] ∧
      (bytes = [] ∨ later = [] ∨ later.getLast? = some '\n') ∧
      '\n' ∉ here ∧ (trail.count '\n' = 1 ∨ later = []) := by
  have hbytes : encodeUtf8 text ++ bytes ≠ [] := by
    rw [← List.length_pos_iff, List.length_append, length_encodeUtf8]
    have := byteLength_pos htext
    omega
  obtain ⟨rest, hnext, -, hrest⟩ := nextLine_of_delivers h hbytes
  by_cases hfeed : '\n' ∈ text
  · obtain ⟨line, later, rfl, hline⟩ := List.eq_append_cons_of_mem hfeed
    have hcut : cutLine (encodeUtf8 (line ++ '\n' :: later) ++ bytes) =
        (encodeUtf8 (line ++ ['\n']), encodeUtf8 later ++ bytes) := by
      have hencode : encodeUtf8 (line ++ '\n' :: later) = encodeUtf8 line ++ 10 :: encodeUtf8 later := by
        rw [encodeUtf8_append]
        rfl
      rw [hencode, encodeUtf8_append, List.append_assoc, List.cons_append,
        cutLine_append_feed (no_feed_of_encodeUtf8 hline)]
      rfl
    rw [hcut] at hnext hrest
    rw [lineOfBytes_encodeUtf8 (by simp)] at hnext
    obtain ⟨trail, hstrip, htrail, hblank⟩ := exists_append_stripLineEnd line
    obtain ⟨hhere, hfeeds⟩ := count_feed_of_append hline hstrip htrail
    refine ⟨_, trail, later, rest, ?_, hnext, hrest, hblank, .inl htrail, by simp [htrail], ?_, hhere,
      .inl hfeeds⟩
    · rw [← List.append_assoc, ← hstrip]
      simp
    · rcases hclosed with hnone | hlast
      · exact .inl hnone
      · cases later with
        | nil => exact .inr (.inl rfl)
        | cons c later => exact .inr (.inr (by simpa using hlast))
  · -- the text is its only line, so nothing can follow it
    have hnone : bytes = [] := hclosed.resolve_right fun hlast => hfeed (List.mem_of_getLast? hlast)
    subst hnone
    rw [List.append_nil, cutLine_of_no_feed (no_feed_of_encodeUtf8 hfeed),
      lineOfBytes_encodeUtf8 htext, stripLineEnd_of_no_feed hfeed] at hnext
    rw [List.append_nil, cutLine_of_no_feed (no_feed_of_encodeUtf8 hfeed)] at hrest
    exact ⟨text, [], [], rest, by simp, hnext, hrest, by simp, .inr rfl, by simpa using htext,
      .inl rfl, hfeed, .inr rfl⟩

end Linewise
