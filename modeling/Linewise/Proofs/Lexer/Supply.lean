import Linewise.Proofs.Lexer.Taking
import Linewise.Proofs.Source.Delivery

/-!
# Supplies — how many characters a lexer can still use up

The supply of a lexer counts the characters it has not read, the bytes other than line feeds that
its source has still to hand out, and a token that it holds.  Looking for a token does not raise it.
Each token taken lowers it by one, and so does giving up a line with unread text.
-/

namespace Linewise

/-- The number of bytes that are no line feeds. -/
def bodySize (bytes : List UInt8) : Nat := bytes.countP fun byte => !isLineFeed byte

theorem bodySize_append (bytes more : List UInt8) :
    bodySize (bytes ++ more) = bodySize bytes + bodySize more := List.countP_append

theorem bodySize_of_no_feed {bytes : List UInt8} (hbytes : ∀ byte ∈ bytes, isLineFeed byte = false) :
    bodySize bytes = bytes.length :=
  List.countP_eq_length.mpr fun byte hmem => by simp [hbytes byte hmem]

/-! ## 1. The lines of a reader -/

theorem no_feed_of_splitLine?_some {bytes front behind : List UInt8}
    (h : splitLine? bytes = some (front, behind)) :
    ∀ byte ∈ front.dropLast, isLineFeed byte = false := by
  induction bytes generalizing front with
  | nil => cases h
  | cons byte rest ih =>
    simp only [splitLine?] at h
    split at h
    · cases h
      simp
    · next hfeed =>
      obtain ⟨⟨line, later⟩, hrest, hcut⟩ := Option.map_eq_some_iff.mp h
      cases hcut
      obtain ⟨-, hne⟩ := append_of_splitLine? hrest
      rw [List.dropLast_cons_of_ne_nil hne]
      intro b hb
      rcases List.mem_cons.mp hb with rfl | hb
      · simpa using hfeed
      · exact ih hrest b hb

/-- The bytes of a line that was taken; none after a failure. -/
def Taken.line : Taken → List UInt8
  | .bytes taken => taken
  | .failed _ => []

namespace Reader

/-- The bytes that the reader has still to deliver. -/
def bytes (reader : Reader) : List UInt8 :=
  reader.chunks.flatMap fun
    | .data piece => piece
    | .failure _ => []

theorem bytes_putBack (front : List UInt8) (chunks : List Chunk) :
    bytes ⟨putBack front chunks⟩ = front ++ bytes ⟨chunks⟩ := by
  unfold putBack
  split
  · next hempty => simp [List.isEmpty_iff.mp hempty]
  · rfl

/-- What is taken and what can be taken later, has been delivered in this order. -/
theorem sublist_takeFrom (line : List UInt8) (chunks : List Chunk) :
    ((takeFrom line chunks).1.line ++ bytes ⟨(takeFrom line chunks).2⟩).Sublist
      (line ++ bytes ⟨chunks⟩) := by
  fun_induction takeFrom line chunks with
  | case1 line => exact List.Sublist.refl (line ++ [])
  | case2 line failure chunks hf ih => exact ih
  | case3 line failure chunks hf => exact List.sublist_append_right line (bytes ⟨chunks⟩)
  | case4 line piece chunks hempty =>
    rw [List.isEmpty_iff] at hempty
    subst hempty
    exact List.Sublist.refl (line ++ bytes ⟨chunks⟩)
  | case5 line piece chunks hne front behind hsplit =>
    obtain ⟨rfl, -⟩ := append_of_splitLine? hsplit
    have hwhole : line ++ bytes ⟨.data (front ++ behind) :: chunks⟩ =
        line ++ front ++ (behind ++ bytes ⟨chunks⟩) := by
      simp [bytes]
    rw [bytes_putBack, hwhole]
    exact List.Sublist.refl _
  | case6 line piece chunks hne hsplit ih =>
    have hwhole : line ++ bytes ⟨.data piece :: chunks⟩ = line ++ piece ++ bytes ⟨chunks⟩ := by
      simp [bytes]
    rw [hwhole]
    exact ih

/-- A line that is taken holds no line feed but at its end. -/
theorem no_feed_of_takeFrom {line taken : List UInt8} {chunks : List Chunk}
    (hline : ∀ byte ∈ line, isLineFeed byte = false)
    (h : (takeFrom line chunks).1 = .bytes taken) :
    ∀ byte ∈ taken.dropLast, isLineFeed byte = false := by
  fun_induction takeFrom line chunks with
  | case1 line =>
    cases h
    exact fun byte hmem => hline byte ((List.dropLast_sublist _).subset hmem)
  | case2 line failure chunks hf ih => exact ih hline h
  | case3 => cases h
  | case4 line =>
    cases h
    exact fun byte hmem => hline byte ((List.dropLast_sublist _).subset hmem)
  | case5 line piece chunks hne front behind hsplit =>
    cases h
    obtain ⟨-, hfront⟩ := append_of_splitLine? hsplit
    rw [List.dropLast_append_of_ne_nil hfront]
    intro byte hmem
    rcases List.mem_append.mp hmem with hmem | hmem
    · exact hline byte hmem
    · exact no_feed_of_splitLine?_some hsplit byte hmem
  | case6 line piece chunks hne hsplit ih =>
    refine ih (fun byte hmem => ?_) h
    rcases List.mem_append.mp hmem with hmem | hmem
    · exact hline byte hmem
    · exact no_feed_of_splitLine?_none hsplit byte hmem

/-- The lines that a source takes from the reader until it lets go of it.  Failures in between cost
the line being read. -/
def lines (reader : Reader) : List (List UInt8) :=
  match h : reader.takeLine with
  | (.bytes [], _) => []
  | (.bytes (byte :: line), rest) =>
    have : rest.weight < reader.weight := by
      have := weight_takeLine_of_bytes (congrArg Prod.fst h)
      rw [h] at this
      simp only [List.length_cons] at this
      omega
    (byte :: line) :: rest.lines
  | (.failed _, rest) =>
    have : rest.weight < reader.weight := by
      have := weight_takeLine_of_failed (congrArg Prod.fst h)
      rw [h] at this
      exact this
    rest.lines
termination_by reader.weight

theorem lines_eq (reader : Reader) :
    reader.lines =
      match reader.takeLine with
      | (.bytes [], _) => []
      | (.bytes (byte :: line), rest) => (byte :: line) :: rest.lines
      | (.failed _, rest) => rest.lines := by
  rw [lines]
  split <;> simp_all only

/-- The lines of a reader are made of bytes that it delivers, in this order. -/
theorem flatten_lines_sublist (reader : Reader) :
    reader.lines.flatten.Sublist reader.bytes := by
  induction hweight : reader.weight using Nat.strongRecOn generalizing reader with
  | _ weight ih =>
    have hsub : (reader.takeLine.1.line ++ reader.takeLine.2.bytes).Sublist reader.bytes :=
      sublist_takeFrom [] reader.chunks
    rw [lines_eq]
    rcases htake : reader.takeLine with ⟨(_ | ⟨byte, line⟩) | failure, rest⟩
    · exact List.nil_sublist _
    · have hless := weight_takeLine_of_bytes (congrArg Prod.fst htake)
      simp only [htake, List.length_cons] at hless
      simp only [htake] at hsub
      have hlater := ih rest.weight (by omega) rest rfl
      exact ((List.Sublist.refl (byte :: line)).append hlater).trans hsub
    · have hless := weight_takeLine_of_failed (congrArg Prod.fst htake)
      simp only [htake] at hless hsub
      exact (ih rest.weight (by omega) rest rfl).trans hsub

end Reader

/-! ## 2. The lines of a source -/

/-- The lines that the source has still to hand out. -/
def Source.lines : Source → List (List UInt8)
  | .reading reader => reader.lines
  | .released => []

theorem length_stripLineEnd_concat (front : List Char) :
    (stripLineEnd (front ++ ['\n'])).length ≤ front.length := by
  simp only [stripLineEnd, List.reverse_append, List.reverse_cons, List.reverse_nil,
    List.nil_append, List.cons_append]
  split
  · next hback =>
    have hlength := congrArg List.length hback
    simp only [List.length_cons, List.length_reverse] at hlength ⊢
    omega
  · next hback =>
    have hlength := congrArg List.length hback
    simp only [List.length_cons, List.length_reverse] at hlength ⊢
    omega
  · next hne => exact absurd rfl (hne _)

/-- A line has no more characters than bytes that are no line feeds. -/
theorem length_stripLineEnd_le_bodySize {bytes : List UInt8} {text : List Char}
    (hbytes : ∀ byte ∈ bytes.dropLast, isLineFeed byte = false)
    (hdecode : decodeUtf8? bytes = some text) : (stripLineEnd text).length ≤ bodySize bytes := by
  have hencode := encodeUtf8_of_decodeUtf8? hdecode
  rcases List.eq_nil_or_concat text with rfl | ⟨front, c, rfl⟩
  · exact Nat.zero_le _
  rw [List.concat_eq_append] at *
  by_cases hfeed : c = '\n'
  · subst hfeed
    rw [encodeUtf8_append] at hencode
    have hlast : encodeUtf8 ['\n'] = [10] := rfl
    rw [← hencode, hlast, List.dropLast_concat] at hbytes
    have hchars := length_le_byteLength front
    rw [← length_encodeUtf8, ← bodySize_of_no_feed hbytes] at hchars
    rw [← hencode, bodySize_append]
    have hstrip := length_stripLineEnd_concat front
    omega
  · -- without a line feed every character counts
    have hall : ∀ byte ∈ bytes, isLineFeed byte = false := by
      rw [encodeUtf8_append] at hencode
      have hlast : encodeUtf8 [c] = String.utf8EncodeChar c := List.append_nil _
      rw [← hencode, hlast, List.dropLast_append_of_ne_nil String.utf8EncodeChar_ne_nil] at hbytes
      intro byte hmem
      rw [← hencode, hlast] at hmem
      cases hbyte : isLineFeed byte with
      | false => rfl
      | true =>
        rcases List.mem_append.mp hmem with hmem | hmem
        · rw [hbytes byte (List.mem_append_left _ hmem)] at hbyte
          cases hbyte
        · exact absurd (eq_feed_of_mem_utf8EncodeChar hmem hbyte) hfeed
    have hchars := length_le_of_decodeUtf8? hdecode
    rw [bodySize_of_no_feed hall]
    exact Nat.le_trans (Source.length_stripLineEnd_le _) hchars

namespace Source

/-- A line that is handed out has no more characters than body bytes. -/
theorem lines_of_line {source rest : Source} {text : List Char}
    (hline : source.nextLine = (.line text, rest)) :
    ∃ bytes, source.lines = bytes :: rest.lines ∧ text.length ≤ bodySize bytes := by
  cases source with
  | released => cases hline
  | reading reader =>
    simp only [nextLine] at hline
    rcases htake : reader.takeLine with ⟨(_ | ⟨byte, line⟩) | failure, behind⟩
    · simp [htake, lineOfBytes] at hline
    · rw [htake] at hline
      simp only [lineOfBytes, List.isEmpty_cons, Bool.false_eq_true, if_false] at hline
      cases hdecode : decodeUtf8? (byte :: line) with
      | none => simp [hdecode] at hline
      | some decoded =>
        simp only [hdecode, Prod.mk.injEq, NextLine.line.injEq] at hline
        obtain ⟨rfl, rfl⟩ := hline
        refine ⟨byte :: line, ?_, ?_⟩
        · rw [lines, Reader.lines_eq, htake]
          rfl
        · exact length_stripLineEnd_le_bodySize
            (Reader.no_feed_of_takeFrom (by simp) (congrArg Prod.fst htake)) hdecode
    · simp [htake] at hline

theorem lines_of_failed {source rest : Source} {failure : Failure}
    (hfailed : source.nextLine = (.failed failure, rest)) :
    bodySize rest.lines.flatten ≤ bodySize source.lines.flatten := by
  cases source with
  | released => cases hfailed
  | reading reader =>
    simp only [nextLine] at hfailed
    rcases htake : reader.takeLine with ⟨(_ | ⟨byte, line⟩) | lost, behind⟩
    · simp [htake, lineOfBytes] at hfailed
    · rw [htake] at hfailed
      simp only [lineOfBytes, List.isEmpty_cons, Bool.false_eq_true, if_false] at hfailed
      cases hdecode : decodeUtf8? (byte :: line) with
      | some decoded => simp [hdecode] at hfailed
      | none =>
        simp only [hdecode, Prod.mk.injEq] at hfailed
        obtain ⟨-, rfl⟩ := hfailed
        rw [lines, lines, Reader.lines_eq reader, htake, List.flatten_cons, bodySize_append]
        exact Nat.le_add_left _ _
    · simp only [htake, Prod.mk.injEq] at hfailed
      obtain ⟨-, rfl⟩ := hfailed
      exact Nat.le_of_eq (by rw [lines, lines, Reader.lines_eq reader, htake])

end Source

/-! ## 3. The supply of a lexer -/

namespace Lexer

variable {κ : Type} {lexer after : Lexer κ}

/-- The number of characters and held tokens that the lexer can still use up. -/
def supply (lexer : Lexer κ) : Nat :=
  bodySize lexer.source.lines.flatten + lexer.rest.length + lexer.held

theorem supply_ofReader (reader : Reader) (rules : List (Rule κ)) :
    ((ofReader reader).addRules rules).supply = bodySize reader.lines.flatten := rfl

theorem Advances.supply_le {outcome : LexOutcome κ Unit} (h : lexer.Advances outcome) :
    outcome.state.supply ≤ lexer.supply := by
  induction h with
  | @ignored lexer _ m next _ _ behind _ _ ih =>
    have hless := Scan.length_lt_of_behind? behind
    have hheld : (lexer.pass m next).held = lexer.held := rfl
    have hpass : (lexer.pass m next).supply ≤ lexer.supply := by
      rw [supply, hheld, supply]
      simp only [pass]
      omega
    exact Nat.le_trans ih hpass
  | @lineRead lexer text source _ rest line _ ih =>
    obtain ⟨bytes, hlines, htext⟩ := Source.lines_of_line line
    have htrim := length_trimBlanks_le text
    have hheld : (lexer.startLine source text).held = lexer.held := rfl
    have hstart : (lexer.startLine source text).supply ≤ lexer.supply := by
      rw [supply, hheld, supply, hlines, List.flatten_cons, bodySize_append]
      simp only [startLine]
      omega
    exact Nat.le_trans ih hstart
  | @token lexer _ m next _ behind _ =>
    -- the token is held for the characters it has cost
    have hless := Scan.length_lt_of_behind? behind
    simp only [supply, pass, held, Lookahead.token?, Option.isSome_some, if_true]
    omega
  | @finished lexer source rest finished =>
    obtain rfl := Source.eq_released_of_nextLine_finished finished
    simp only [supply, held, rest, Source.lines, Lookahead.token?, Option.isSome_none]
    simp [bodySize]
  | @lineLost lexer _ source rest failed =>
    have hlost := Source.lines_of_failed failed
    have hheld : (lexer.loseLine source).held = lexer.held := rfl
    rw [Outcome.fail, supply, hheld, supply]
    simp only [loseLine, List.length_nil]
    omega
  | unmatched => exact Nat.le_refl _
  | splitCharacter => exact Nat.le_refl _

theorem supply_prime_le (lexer : Lexer κ) : lexer.prime.state.supply ≤ lexer.supply := by
  rcases lexer.prime_cases with hknown | ⟨-, hsearch⟩
  · rw [hknown]
    exact Nat.le_refl _
  · exact hsearch.supply_le

theorem supply_nextToken_lt {t : Token κ} (hnext : lexer.nextToken.result = .ok (some t)) :
    lexer.nextToken.state.supply < lexer.supply := by
  obtain ⟨hok, ht⟩ := prime_of_nextToken hnext
  have hprime := supply_prime_le lexer
  rw [nextToken_of_token hok ht]
  simp only [supply, held, ht, Lookahead.token?, Option.isSome_some, Option.isSome_none, if_true,
    Bool.false_eq_true, if_false] at hprime ⊢
  omega

theorem supply_nextToken_le (lexer : Lexer κ) : lexer.nextToken.state.supply ≤ lexer.supply := by
  have hprime := supply_prime_le lexer
  cases primed lexer with
  | token t ok lookahead =>
    exact Nat.le_of_lt (supply_nextToken_lt (by rw [nextToken_of_token ok lookahead]))
  | endOfInput ok lookahead => rw [nextToken_of_endOfInput ok lookahead]; exact hprime
  | failed error result => rw [nextToken_of_error result]; exact hprime

theorem Takes.supply_le {ts : List (Token κ)} (h : lexer.Takes ts after) :
    after.supply + ts.length ≤ lexer.supply := by
  induction h with
  | nil => exact Nat.le_refl _
  | cons first _ ih =>
    have hless := supply_nextToken_lt first
    simp only [List.length_cons]
    omega

/-- Giving up a line costs its unread text. -/
theorem supply_skipLine_lt (hprimed : lexer.lookahead = .unprimed) (hrest : lexer.rest ≠ []) :
    lexer.skipLine.1.supply < lexer.supply := by
  have hlength := List.length_pos_iff.mpr hrest
  simp only [skipLine, supply, held, hprimed, Lookahead.token?, List.length_nil]
  omega

end Lexer

end Linewise
