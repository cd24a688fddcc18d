import Linewise.Proofs.Source.Delivery
import Mathlib.Data.List.SplitBy

/-!
# Streams — what a reader delivers, item by item

A reader delivers bytes and failures, one behind another.  How its bytes are cut into chunks, and which
reads had to be tried again, leaves no trace in this stream.  A line that is read takes one piece off
it: all up to and including the next line feed or the next failure (`nextLine_of_stream`).
-/

namespace Linewise

/-! ## 1. Deliveries -/

inductive Delivery where
  | byte (value : UInt8)
  | failure (reason : Failure)
deriving DecidableEq, Repr

namespace Delivery

def isFeed : Delivery → Bool
  | .byte value => isLineFeed value
  | .failure _ => false

def isFailure : Delivery → Bool
  | .byte _ => false
  | .failure _ => true

def byte? : Delivery → Option UInt8
  | .byte value => some value
  | .failure _ => none

/-- Whether reading a line stops behind the delivery. -/
def endsPiece (delivery : Delivery) : Bool := delivery.isFeed || delivery.isFailure

@[simp]
theorem endsPiece_byte (value : UInt8) : (byte value).endsPiece = isLineFeed value :=
  Bool.or_false _

theorem countP_endsPiece (stream : List Delivery) :
    stream.countP endsPiece = stream.countP isFeed + stream.countP isFailure := by
  induction stream with
  | nil => rfl
  | cons delivery stream ih =>
    simp only [List.countP_cons, ih]
    cases delivery with
    | byte value =>
      rw [endsPiece_byte]
      exact Nat.add_right_comm _ _ _
    | failure reason => exact Nat.add_assoc _ _ _

end Delivery

/-- What a chunk delivers: a read that only has to be tried again delivers nothing. -/
def Chunk.deliveries : Chunk → List Delivery
  | .data bytes => bytes.map .byte
  | .failure reason => if reason.isInterrupted then [] else [.failure reason]

namespace Reader

def stream (reader : Reader) : List Delivery := reader.chunks.flatMap Chunk.deliveries

/-- No chunk is empty, so there is no end of input that passes. -/
def IsSteady (reader : Reader) : Prop := ∀ chunk ∈ reader.chunks, chunk ≠ .data []

instance (reader : Reader) : Decidable reader.IsSteady :=
  inferInstanceAs (Decidable (∀ chunk ∈ reader.chunks, chunk ≠ .data []))

theorem stream_cons (chunk : Chunk) (chunks : List Chunk) :
    stream ⟨chunk :: chunks⟩ = chunk.deliveries ++ stream ⟨chunks⟩ := rfl

theorem isSteady_cons {chunk : Chunk} {chunks : List Chunk} :
    IsSteady ⟨chunk :: chunks⟩ ↔ chunk ≠ .data [] ∧ IsSteady ⟨chunks⟩ := List.forall_mem_cons

theorem stream_of_delivers {reader : Reader} {bytes : List UInt8} (h : reader.Delivers bytes) :
    reader.stream = bytes.map .byte ∧ reader.IsSteady := by
  induction h with
  | ended => exact ⟨rfl, nofun⟩
  | @data piece chunks bytes piece_ne later ih =>
    rw [stream_cons, ih.1, Chunk.deliveries, List.map_append]
    exact ⟨rfl, isSteady_cons.mpr ⟨by simpa using piece_ne, ih.2⟩⟩
  | @retried failure chunks bytes interrupted later ih =>
    rw [stream_cons, Chunk.deliveries, if_pos interrupted, List.nil_append]
    exact ⟨ih.1, isSteady_cons.mpr ⟨by simp, ih.2⟩⟩

theorem stream_putBack (bytes : List UInt8) (chunks : List Chunk) :
    stream ⟨putBack bytes chunks⟩ = bytes.map .byte ++ stream ⟨chunks⟩ := by
  cases bytes <;> rfl

theorem isSteady_putBack (bytes : List UInt8) {chunks : List Chunk} (h : IsSteady ⟨chunks⟩) :
    IsSteady ⟨putBack bytes chunks⟩ := by
  cases bytes with
  | nil => exact h
  | cons byte bytes => exact isSteady_cons.mpr ⟨by simp, h⟩

/-- What is left unread are the bytes of the stream. -/
theorem unread_eq (reader : Reader) : reader.unread = reader.stream.countP (·.byte?.isSome) := by
  obtain ⟨chunks⟩ := reader
  induction chunks with
  | nil => rfl
  | cons chunk chunks ih =>
    show chunk.size + unread ⟨chunks⟩ = _
    rw [ih, stream_cons, List.countP_append]
    congr 1
    cases chunk with
    | data bytes =>
      rw [Chunk.deliveries, List.countP_map]
      exact (List.countP_eq_length.mpr fun _ _ => rfl).symm
    | failure failure =>
      rw [Chunk.deliveries]
      split <;> rfl

end Reader

/-! ## 2. Pieces -/

/-- The first piece of a stream, and what is delivered behind it. -/
def cutPiece : List Delivery → List Delivery × List Delivery
  | [] => ([], [])
  | delivery :: rest =>
    if delivery.endsPiece then ([delivery], rest)
    else (delivery :: (cutPiece rest).1, (cutPiece rest).2)

/-- The stream cut behind every line feed and every failure. -/
def pieces (stream : List Delivery) : List (List Delivery) :=
  stream.splitBy fun delivery _ => !delivery.endsPiece

/-- Behind a stream that ends with a line feed or a failure, or is empty, a new piece begins. -/
def IsClosed (stream : List Delivery) : Prop := ∀ last ∈ stream.getLast?, last.endsPiece = true

theorem IsClosed.of_append {front back : List Delivery} (h : IsClosed (front ++ back))
    (hne : back ≠ []) : IsClosed back := fun last hlast =>
  h last (by rwa [List.getLast?_append_of_ne_nil _ hne])

theorem isClosed_map_byte {bytes : List UInt8} :
    IsClosed (bytes.map .byte) ↔ ∀ last ∈ bytes.getLast?, isLineFeed last = true := by
  rw [IsClosed, List.getLast?_map]
  simp [Option.mem_def]

section Cut

variable {stream : List Delivery}

theorem cutPiece_append_cutPiece (stream : List Delivery) :
    (cutPiece stream).1 ++ (cutPiece stream).2 = stream := by
  induction stream with
  | nil => rfl
  | cons delivery rest ih =>
    rw [cutPiece]
    split
    · rfl
    · rw [List.cons_append, ih]

theorem cutPiece_ne_nil (hne : stream ≠ []) : (cutPiece stream).1 ≠ [] := by
  obtain ⟨delivery, rest, rfl⟩ := List.exists_cons_of_ne_nil hne
  rw [cutPiece]
  split <;> simp

/-- A piece goes on to the first delivery that ends it. -/
theorem isChain_cutPiece (stream : List Delivery) :
    (cutPiece stream).1.IsChain fun delivery _ => (!delivery.endsPiece) = true := by
  induction stream with
  | nil => exact .nil
  | cons delivery rest ih =>
    rw [cutPiece]
    split
    · exact .singleton delivery
    · next hgoes =>
      rw [List.isChain_cons]
      exact ⟨fun _ _ => by simpa using hgoes, ih⟩

/-- Only the last piece of a stream can be without an end. -/
theorem isClosed_cutPiece (hmore : (cutPiece stream).2 ≠ []) :
    IsClosed (cutPiece stream).1 ∧ (cutPiece stream).1.countP Delivery.endsPiece = 1 := by
  induction stream with
  | nil => exact absurd rfl hmore
  | cons delivery rest ih =>
    rw [cutPiece] at hmore ⊢
    by_cases hends : delivery.endsPiece = true
    · rw [if_pos hends]
      refine ⟨?_, by simp [hends]⟩
      rintro _ ⟨⟩
      exact hends
    · rw [if_neg hends] at hmore ⊢
      obtain ⟨hlast, hcount⟩ := ih hmore
      have hrest : rest ≠ [] := fun hnil => hmore (by rw [hnil]; rfl)
      obtain ⟨next, piece, hpiece⟩ := List.exists_cons_of_ne_nil (cutPiece_ne_nil hrest)
      refine ⟨?_, by simp [hends, hcount]⟩
      show ∀ last ∈ (delivery :: (cutPiece rest).1).getLast?, last.endsPiece = true
      rw [hpiece, List.getLast?_cons_cons, ← hpiece]
      exact hlast

theorem pieces_of_ne_nil (hne : stream ≠ []) :
    pieces stream = (cutPiece stream).1 :: pieces (cutPiece stream).2 := by
  have hends : ∀ last ∈ (cutPiece stream).1.getLast?, ∀ next ∈ (cutPiece stream).2.head?,
      (!last.endsPiece) = false := by
    intro last hlast next hnext
    have hmore : (cutPiece stream).2 ≠ [] := fun hnil => by rw [hnil] at hnext; cases hnext
    simp [(isClosed_cutPiece hmore).1 last hlast]
  have hsplit : pieces ((cutPiece stream).1 ++ (cutPiece stream).2) = _ := List.splitBy_append hends
  rw [cutPiece_append_cutPiece] at hsplit
  rw [hsplit, List.splitBy_of_isChain (cutPiece_ne_nil hne) (isChain_cutPiece stream)]
  rfl

theorem pieces_eq_nil_iff : pieces stream = [] ↔ stream = [] := List.splitBy_eq_nil

/-- The first piece is not changed by what follows a stream that is closed. -/
theorem cutPiece_append (hne : stream ≠ []) (hclosed : IsClosed stream) (more : List Delivery) :
    cutPiece (stream ++ more) = ((cutPiece stream).1, (cutPiece stream).2 ++ more) ∧
      IsClosed (cutPiece stream).2 := by
  induction stream with
  | nil => exact absurd rfl hne
  | cons delivery rest ih =>
    rw [List.cons_append, cutPiece, cutPiece]
    cases rest with
    | nil =>
      have hends : delivery.endsPiece = true := hclosed delivery rfl
      rw [if_pos hends, if_pos hends]
      exact ⟨rfl, nofun⟩
    | cons next rest =>
      have hlater : IsClosed (next :: rest) := fun last hlast =>
        hclosed last (by rwa [List.getLast?_cons_cons])
      by_cases hends : delivery.endsPiece = true
      · rw [if_pos hends, if_pos hends]
        exact ⟨rfl, hlater⟩
      · obtain ⟨hcut, hbehind⟩ := ih (by simp) hlater
        rw [if_neg hends, if_neg hends, hcut]
        exact ⟨rfl, hbehind⟩

/-- In front of a piece stand as many pieces as line feeds and failures have been delivered. -/
theorem length_of_pieces_eq {before later : List (List Delivery)} {piece : List Delivery}
    (h : pieces stream = before ++ piece :: later) :
    before.length =
      before.flatten.countP Delivery.isFeed + before.flatten.countP Delivery.isFailure := by
  rw [← Delivery.countP_endsPiece]
  induction before generalizing stream with
  | nil => rfl
  | cons first before ih =>
    have hne : stream ≠ [] := fun hnil => by rw [hnil] at h; cases h
    rw [pieces_of_ne_nil hne, List.cons_append, List.cons.injEq] at h
    obtain ⟨rfl, hlater⟩ := h
    -- something is delivered behind the first piece, so the piece has an end
    have hmore : (cutPiece stream).2 ≠ [] := fun hnil => by
      rw [pieces_eq_nil_iff.mpr hnil] at hlater
      simp at hlater
    rw [List.length_cons, ih hlater, List.flatten_cons, List.countP_append,
      (isClosed_cutPiece hmore).2]
    omega

end Cut

/-! ## 3. Reading a piece -/

/-- What comes of taking a piece, behind the bytes `line`. -/
def takenOf (line : List UInt8) (piece : List Delivery) : Taken :=
  match piece.getLast? with
  | some (.failure failure) => .failed failure
  | _ => .bytes (line ++ piece.filterMap Delivery.byte?)

/-- What a source hands out for a piece. -/
def Source.lineOfPiece (piece : List Delivery) : NextLine :=
  match takenOf [] piece with
  | .failed failure => .failed failure
  | .bytes bytes => lineOfBytes bytes

theorem filterMap_byte? (bytes : List UInt8) :
    (bytes.map Delivery.byte).filterMap Delivery.byte? = bytes := by
  rw [List.filterMap_map]
  exact List.filterMap_some

/-- A piece that comes to bytes comes to at least one. -/
theorem ne_nil_of_takenOf {piece : List Delivery} {bytes : List UInt8} (hne : piece ≠ [])
    (htaken : takenOf [] piece = .bytes bytes) : bytes ≠ [] := by
  rintro rfl
  obtain ⟨last, hlast⟩ := Option.ne_none_iff_exists'.mp (List.getLast?_eq_none_iff.not.mpr hne)
  rw [takenOf, hlast] at htaken
  cases last with
  | failure reason => cases htaken
  | byte value =>
    have hnone : piece.filterMap Delivery.byte? = [] := by simpa using htaken
    have := List.filterMap_eq_nil_iff.mp hnone _ (List.mem_of_getLast? hlast)
    cases this

/-- Bytes in front of a piece belong to its line. -/
theorem takenOf_append (line bytes : List UInt8) {piece : List Delivery} (hne : piece ≠ []) :
    takenOf line (bytes.map .byte ++ piece) = takenOf (line ++ bytes) piece := by
  rw [takenOf, takenOf, List.getLast?_append_of_ne_nil _ hne, List.filterMap_append, filterMap_byte?,
    List.append_assoc]

theorem takenOf_bytes (line bytes : List UInt8) :
    takenOf line (bytes.map .byte) = .bytes (line ++ bytes) := by
  rw [takenOf, filterMap_byte?]
  split
  · next hlast =>
    rw [List.getLast?_map, Option.map_eq_some_iff] at hlast
    obtain ⟨byte, -, hbyte⟩ := hlast
    cases hbyte
  · rfl

theorem cutPiece_of_splitLine?_some {bytes front behind : List UInt8}
    (hsplit : splitLine? bytes = some (front, behind)) (more : List Delivery) :
    cutPiece (bytes.map .byte ++ more) = (front.map .byte, behind.map .byte ++ more) := by
  induction bytes generalizing front with
  | nil => cases hsplit
  | cons byte rest ih =>
    rw [List.map_cons, List.cons_append, cutPiece]
    simp only [splitLine?] at hsplit
    by_cases hfeed : isLineFeed byte = true
    · rw [if_pos hfeed] at hsplit
      cases hsplit
      rw [Delivery.endsPiece_byte, if_pos hfeed]
      rfl
    · rw [if_neg hfeed, Option.map_eq_some_iff] at hsplit
      obtain ⟨⟨line, later⟩, hrest, hcut⟩ := hsplit
      cases hcut
      rw [Delivery.endsPiece_byte, if_neg hfeed, ih hrest]
      rfl

theorem cutPiece_of_splitLine?_none {bytes : List UInt8} (hsplit : splitLine? bytes = none)
    (more : List Delivery) :
    cutPiece (bytes.map .byte ++ more) = (bytes.map .byte ++ (cutPiece more).1, (cutPiece more).2) := by
  induction bytes with
  | nil => rfl
  | cons byte rest ih =>
    rw [List.map_cons, List.cons_append, cutPiece]
    simp only [splitLine?] at hsplit
    by_cases hfeed : isLineFeed byte = true
    · rw [if_pos hfeed] at hsplit
      cases hsplit
    · rw [if_neg hfeed, Option.map_eq_none_iff] at hsplit
      rw [Delivery.endsPiece_byte, if_neg hfeed, ih hsplit]
      rfl

namespace Reader

/-- Taking a line from some chunks takes the first piece of their stream. -/
theorem takeFrom_of_stream {chunks : List Chunk} (hsteady : IsSteady ⟨chunks⟩) (line : List UInt8) :
    ∃ rest, takeFrom line chunks = (takenOf line (cutPiece (stream ⟨chunks⟩)).1, rest) ∧
      stream ⟨rest⟩ = (cutPiece (stream ⟨chunks⟩)).2 ∧ IsSteady ⟨rest⟩ := by
  induction chunks generalizing line with
  | nil => exact ⟨[], by simp [takeFrom, stream, cutPiece, takenOf], rfl, nofun⟩
  | cons chunk chunks ih =>
    obtain ⟨hchunk, hlater⟩ := isSteady_cons.mp hsteady
    cases chunk with
    | failure failure =>
      rw [takeFrom, stream_cons, Chunk.deliveries]
      by_cases hretry : failure.isInterrupted = true
      · rw [if_pos hretry, if_pos hretry]
        exact ih hlater line
      · rw [if_neg hretry, if_neg hretry]
        exact ⟨chunks, rfl, rfl, hlater⟩
    | data bytes =>
      have hne : bytes ≠ [] := fun hnil => hchunk (by rw [hnil])
      rw [takeFrom, if_neg (by simpa using hne), stream_cons, Chunk.deliveries]
      cases hsplit : splitLine? bytes with
      | some cut =>
        obtain ⟨front, behind⟩ := cut
        rw [cutPiece_of_splitLine?_some hsplit]
        exact ⟨putBack behind chunks, by rw [takenOf_bytes], stream_putBack behind chunks,
          isSteady_putBack behind hlater⟩
      | none =>
        -- the line goes on in the next chunk
        obtain ⟨rest, htake, hrest⟩ := ih hlater (line ++ bytes)
        rw [cutPiece_of_splitLine?_none hsplit]
        refine ⟨rest, ?_, hrest⟩
        rw [htake]
        by_cases hmore : stream ⟨chunks⟩ = []
        · rw [hmore, cutPiece, List.append_nil, takenOf_bytes]
          simp [takenOf]
        · rw [takenOf_append line bytes (cutPiece_ne_nil hmore)]

/-- Chunks that deliver nothing leave no trace. -/
theorem takeFrom_of_silent {chunks : List Chunk} (hsteady : IsSteady ⟨chunks⟩)
    (hnil : stream ⟨chunks⟩ = []) (line : List UInt8) (more : List Chunk) :
    takeFrom line (chunks ++ more) = takeFrom line more := by
  induction chunks with
  | nil => rfl
  | cons chunk chunks ih =>
    obtain ⟨hchunk, hlater⟩ := isSteady_cons.mp hsteady
    rw [stream_cons] at hnil
    obtain ⟨hfirst, hrest⟩ := List.append_eq_nil_iff.mp hnil
    cases chunk with
    | data bytes => exact absurd (by rw [List.map_eq_nil_iff.mp hfirst]) hchunk
    | failure failure =>
      have hretry : failure.isInterrupted = true := by
        by_contra hfinal
        rw [Chunk.deliveries, if_neg hfinal] at hfirst
        cases hfirst
      rw [List.cons_append, takeFrom, if_pos hretry]
      exact ih hlater hrest

/-- What comes behind a stream that is closed has no part in its first line. -/
theorem takeFrom_append {chunks : List Chunk} (hsteady : IsSteady ⟨chunks⟩)
    (hne : stream ⟨chunks⟩ ≠ []) (hclosed : IsClosed (stream ⟨chunks⟩)) (line : List UInt8)
    (more : List Chunk) :
    takeFrom line (chunks ++ more) = ((takeFrom line chunks).1, (takeFrom line chunks).2 ++ more) := by
  induction chunks generalizing line with
  | nil => exact absurd rfl hne
  | cons chunk chunks ih =>
    obtain ⟨hchunk, hlater⟩ := isSteady_cons.mp hsteady
    cases chunk with
    | failure failure =>
      rw [stream_cons, Chunk.deliveries] at hne hclosed
      rw [List.cons_append, takeFrom, takeFrom]
      by_cases hretry : failure.isInterrupted = true
      · rw [if_pos hretry] at hne hclosed ⊢
        rw [if_pos hretry]
        exact ih hlater hne hclosed line
      · rw [if_neg hretry, if_neg hretry]
    | data bytes =>
      have hbytes : bytes ≠ [] := fun hnil => hchunk (by rw [hnil])
      rw [stream_cons, Chunk.deliveries] at hclosed
      rw [List.cons_append, takeFrom, takeFrom, if_neg (by simpa using hbytes),
        if_neg (by simpa using hbytes)]
      cases hsplit : splitLine? bytes with
      | some cut =>
        obtain ⟨front, behind⟩ := cut
        have hback : putBack behind (chunks ++ more) = putBack behind chunks ++ more := by
          cases behind <;> rfl
        simp only [hback]
      | none =>
        -- bytes without a line feed do not close a stream
        have hmore : stream ⟨chunks⟩ ≠ [] := fun hnil => by
          rw [hnil, List.append_nil, isClosed_map_byte] at hclosed
          obtain ⟨last, hlast⟩ := Option.ne_none_iff_exists'.mp (List.getLast?_eq_none_iff.not.mpr hbytes)
          have hfeed := no_feed_of_splitLine?_none hsplit last (List.mem_of_getLast? hlast)
          rw [hclosed last hlast] at hfeed
          cases hfeed
        exact ih hlater hmore (hclosed.of_append hmore) (line ++ bytes)

end Reader

namespace Source

def stream : Source → List Delivery
  | .reading reader => reader.stream
  | .released => []

def IsSteady : Source → Prop
  | .reading reader => reader.IsSteady
  | .released => True

theorem nextLine_of_stream_nil {source : Source} (hsteady : source.IsSteady)
    (hnil : source.stream = []) : source.nextLine = (.finished, .released) := by
  cases source with
  | released => rfl
  | reading reader =>
    obtain ⟨rest, htake, -⟩ := Reader.takeFrom_of_stream hsteady []
    have hpiece : (cutPiece reader.stream).1 = [] := congrArg (fun stream => (cutPiece stream).1) hnil
    rw [nextLine, Reader.takeLine, htake, hpiece]
    rfl

theorem nextLine_of_takeFrom {chunks rest : List Chunk} {piece : List Delivery} (hne : piece ≠ [])
    (htake : Reader.takeFrom [] chunks = (takenOf [] piece, rest)) :
    (reading ⟨chunks⟩).nextLine = (lineOfPiece piece, .reading ⟨rest⟩) := by
  rw [nextLine, Reader.takeLine, htake, lineOfPiece]
  cases htaken : takenOf [] piece with
  | failed failure => rfl
  | bytes bytes =>
    have hbytes : lineOfBytes bytes ≠ .finished := by
      rw [ne_eq, lineOfBytes_eq_finished_iff]
      exact ne_nil_of_takenOf hne htaken
    dsimp only
    split
    · contradiction
    · rfl

/-- The source hands out what the first piece of its stream comes to, and goes on behind it. -/
theorem nextLine_of_stream {source : Source} (hsteady : source.IsSteady)
    (hne : source.stream ≠ []) :
    ∃ rest : Reader, source.nextLine = (lineOfPiece (cutPiece source.stream).1, .reading rest) ∧
      rest.stream = (cutPiece source.stream).2 ∧ rest.IsSteady := by
  cases source with
  | released => exact absurd rfl hne
  | reading reader =>
    obtain ⟨rest, htake, hrest⟩ := Reader.takeFrom_of_stream hsteady []
    exact ⟨⟨rest⟩, nextLine_of_takeFrom (cutPiece_ne_nil hne) htake, hrest⟩

/-- A source that does not end with the read takes the first piece of its stream. -/
theorem pieces_of_nextLine {source rest : Source} {found : NextLine} (hsteady : source.IsSteady)
    (hnext : source.nextLine = (found, rest)) (hgoes : found ≠ .finished) :
    ∃ piece, pieces source.stream = piece :: pieces rest.stream ∧ lineOfPiece piece = found ∧
      rest.IsSteady := by
  by_cases hnil : source.stream = []
  · rw [nextLine_of_stream_nil hsteady hnil, Prod.mk.injEq] at hnext
    exact absurd hnext.1.symm hgoes
  · obtain ⟨reader, hread, hstream, hlater⟩ := nextLine_of_stream hsteady hnil
    rw [hread, Prod.mk.injEq] at hnext
    obtain ⟨rfl, rfl⟩ := hnext
    refine ⟨(cutPiece source.stream).1, ?_, rfl, hlater⟩
    rw [pieces_of_ne_nil hnil, ← hstream]
    rfl

/-- Only a source whose stream is at its end lets go of its reader. -/
theorem stream_of_nextLine_finished {source rest : Source} (hsteady : source.IsSteady)
    (hnext : source.nextLine = (.finished, rest)) : source.stream = [] ∧ rest = .released := by
  have hrest := eq_released_of_nextLine_finished hnext
  by_contra hmore
  have hne : source.stream ≠ [] := fun hnil => hmore ⟨hnil, hrest⟩
  obtain ⟨reader, hread, -⟩ := nextLine_of_stream hsteady hne
  rw [hread, hrest, Prod.mk.injEq] at hnext
  cases hnext.2

end Source

end Linewise
