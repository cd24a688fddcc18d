import Linewise.Failure

/-!
# Readers — bytes as they arrive

A reader delivers chunks of bytes and failures, in order.  A line is taken from it byte by byte,
across chunks, up to and including a line feed.  An interrupted read is tried again; any other
failure loses the bytes of the line read so far.  An empty chunk is an end of input that passes:
what follows it can still be read afterwards.
-/

namespace Linewise

inductive Chunk where
  | data (bytes : List UInt8)
  | failure (failure : Failure)
deriving DecidableEq, Repr

namespace Chunk

def size : Chunk → Nat
  | .data bytes => bytes.length
  | .failure _ => 0

end Chunk

/-- What a reader has still to deliver. -/
structure Reader where
  chunks : List Chunk
deriving DecidableEq, Repr

/-- What comes of taking a line: its bytes with the line feed, none at the end of input, or a
failure. -/
inductive Taken where
  | bytes (bytes : List UInt8)
  | failed (failure : Failure)
deriving DecidableEq, Repr

def isLineFeed (byte : UInt8) : Bool := byte == 10

/-- The bytes up to and including the first line feed, and the bytes behind it; nothing if there
is no line feed. -/
def splitLine? : List UInt8 → Option (List UInt8 × List UInt8)
  | [] => none
  | byte :: rest =>
    if isLineFeed byte then some ([byte], rest)
    else (splitLine? rest).map fun (line, behind) => (byte :: line, behind)

theorem append_of_splitLine? {bytes line behind : List UInt8}
    (h : splitLine? bytes = some (line, behind)) : bytes = line ++ behind ∧ line ≠ [] := by
  induction bytes generalizing line behind with
  | nil => simp [splitLine?] at h
  | cons byte bytes ih =>
    simp only [splitLine?] at h
    split at h
    · cases h; simp
    · simp only [Option.map_eq_some_iff] at h
      obtain ⟨⟨l, b⟩, hl, he⟩ := h
      cases he
      simp [(ih hl).1]

namespace Reader

/-- A reader that delivers the given bytes and ends. -/
def ofBytes (bytes : List UInt8) : Reader := ⟨if bytes.isEmpty then [] else [.data bytes]⟩

def unread (reader : Reader) : Nat := reader.chunks.foldr (fun chunk count => chunk.size + count) 0

/-- The number of deliveries and bytes that the reader has still to make. -/
def weight (reader : Reader) : Nat :=
  reader.chunks.foldr (fun chunk count => chunk.size + 1 + count) 0

/-- The chunks with some bytes put back in front; no bytes make no chunk. -/
def putBack (bytes : List UInt8) (chunks : List Chunk) : List Chunk :=
  if bytes.isEmpty then chunks else .data bytes :: chunks

/-- Takes a line from the chunks; `line` are the bytes of the line taken so far. -/
def takeFrom (line : List UInt8) : List Chunk → Taken × List Chunk
  | [] => (.bytes line, [])
  | .failure failure :: chunks =>
    -- a failure loses the bytes of the line so far
    if failure.isInterrupted then takeFrom line chunks else (.failed failure, chunks)
  | .data bytes :: chunks =>
    -- an end of input that passes ends the line, too
    if bytes.isEmpty then (.bytes line, chunks)
    else
      match splitLine? bytes with
      | some (front, behind) => (.bytes (line ++ front), putBack behind chunks)
      | none => takeFrom (line ++ bytes) chunks

def takeLine (reader : Reader) : Taken × Reader :=
  let (taken, chunks) := takeFrom [] reader.chunks
  (taken, ⟨chunks⟩)

/-! ## Progress -/

theorem weight_putBack (bytes : List UInt8) (chunks : List Chunk) :
    weight ⟨putBack bytes chunks⟩ ≤ bytes.length + 1 + weight ⟨chunks⟩ := by
  cases bytes <;> simp [putBack, weight, Chunk.size]

/-- The bytes of a line are bytes of the reader. -/
theorem weight_takeFrom_of_bytes {line taken : List UInt8} {chunks : List Chunk}
    (h : (takeFrom line chunks).1 = .bytes taken) :
    weight ⟨(takeFrom line chunks).2⟩ + taken.length ≤ weight ⟨chunks⟩ + line.length := by
  fun_induction takeFrom line chunks generalizing taken with
  | case1 line => simp at h; simp [h]
  | case2 line failure chunks hf ih => have := ih h; simp [weight] at *; omega
  | case3 => simp at h
  | case4 line bytes chunks hb => simp at h; simp [weight, h]
  | case5 line bytes chunks hb front behind hs =>
    obtain ⟨rfl, hf⟩ := append_of_splitLine? hs
    have := weight_putBack behind chunks
    have hl : 0 < front.length := List.length_pos_iff.mpr hf
    simp only [Taken.bytes.injEq] at h
    subst h
    simp [weight, Chunk.size] at *
    omega
  | case6 line bytes chunks hb hs ih =>
    have := ih h
    simp [weight, Chunk.size] at *
    omega

/-- A failure uses up a delivery. -/
theorem weight_takeFrom_of_failed {line : List UInt8} {chunks : List Chunk}
    {failure : Failure} (h : (takeFrom line chunks).1 = .failed failure) :
    weight ⟨(takeFrom line chunks).2⟩ < weight ⟨chunks⟩ := by
  fun_induction takeFrom line chunks with
  | case1 => simp at h
  | case2 line f chunks hf ih => have := ih h; simp [weight] at *; omega
  | case3 line f chunks hf => simp [weight]
  | case4 => simp at h
  | case5 => simp at h
  | case6 line bytes chunks hb hs ih => have := ih h; simp [weight] at *; omega

theorem weight_takeLine_of_bytes {reader : Reader} {taken : List UInt8}
    (h : reader.takeLine.1 = .bytes taken) :
    reader.takeLine.2.weight + taken.length ≤ reader.weight :=
  weight_takeFrom_of_bytes h

theorem weight_takeLine_of_failed {reader : Reader} {failure : Failure}
    (h : reader.takeLine.1 = .failed failure) : reader.takeLine.2.weight < reader.weight :=
  weight_takeFrom_of_failed h

end Reader

end Linewise
