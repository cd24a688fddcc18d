import Linewise.Source.Reader
import Linewise.Text.Utf8

/-!
# Sources — text line by line

A source hands out the lines of its reader without their terminators.  It lets go of the reader
as soon as the reader reports the end of input, and has no more lines from then on.
-/

namespace Linewise

/-- A reader, or none once it has been let go. -/
inductive Source where
  | reading (reader : Reader)
  | released
deriving DecidableEq, Repr

inductive NextLine where
  | line (text : List Char)
  | finished
  | failed (failure : Failure)
deriving DecidableEq, Repr

/-- The text without a line feed at its end and, if there was one, without a carriage return in
front of it. -/
def stripLineEnd (text : List Char) : List Char :=
  match text.reverse with
  | '\n' :: '\r' :: front => front.reverse
  | '\n' :: front => front.reverse
  | _ => text

namespace Source

def isReleased : Source → Bool
  | .reading _ => false
  | .released => true

def reader? : Source → Option Reader
  | .reading reader => some reader
  | .released => none

/-- What comes of the bytes of a line: no bytes at all are the end of input. -/
def lineOfBytes (bytes : List UInt8) : NextLine :=
  if bytes.isEmpty then .finished
  else
    match decodeUtf8? bytes with
    | some text => .line (stripLineEnd text)
    | none => .failed .invalidText

def nextLine : Source → NextLine × Source
  | .released => (.finished, .released)
  | .reading reader =>
    match reader.takeLine with
    | (.failed failure, rest) => (.failed failure, .reading rest)
    | (.bytes bytes, rest) =>
      match lineOfBytes bytes with
      -- the reader is not asked again, even if more would follow
      | .finished => (.finished, .released)
      | found => (found, .reading rest)

/-! ## Progress -/

/-- A bound on how often the source can still be asked for something. -/
def weight : Source → Nat
  | .reading reader => reader.weight + 1
  | .released => 0

theorem lineOfBytes_eq_finished_iff (bytes : List UInt8) :
    lineOfBytes bytes = .finished ↔ bytes = [] := by
  cases bytes with
  | nil => simp [lineOfBytes]
  | cons b bytes => simp only [lineOfBytes]; cases decodeUtf8? (b :: bytes) <;> simp

theorem length_stripLineEnd_le (text : List Char) : (stripLineEnd text).length ≤ text.length := by
  unfold stripLineEnd
  split
  · next front h => have := congrArg List.length h; simp at this ⊢; omega
  · next front _ h => have := congrArg List.length h; simp at this ⊢; omega
  · exact Nat.le_refl _

/-- A line that is handed out uses up its characters. -/
theorem weight_nextLine_of_line {source rest : Source} {text : List Char}
    (h : source.nextLine = (.line text, rest)) :
    rest.weight + text.length ≤ source.weight ∧ rest.weight < source.weight := by
  cases source with
  | released => simp [nextLine] at h
  | reading reader =>
    simp only [nextLine] at h
    rcases ht : reader.takeLine with ⟨bytes | failure, after⟩
    · simp only [ht] at h
      -- at least as many bytes are taken as characters are handed out
      have hw := Reader.weight_takeLine_of_bytes (by rw [ht])
      simp only [ht] at hw
      cases bytes with
      | nil => simp [lineOfBytes] at h
      | cons b bytes =>
        simp only [lineOfBytes, List.isEmpty_cons, Bool.false_eq_true, if_false] at h
        cases hd : decodeUtf8? (b :: bytes) with
        | none => simp [hd] at h
        | some t =>
          simp only [hd, Prod.mk.injEq, NextLine.line.injEq] at h
          obtain ⟨rfl, rfl⟩ := h
          have h1 := length_stripLineEnd_le t
          have h2 := length_le_of_decodeUtf8? hd
          simp only [weight, List.length_cons] at *
          omega
    · simp [ht] at h

theorem weight_nextLine_of_failed {source rest : Source} {failure : Failure}
    (h : source.nextLine = (.failed failure, rest)) : rest.weight < source.weight := by
  cases source with
  | released => simp [nextLine] at h
  | reading reader =>
    simp only [nextLine] at h
    rcases ht : reader.takeLine with ⟨bytes | failure, after⟩
    · simp only [ht] at h
      have hw := Reader.weight_takeLine_of_bytes (by rw [ht])
      simp only [ht] at hw
      cases bytes with
      | nil => simp [lineOfBytes] at h
      | cons b bytes =>
        simp only [lineOfBytes, List.isEmpty_cons, Bool.false_eq_true, if_false] at h
        cases hd : decodeUtf8? (b :: bytes) with
        | some t => simp [hd] at h
        | none =>
          simp only [hd, Prod.mk.injEq] at h
          obtain ⟨-, rfl⟩ := h
          simp only [weight, List.length_cons] at *
          omega
    · have hw := Reader.weight_takeLine_of_failed (by rw [ht])
      simp only [ht, Prod.mk.injEq] at h hw
      obtain ⟨-, rfl⟩ := h
      exact Nat.succ_lt_succ hw

theorem eq_released_of_nextLine_finished {source rest : Source}
    (h : source.nextLine = (.finished, rest)) : rest = .released := by
  cases source with
  | released => simp [nextLine] at h; exact h.symm
  | reading reader =>
    simp only [nextLine] at h
    split at h
    · simp at h
    · split at h
      · simp only [Prod.mk.injEq] at h; exact h.2.symm
      · next hne _ => simp only [Prod.mk.injEq] at h; exact absurd h.1 (by assumption)

end Source

end Linewise
