/-!
# UTF-8 — texts as bytes

A text is a list of characters.  Its bytes are those of UTF-8; sizes and cuts given in bytes are
computed on the characters, and a cut that would split a character is refused.
-/

namespace Linewise

/-- The text with the given bytes, or nothing if they are no UTF-8. -/
def decodeUtf8? (bytes : List UInt8) : Option (List Char) :=
  bytes.toByteArray.utf8Decode?.map Array.toList

def encodeUtf8 (text : List Char) : List UInt8 := text.flatMap String.utf8EncodeChar

def byteLength : List Char → Nat
  | [] => 0
  | c :: rest => c.utf8Size + byteLength rest

/-- The text behind its first `count` bytes, or nothing if they end inside a character or reach
beyond the text. -/
def dropBytes? (count : Nat) : List Char → Option (List Char)
  | [] => if count = 0 then some [] else none
  | c :: rest =>
    if count = 0 then some (c :: rest)
    else if c.utf8Size ≤ count then dropBytes? (count - c.utf8Size) rest
    else none

theorem decodeUtf8?_encodeUtf8 (text : List Char) :
    decodeUtf8? (encodeUtf8 text) = some text := by
  have h : (encodeUtf8 text).toByteArray = text.utf8Encode := rfl
  simp [decodeUtf8?, h, List.utf8Decode?_utf8Encode]

/-- Only the bytes of a text decode to it. -/
theorem encodeUtf8_of_decodeUtf8? {bytes : List UInt8} {text : List Char}
    (h : decodeUtf8? bytes = some text) : encodeUtf8 text = bytes := by
  simp only [decodeUtf8?, Option.map_eq_some_iff] at h
  obtain ⟨array, ha, rfl⟩ := h
  have hs : bytes.toByteArray.utf8Decode?.isSome = true := by simp [ha]
  have he : array.toList.utf8Encode = bytes.toByteArray := by
    have := ByteArray.utf8Encode_get_utf8Decode? (h := hs)
    simpa [ha] using this
  have hl : (encodeUtf8 array.toList).toByteArray = bytes.toByteArray := he
  have hd := congrArg (fun b : ByteArray => b.data.toList) hl
  simpa using hd

@[simp] theorem encodeUtf8_append (s t : List Char) :
    encodeUtf8 (s ++ t) = encodeUtf8 s ++ encodeUtf8 t := by
  simp [encodeUtf8]

@[simp] theorem byteLength_append (s t : List Char) :
    byteLength (s ++ t) = byteLength s + byteLength t := by
  induction s with
  | nil => simp [byteLength]
  | cons c s ih => simp [byteLength, ih, Nat.add_assoc]

theorem length_encodeUtf8 (text : List Char) : (encodeUtf8 text).length = byteLength text := by
  induction text with
  | nil => rfl
  | cons c text ih =>
    have h : encodeUtf8 (c :: text) = String.utf8EncodeChar c ++ encodeUtf8 text := rfl
    rw [h, List.length_append, ih, String.length_utf8EncodeChar, byteLength]

theorem length_le_byteLength (text : List Char) : text.length ≤ byteLength text := by
  induction text with
  | nil => simp
  | cons c text ih => have := c.utf8Size_pos; simp only [byteLength, List.length_cons]; omega

theorem length_le_of_decodeUtf8? {bytes : List UInt8} {text : List Char}
    (h : decodeUtf8? bytes = some text) : text.length ≤ bytes.length := by
  rw [← encodeUtf8_of_decodeUtf8? h, length_encodeUtf8]
  exact length_le_byteLength text

theorem byteLength_pos {text : List Char} (h : text ≠ []) : 0 < byteLength text := by
  cases text with
  | nil => exact absurd rfl h
  | cons c text => have := c.utf8Size_pos; simp only [byteLength]; omega

/-- Dropping the bytes of the front part leaves the back part. -/
theorem dropBytes?_append (s t : List Char) : dropBytes? (byteLength s) (s ++ t) = some t := by
  induction s with
  | nil => cases t <;> simp [dropBytes?, byteLength]
  | cons c s ih =>
    have := c.utf8Size_pos
    simp only [byteLength, List.cons_append, dropBytes?]
    rw [if_neg (by omega), if_pos (by omega)]
    simpa using ih

/-- What is left after dropping bytes is the back part of the text. -/
theorem eq_append_of_dropBytes? {count : Nat} {text rest : List Char}
    (h : dropBytes? count text = some rest) :
    ∃ front, text = front ++ rest ∧ byteLength front = count := by
  induction text generalizing count with
  | nil =>
    simp only [dropBytes?] at h
    split at h
    · next hc => cases h; exact ⟨[], rfl, hc.symm⟩
    · cases h
  | cons c text ih =>
    simp only [dropBytes?] at h
    split at h
    · next hc => cases h; exact ⟨[], rfl, hc.symm⟩
    · split at h
      · obtain ⟨front, rfl, hf⟩ := ih h
        refine ⟨c :: front, rfl, ?_⟩
        simp only [byteLength]; omega
      · cases h

theorem length_lt_of_dropBytes? {count : Nat} {text rest : List Char}
    (h : dropBytes? count text = some rest) (hc : 0 < count) : rest.length < text.length := by
  obtain ⟨front, rfl, hf⟩ := eq_append_of_dropBytes? h
  cases front with
  | nil => simp [byteLength] at hf; omega
  | cons c front => simp only [List.cons_append, List.length_cons, List.length_append]; omega

end Linewise
