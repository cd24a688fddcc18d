import Linewise.Text.RangeTable

/-!
# Blanks — the white space that separates tokens

A character is blank when Unicode gives it the property White_Space.  `trimBlanks` drops the
blanks in front of a text; what it leaves is empty or begins with a character that is not blank.
-/

namespace Linewise

/-- The code points with the property White_Space. -/
def blankRanges : RangeTable :=
  ⟨[(0x9, 0xD), (0x20, 0x20), (0x85, 0x85), (0xA0, 0xA0), (0x1680, 0x1680), (0x2000, 0x200A),
    (0x2028, 0x2029), (0x202F, 0x202F), (0x205F, 0x205F), (0x3000, 0x3000)], by decide⟩

def isBlank (c : Char) : Bool := blankRanges.contains c

def trimBlanks (text : List Char) : List Char := text.dropWhile isBlank

theorem length_trimBlanks_le (text : List Char) : (trimBlanks text).length ≤ text.length :=
  (List.dropWhile_suffix isBlank).length_le

theorem trimBlanks_suffix (text : List Char) : trimBlanks text <:+ text :=
  List.dropWhile_suffix isBlank

theorem not_isBlank_of_trimBlanks_eq_cons {text rest : List Char} {c : Char}
    (h : trimBlanks text = c :: rest) : isBlank c = false := by
  induction text with
  | nil => simp [trimBlanks] at h
  | cons d text ih =>
    simp only [trimBlanks, List.dropWhile_cons] at h
    split at h
    · exact ih h
    · next hd => cases h; simpa using hd

end Linewise
