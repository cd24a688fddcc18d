import Linewise.Number.Shortest
import Mathlib.Data.List.Basic

/-!
# Alphabet — what the texts of numbers are made of

The text of a double consists of digits, a point, a sign, or the letters of `NaN` and `inf`, and is
never empty.
-/

namespace Linewise

/-- The characters that the texts of numbers are made of. -/
def numberAlphabet : List Char := "0123456789.-NaNinf".toList

namespace Decimal

theorem trimZeros_subset (digits : List Char) : trimZeros digits ⊆ digits := by
  intro c hc
  exact List.mem_reverse.mp
    ((List.dropWhile_sublist (· == '0')).subset (List.mem_reverse.mp hc))

theorem text_subset (d : Decimal) : d.text.toList ⊆ '0' :: '.' :: d.digits := by
  intro c hc
  have htrim := @trimZeros_subset d.digits c
  rw [text, String.toList_ofList] at hc
  rw [List.mem_cons, List.mem_cons]
  split at hc
  · simp only [List.mem_cons, List.mem_append, List.mem_replicate] at hc
    rcases hc with hzero | hpoint | ⟨-, hzero⟩ | hdigit
    exacts [.inl hzero, .inr (.inl hpoint), .inl hzero, .inr (.inr (htrim hdigit))]
  · split at hc
    · simp only [List.mem_append, List.mem_replicate] at hc
      rcases hc with hdigit | ⟨-, hzero⟩
      exacts [.inr (.inr (htrim hdigit)), .inl hzero]
    · simp only [List.mem_cons, List.mem_append] at hc
      rcases hc with hdigit | hpoint | hdigit
      exacts [.inr (.inr (htrim (List.mem_of_mem_take hdigit))), .inr (.inl hpoint),
        .inr (.inr (htrim (List.mem_of_mem_drop hdigit)))]

theorem text_ne_nil (d : Decimal) : d.text.toList ≠ [] := by
  rw [text, String.toList_ofList]
  split
  · exact nofun
  · split
    · intro hnil
      have hlength := congrArg List.length hnil
      simp only [List.length_append, List.length_replicate, List.length_nil] at hlength
      omega
    · simp

end Decimal

theorem mem_numberAlphabet_of_isDigit {c : Char} (hc : c.isDigit = true) : c ∈ numberAlphabet := by
  have hdigits : ∀ n < 58, 48 ≤ n → Char.ofNat n ∈ numberAlphabet := by decide
  obtain ⟨hlow, hhigh⟩ : 48 ≤ c.toNat ∧ c.toNat ≤ 57 := by
    simpa [Char.isDigit, UInt32.le_iff_toNat_le] using hc
  rw [← Char.ofNat_toNat c]
  exact hdigits _ (by omega) hlow

theorem numberText_subset (x : Float) : (numberText x).toList ⊆ numberAlphabet := by
  have hsigned (negative : Bool) {text : String} (htext : text.toList ⊆ numberAlphabet) :
      ((if negative then "-" else "") ++ text).toList ⊆ numberAlphabet := by
    rw [String.toList_append]
    refine List.append_subset.mpr ⟨?_, htext⟩
    cases negative <;> decide
  rw [numberText]
  split
  · decide
  · exact hsigned _ (by decide)
  · split
    · exact hsigned _ (by decide)
    · refine hsigned _ (List.Subset.trans (Decimal.text_subset _) ?_)
      rw [List.cons_subset, List.cons_subset]
      refine ⟨by decide, by decide, fun c hc => ?_⟩
      exact mem_numberAlphabet_of_isDigit (Nat.isDigit_of_mem_toDigits (by decide) (by decide) hc)

theorem numberText_ne_nil (x : Float) : (numberText x).toList ≠ [] := by
  rw [numberText]
  split
  · decide
  · simp
  · split
    · simp
    · rw [String.toList_append]
      exact List.append_ne_nil_of_right_ne_nil _ (Decimal.text_ne_nil _)

end Linewise
