/-!
# Range tables — a set of characters as ascending ranges of code points

The character properties of this library are ranges `(lo, hi)` of code points, both ends included,
that stand in order and do not meet.  A table carries the proof of it.  The set operations keep it,
and the complement, which looks between neighbouring ranges only, rests on it.
-/

namespace Linewise

/-- The ranges begin at `next` or later, stand in order, and do not meet. -/
def AscendFrom (next : Nat) : List (Nat × Nat) → Prop
  | [] => True
  | (lo, hi) :: rest => next ≤ lo ∧ lo ≤ hi ∧ AscendFrom (hi + 2) rest

instance decidableAscendFrom (next : Nat) :
    (ranges : List (Nat × Nat)) → Decidable (AscendFrom next ranges)
  | [] => .isTrue trivial
  | (lo, hi) :: rest =>
    have := decidableAscendFrom (hi + 2) rest
    inferInstanceAs (Decidable (next ≤ lo ∧ lo ≤ hi ∧ AscendFrom (hi + 2) rest))

theorem AscendFrom.of_le {next before : Nat} {ranges : List (Nat × Nat)}
    (h : AscendFrom next ranges) (hbefore : before ≤ next) : AscendFrom before ranges := by
  cases ranges with
  | nil => trivial
  | cons r rest => exact ⟨Nat.le_trans hbefore h.1, h.2⟩

/-- Ranges of code points, both ends included, in order. -/
structure RangeTable where
  ranges : List (Nat × Nat)
  ascending : AscendFrom 0 ranges
deriving DecidableEq, Repr

namespace RangeTable

/-! ## Ranges -/

/-- Whether a code point lies in one of the ranges. -/
def covers (ranges : List (Nat × Nat)) (code : Nat) : Bool :=
  ranges.any fun (lo, hi) => lo ≤ code && code ≤ hi

theorem covers_iff (ranges : List (Nat × Nat)) (code : Nat) :
    covers ranges code = true ↔ ∃ r ∈ ranges, r.1 ≤ code ∧ code ≤ r.2 := by
  simp [covers, List.any_eq_true]

theorem covers_cons (lo hi : Nat) (rest : List (Nat × Nat)) (code : Nat) :
    covers ((lo, hi) :: rest) code = (decide (lo ≤ code ∧ code ≤ hi) || covers rest code) := by
  simp [covers]

theorem covers_eq_false_of_lt {next code : Nat} {ranges : List (Nat × Nat)}
    (h : AscendFrom next ranges) (hcode : code < next) : covers ranges code = false := by
  induction ranges generalizing next with
  | nil => rfl
  | cons r rest ih =>
    obtain ⟨lo, hi⟩ := r
    obtain ⟨hlo, hhi, hrest⟩ := h
    rw [covers_cons, ih hrest (by omega)]
    simp only [Bool.or_false, decide_eq_false_iff_not]
    omega

/-- The ranges with the one from `lo` to `hi` added; ranges that meet become one. -/
def insert (lo hi : Nat) : List (Nat × Nat) → List (Nat × Nat)
  | [] => [(lo, hi)]
  | (a, b) :: rest =>
    if hi + 1 < a then (lo, hi) :: (a, b) :: rest
    else if b + 1 < lo then (a, b) :: insert lo hi rest
    else insert (min lo a) (max hi b) rest

theorem ascendFrom_insert {next lo hi : Nat} {ranges : List (Nat × Nat)}
    (h : AscendFrom next ranges) (hnext : next ≤ lo) (hlo : lo ≤ hi) :
    AscendFrom next (insert lo hi ranges) := by
  induction ranges generalizing next lo hi with
  | nil => exact ⟨hnext, hlo, trivial⟩
  | cons r rest ih =>
    obtain ⟨a, b⟩ := r
    obtain ⟨ha, hab, hrest⟩ := h
    simp only [insert]
    split
    · next hfront => exact ⟨hnext, hlo, by omega, hab, hrest⟩
    · split
      · next hbehind => exact ⟨ha, hab, ih hrest (by omega) hlo⟩
      · exact ih (hrest.of_le (by omega)) (by omega) (by omega)

/-- Adding a range adds its code points and no others. -/
theorem covers_insert {next lo hi : Nat} {ranges : List (Nat × Nat)}
    (h : AscendFrom next ranges) (hlo : lo ≤ hi) (code : Nat) :
    covers (insert lo hi ranges) code =
      (decide (lo ≤ code ∧ code ≤ hi) || covers ranges code) := by
  induction ranges generalizing next lo hi with
  | nil => rw [insert, covers_cons]
  | cons r rest ih =>
    obtain ⟨a, b⟩ := r
    obtain ⟨-, hab, hrest⟩ := h
    simp only [insert]
    split
    · rw [covers_cons]
    · split
      · rw [covers_cons, ih hrest hlo, covers_cons, Bool.or_left_comm]
      · rw [ih hrest (by omega), covers_cons, ← Bool.or_assoc]
        congr 1
        rw [Bool.eq_iff_iff]
        simp only [Bool.or_eq_true, decide_eq_true_eq]
        omega

/-- The ranges of both lists, those of the first one inserted into the second. -/
def merge (ranges others : List (Nat × Nat)) : List (Nat × Nat) :=
  ranges.foldr (fun r merged => insert r.1 r.2 merged) others

theorem ascendFrom_merge {next : Nat} {ranges others : List (Nat × Nat)}
    (h : AscendFrom next ranges) (hothers : AscendFrom 0 others) :
    AscendFrom 0 (merge ranges others) := by
  induction ranges generalizing next with
  | nil => exact hothers
  | cons r rest ih => exact ascendFrom_insert (ih h.2.2) (Nat.zero_le _) h.2.1

theorem covers_merge {next : Nat} {ranges others : List (Nat × Nat)} (h : AscendFrom next ranges)
    (hothers : AscendFrom 0 others) (code : Nat) :
    covers (merge ranges others) code = (covers ranges code || covers others code) := by
  induction ranges generalizing next with
  | nil => rfl
  | cons r rest ih =>
    have hmerge : merge (r :: rest) others = insert r.1 r.2 (merge rest others) := rfl
    rw [hmerge, covers_insert (ascendFrom_merge h.2.2 hothers) h.2.1, ih h.2.2, ← Bool.or_assoc,
      ← covers_cons]

def maxCode : Nat := 0x10FFFF

/-- What lies between the ranges, from `next` on. -/
def gaps (next : Nat) : List (Nat × Nat) → List (Nat × Nat)
  | [] => if next ≤ maxCode then [(next, maxCode)] else []
  | (a, b) :: rest => if next < a then (next, a - 1) :: gaps (b + 1) rest else gaps (b + 1) rest

theorem ascendFrom_gaps {next : Nat} {ranges : List (Nat × Nat)} (h : AscendFrom next ranges) :
    AscendFrom next (gaps next ranges) := by
  induction ranges generalizing next with
  | nil =>
    simp only [gaps]
    split
    · next hnext => exact ⟨Nat.le_refl _, hnext, trivial⟩
    · trivial
  | cons r rest ih =>
    obtain ⟨a, b⟩ := r
    obtain ⟨ha, hab, hrest⟩ := h
    have hlater := ih (hrest.of_le (by omega) : AscendFrom (b + 1) rest)
    simp only [gaps]
    split
    · exact ⟨Nat.le_refl _, by omega, hlater.of_le (by omega)⟩
    · exact hlater.of_le (by omega)

/-- A code point lies in a gap exactly if it lies in no range. -/
theorem covers_gaps {next : Nat} {ranges : List (Nat × Nat)} (h : AscendFrom next ranges)
    {code : Nat} (hcode : code ≤ maxCode) :
    covers (gaps next ranges) code = (decide (next ≤ code) && !covers ranges code) := by
  induction ranges generalizing next with
  | nil =>
    simp only [gaps]
    split
    · simp [covers, hcode]
    · simp only [covers, List.any_nil, Bool.not_false, Bool.and_true]
      rw [eq_comm, decide_eq_false_iff_not]
      omega
  | cons r rest ih =>
    obtain ⟨a, b⟩ := r
    obtain ⟨ha, hab, hrest⟩ := h
    have hlater := ih (hrest.of_le (by omega) : AscendFrom (b + 1) rest)
    have hgap : covers (gaps next ((a, b) :: rest)) code =
        (decide (next ≤ code ∧ code < a) || covers (gaps (b + 1) rest) code) := by
      simp only [gaps]
      split
      · rw [covers_cons]
        congr 2
        rw [eq_iff_iff]
        omega
      · rw [decide_eq_false (by omega), Bool.false_or]
    rw [hgap, hlater, covers_cons]
    -- in front of the first range there is nothing of the others
    by_cases hfront : code < a
    · rw [covers_eq_false_of_lt hrest (by omega), decide_eq_false (by omega : ¬ b + 1 ≤ code),
        decide_eq_false (by omega : ¬ (a ≤ code ∧ code ≤ b))]
      simp [hfront]
    · rw [Bool.eq_iff_iff]
      simp only [Bool.or_eq_true, Bool.and_eq_true, Bool.not_eq_true', Bool.or_eq_false_iff,
        decide_eq_true_eq, decide_eq_false_iff_not]
      constructor
      · rintro (⟨-, hless⟩ | ⟨hbehind, hnone⟩)
        · exact absurd hless hfront
        · exact ⟨by omega, by omega, hnone⟩
      · rintro ⟨-, hout, hnone⟩
        exact .inr ⟨by omega, hnone⟩

/-! ## Tables -/

def containsCode (table : RangeTable) (code : Nat) : Bool := covers table.ranges code

def contains (table : RangeTable) (c : Char) : Bool := table.containsCode c.toNat

def empty : RangeTable := ⟨[], trivial⟩

def ofRange (lo hi : Nat) (h : lo ≤ hi) : RangeTable := ⟨[(lo, hi)], Nat.zero_le _, h, trivial⟩

def union (s t : RangeTable) : RangeTable :=
  ⟨merge s.ranges t.ranges, ascendFrom_merge s.ascending t.ascending⟩

/-- The code points outside a table. -/
def compl (table : RangeTable) : RangeTable :=
  ⟨gaps 0 table.ranges, ascendFrom_gaps table.ascending⟩

def diff (s t : RangeTable) : RangeTable := compl (union (compl s) t)

/-- The code points in both of two tables. -/
def inter (s t : RangeTable) : RangeTable := diff s (compl t)

def symmDiff (s t : RangeTable) : RangeTable := union (diff s t) (diff t s)

def addCode (code : Nat) (table : RangeTable) : RangeTable :=
  ⟨insert code code table.ranges,
    ascendFrom_insert table.ascending (Nat.zero_le _) (Nat.le_refl _)⟩

def addCodes (codes : List Nat) (table : RangeTable) : RangeTable := codes.foldr addCode table

/-- A table with both ends of each pair added of which it has one.  The second ends are added
first. -/
def closeUnder (pairs : List (Nat × Nat)) (table : RangeTable) : RangeTable :=
  let table := table.addCodes ((pairs.filter fun p => table.containsCode p.1).map Prod.snd)
  table.addCodes ((pairs.filter fun p => table.containsCode p.2).map Prod.fst)

theorem containsCode_ofRange {lo hi : Nat} (h : lo ≤ hi) (code : Nat) :
    (ofRange lo hi h).containsCode code = (decide (lo ≤ code) && decide (code ≤ hi)) :=
  Bool.or_false _

theorem containsCode_union (s t : RangeTable) (code : Nat) :
    (union s t).containsCode code = (s.containsCode code || t.containsCode code) :=
  covers_merge s.ascending t.ascending code

theorem containsCode_compl (table : RangeTable) {code : Nat} (hcode : code ≤ maxCode) :
    table.compl.containsCode code = !table.containsCode code := by
  rw [containsCode, compl, covers_gaps table.ascending hcode, decide_eq_true (Nat.zero_le code),
    Bool.true_and, containsCode]

theorem containsCode_diff (s t : RangeTable) {code : Nat} (hcode : code ≤ maxCode) :
    (diff s t).containsCode code = (s.containsCode code && !t.containsCode code) := by
  rw [diff, containsCode_compl _ hcode, containsCode_union, containsCode_compl _ hcode,
    Bool.not_or, Bool.not_not]

theorem containsCode_inter (s t : RangeTable) {code : Nat} (hcode : code ≤ maxCode) :
    (inter s t).containsCode code = (s.containsCode code && t.containsCode code) := by
  rw [inter, containsCode_diff _ _ hcode, containsCode_compl _ hcode, Bool.not_not]

theorem containsCode_symmDiff (s t : RangeTable) {code : Nat} (hcode : code ≤ maxCode) :
    (symmDiff s t).containsCode code = (s.containsCode code != t.containsCode code) := by
  rw [symmDiff, containsCode_union, containsCode_diff _ _ hcode, containsCode_diff _ _ hcode]
  cases s.containsCode code <;> cases t.containsCode code <;> rfl

/-- Tables without a range of one meeting a range of the other have no member in common. -/
theorem containsCode_eq_false_of_apart {s t : RangeTable}
    (hapart : ∀ r ∈ s.ranges, ∀ q ∈ t.ranges, r.2 < q.1 ∨ q.2 < r.1) {code : Nat}
    (hs : s.containsCode code = true) : t.containsCode code = false := by
  obtain ⟨r, hr, hlo, hhi⟩ := (covers_iff s.ranges code).mp hs
  rw [Bool.eq_false_iff, ne_eq, containsCode, covers_iff]
  rintro ⟨q, hq, hlow, hhigh⟩
  have := hapart r hr q hq
  omega

end RangeTable

end Linewise
