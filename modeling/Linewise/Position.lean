import Linewise.Text.Record

/-!
# Position — where a token stands in its source

A position is a line number and a column.  Lines are counted from one; line zero means that no
line has been read yet.  The column counts the characters of the matches already made on the
line, so blanks between matches do not move it.  Both counts, and the column as shown, stop at the
largest 32-bit number.
-/

namespace Linewise

/-- A line number and the number of matched characters before the position on that line.  Both fit
(`Position.Fits`) wherever a lexer gets to. -/
structure Position where
  line : Nat
  column : Nat
deriving DecidableEq, Repr, Inhabited

namespace Position

/-! ## Counting -/

/-- The largest number that a line number or a column reaches. -/
def countLimit : Nat := 4294967295

/-- Counts on from a number, by as many steps as there is room for below the limit. -/
def countOn (count steps : Nat) : Nat := count + min steps (countLimit - count)

/-- Counting is exact as long as the limit is not passed. -/
theorem countOn_eq_add {count steps : Nat} (h : count + steps ≤ countLimit) :
    countOn count steps = count + steps := by
  simp only [countOn]; omega

theorem countOn_of_limit_le {count : Nat} (h : countLimit ≤ count) (steps : Nat) :
    countOn count steps = count := by
  simp only [countOn]; omega

@[simp] theorem countOn_zero (count : Nat) : countOn count 0 = count := by
  simp [countOn]

theorem countOn_countOn (count steps more : Nat) :
    countOn (countOn count steps) more = countOn count (steps + more) := by
  simp only [countOn]; omega

theorem countOn_min (count steps : Nat) :
    countOn (min count countLimit) steps = min (count + steps) countLimit := by
  simp only [countOn]; omega

theorem countOn_right_comm (count steps more : Nat) :
    countOn (countOn count steps) more = countOn (countOn count more) steps := by
  rw [countOn_countOn, countOn_countOn, Nat.add_comm]

theorem le_countOn (count steps : Nat) : count ≤ countOn count steps :=
  Nat.le_add_right _ _

theorem lt_countOn {count steps : Nat} (h : count < countLimit) (hsteps : 0 < steps) :
    count < countOn count steps := by
  simp only [countOn]; omega

theorem countOn_pos (count : Nat) {steps : Nat} (hsteps : 0 < steps) : 0 < countOn count steps := by
  simp only [countOn, countLimit]; omega

theorem countOn_le {count : Nat} (h : count ≤ countLimit) (steps : Nat) :
    countOn count steps ≤ countLimit := by
  simp only [countOn]; omega

/-! ## Moving on -/

def start : Position := ⟨0, 0⟩

def nextLine (p : Position) : Position := ⟨countOn p.line 1, 0⟩

/-- The position behind a match of `chars` characters. -/
def advance (p : Position) (chars : Nat) : Position := ⟨p.line, countOn p.column chars⟩

@[simp] theorem line_nextLine (p : Position) : p.nextLine.line = countOn p.line 1 := rfl

@[simp] theorem column_nextLine (p : Position) : p.nextLine.column = 0 := rfl

@[simp] theorem line_advance (p : Position) (n : Nat) : (p.advance n).line = p.line := rfl

@[simp] theorem column_advance (p : Position) (n : Nat) :
    (p.advance n).column = countOn p.column n := rfl

/-- The position is on the line with this number; beyond the limit, on the line with the largest one. -/
def IsOnLine (p : Position) (number : Nat) : Prop := p.line = min number countLimit

theorem IsOnLine.nextLine {p : Position} {number : Nat} (h : p.IsOnLine number) :
    p.nextLine.IsOnLine (number + 1) := by
  rw [IsOnLine, line_nextLine, h, countOn_min]

/-- Neither number exceeds the largest one. -/
structure Fits (p : Position) : Prop where
  line : p.line ≤ countLimit
  column : p.column ≤ countLimit

theorem fits_start : start.Fits := ⟨Nat.zero_le _, Nat.zero_le _⟩

theorem Fits.nextLine {p : Position} (h : p.Fits) : p.nextLine.Fits :=
  ⟨countOn_le h.line 1, Nat.zero_le _⟩

theorem Fits.advance {p : Position} (h : p.Fits) (chars : Nat) : (p.advance chars).Fits :=
  ⟨h.line, countOn_le h.column chars⟩

/-! ## Order -/

/-- Positions are ordered by line, then by column. -/
instance : LT Position where
  lt p q := p.line < q.line ∨ p.line = q.line ∧ p.column < q.column

theorem lt_def (p q : Position) :
    p < q ↔ p.line < q.line ∨ p.line = q.line ∧ p.column < q.column := Iff.rfl

def cmp (p q : Position) : Ordering :=
  if p.line < q.line then .lt
  else if q.line < p.line then .gt
  else if p.column < q.column then .lt
  else if q.column < p.column then .gt
  else .eq

theorem cmp_eq_lt_iff (p q : Position) : p.cmp q = .lt ↔ p < q := by
  simp only [cmp, lt_def]
  split
  · simp_all
  · split
    · simp; omega
    · split
      · simp; omega
      · split <;> simp <;> omega

theorem cmp_eq_eq_iff (p q : Position) : p.cmp q = .eq ↔ p = q := by
  obtain ⟨l, c⟩ := p
  obtain ⟨l', c'⟩ := q
  simp only [cmp, mk.injEq]
  split
  · simp; omega
  · split
    · simp; omega
    · split
      · simp; omega
      · split <;> simp <;> omega

/-- Line and column are below the largest number, so that counting on from them is noticed. -/
structure BelowLimits (p : Position) : Prop where
  line : p.line < countLimit
  column : p.column < countLimit

theorem belowLimits_iff {p : Position} :
    p.BelowLimits ↔ p.line < countLimit ∧ p.column < countLimit :=
  ⟨fun h => ⟨h.line, h.column⟩, fun h => ⟨h.1, h.2⟩⟩

instance (p : Position) : Decidable p.BelowLimits := decidable_of_iff _ belowLimits_iff.symm

theorem lt_advance {p : Position} (hp : p.BelowLimits) {chars : Nat} (hchars : 0 < chars) :
    p < p.advance chars :=
  .inr ⟨rfl, lt_countOn hp.column hchars⟩

theorem lt_advance_of_lt {p q : Position} (h : p < q) (chars : Nat) : p < q.advance chars :=
  h.imp_right fun ⟨hline, hcolumn⟩ => ⟨hline, Nat.lt_of_lt_of_le hcolumn (le_countOn _ _)⟩

theorem lt_nextLine_of_lt {p q : Position} (hp : p.BelowLimits) (h : p < q) : p < q.nextLine := by
  rcases h with hline | ⟨hline, -⟩
  · exact .inl (Nat.lt_of_lt_of_le hline (le_countOn _ _))
  · refine .inl ?_
    rw [hline]
    exact lt_countOn (hline ▸ hp.line) Nat.one_pos

/-! ## Text -/

/-- The column as shown to a reader, counted from one. -/
def shownColumn (p : Position) : Nat := countOn p.column 1

def describe (p : Position) : String :=
  s!"line {p.line}, column {p.shownColumn}"

def inspect (p : Position) : String :=
  recordText "SourcePosition" [("line", toString p.line), ("column", toString p.column)] false

end Position

end Linewise
