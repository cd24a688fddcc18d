import Linewise.Proofs.Lexer.Advance

/-!
# Line shifts — the same text further down

A line of a text that stands some lines further down is scanned alike: the same matches are made at
the same columns, and only line numbers differ.
-/

namespace Linewise

variable {κ : Type}

/-! ## 1. Moving positions down -/

/-- The position so many lines further down, as far as line numbers go. -/
def Position.below (lines : Nat) (p : Position) : Position := ⟨countOn p.line lines, p.column⟩

/-- Below the limit the line number grows by exactly so many lines. -/
theorem Position.line_below {lines : Nat} {p : Position} (h : p.line + lines ≤ countLimit) :
    (p.below lines).line = p.line + lines :=
  countOn_eq_add h

theorem Position.below_below (lines more : Nat) (p : Position) :
    (p.below lines).below more = p.below (lines + more) := by
  rw [below, below, below, countOn_countOn]

def Token.below (lines : Nat) (t : Token κ) : Token κ := { t with position := t.position.below lines }

/-- The cause of an error so many lines further down; a token that was found moves with it. -/
def LexCause.below (lines : Nat) : LexCause κ → LexCause κ
  | .unexpected expected text found => .unexpected expected text (found.map (Token.below lines))
  | cause => cause

def LexError.below (lines : Nat) (error : LexError κ) : LexError κ :=
  ⟨error.position.below lines, error.cause.below lines⟩

/-- A token or an error so many lines further down. -/
def StreamItem.below (lines : Nat) : StreamItem κ → StreamItem κ
  | .ok t => .ok (t.below lines)
  | .error error => .error (error.below lines)

/-! ## 2. Scanning further down -/

def Found.below (lines : Nat) : Found κ → Found κ
  | .token t => .token (t.below lines)
  | found => found

/-- The scan of a line so many lines further down. -/
structure Scan.IsBelow (lines : Nat) (scan other : Scan κ) : Prop where
  found : other.found = scan.found.below lines
  rest : other.rest = scan.rest
  position : other.position = scan.position.below lines

theorem Scan.isBelow_line (lines : Nat) (rules : List (Rule κ)) (position : Position)
    (rest : List Char) :
    (line rules position rest).IsBelow lines (line rules (position.below lines) rest) := by
  -- both scans pass the same ignored matches
  induction position, rest using line_induction rules with
  | lineEnd scan =>
    rw [scan, line_nil]
    exact ⟨rfl, rfl, rfl⟩
  | unmatched nonempty none scan =>
    rw [scan, line_of_unmatched _ nonempty none]
    exact ⟨rfl, rfl, rfl⟩
  | splitCharacter nonempty first behind scan =>
    rw [scan, line_of_splitCharacter _ nonempty first behind]
    exact ⟨rfl, rfl, rfl⟩
  | ignored first behind ignored scan ih =>
    rw [scan, line_of_ignored _ first behind ignored]
    exact ⟨ih.found, ih.rest, ih.position⟩
  | token first behind kept scan =>
    rw [scan, line_of_token _ first behind kept]
    exact ⟨rfl, rfl, rfl⟩

/-- Scanning stays on its line. -/
theorem Scan.line_position_line (rules : List (Rule κ)) (position : Position) (rest : List Char) :
    (line rules position rest).position.line = position.line := by
  induction position, rest using line_induction rules with
  | ignored _ _ _ scan ih =>
    rw [scan]
    exact ih
  | lineEnd scan => rw [scan]
  | unmatched _ _ scan => rw [scan]
  | splitCharacter _ _ _ scan => rw [scan]
  | token _ _ _ scan => rw [scan]; rfl

end Linewise
