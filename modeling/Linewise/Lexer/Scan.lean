import Linewise.Lexer.Event
import Linewise.Rule

/-!
# Scanning — the next token of a line

Scanning tries the rules on the unread text of a line, in order; the first one with a match wins.
It passes over the matches of ignored rules and stops at the first token, at the end of the line,
or at text that no rule matches.  The unread text loses the bytes of each match from its front,
and the blanks behind it.
-/

namespace Linewise

/-- The token that a match of a rule makes at a position. -/
def Rule.tokenAt {κ : Type} (rule : Rule κ) (m : RuleMatch) (position : Position) : Token κ :=
  ⟨rule.kind, String.ofList m.captured, position⟩

inductive Found (κ : Type) where
  | token (token : Token κ)
  | lineEnd
  | unmatched
  | splitCharacter
deriving DecidableEq, Repr

/-- The outcome of scanning: what was found, the text still unread, the position reached, and what
happened on the way. -/
structure Scan (κ : Type) where
  found : Found κ
  rest : List Char
  position : Position
  events : List (LexEvent κ)
deriving DecidableEq, Repr

namespace Scan

variable {κ : Type}

def preceded (event : LexEvent κ) (scan : Scan κ) : Scan κ :=
  { scan with events := event :: scan.events }

@[simp] theorem found_preceded (event : LexEvent κ) (scan : Scan κ) :
    (scan.preceded event).found = scan.found := rfl

@[simp] theorem rest_preceded (event : LexEvent κ) (scan : Scan κ) :
    (scan.preceded event).rest = scan.rest := rfl

@[simp] theorem position_preceded (event : LexEvent κ) (scan : Scan κ) :
    (scan.preceded event).position = scan.position := rfl

/-- The unread text behind a match, without the blanks in front of it; nothing if the match ends
inside a character. -/
def behind? (m : RuleMatch) (rest : List Char) : Option (List Char) :=
  (dropBytes? m.bytes rest).map trimBlanks

theorem length_lt_of_behind? {m : RuleMatch} {rest next : List Char}
    (h : behind? m rest = some next) : next.length < rest.length := by
  simp only [behind?, Option.map_eq_some_iff] at h
  obtain ⟨tail, ht, rfl⟩ := h
  exact Nat.lt_of_le_of_lt (length_trimBlanks_le tail) (length_lt_of_dropBytes? ht m.bytes_pos)

-- A match takes at least one byte.
theorem ne_nil_of_behind? {m : RuleMatch} {rest next : List Char}
    (h : behind? m rest = some next) : rest ≠ [] := by
  rintro rfl
  exact absurd (length_lt_of_behind? h) (Nat.not_lt_zero _)

/-- Scans the unread text of a line from a position on. -/
def line (rules : List (Rule κ)) (position : Position) (rest : List Char) : Scan κ :=
  if rest.isEmpty then ⟨.lineEnd, rest, position, []⟩
  else
    match Rule.firstMatch? rules rest with
    | none => ⟨.unmatched, rest, position, []⟩
    | some (rule, m) =>
      match h : behind? m rest with
      | none => ⟨.splitCharacter, rest, position, []⟩
      | some next =>
        have := length_lt_of_behind? h
        let reached := position.advance m.chars
        -- an ignored match moves the position, too
        if rule.ignored then
          (line rules reached next).preceded (.matchIgnored position)
        else
          let token := rule.tokenAt m position
          ⟨.token token, next, reached, [.tokenFound token]⟩
termination_by rest.length

/-! ## One match -/

section OneMatch

variable {rules : List (Rule κ)} (position : Position) {rest next : List Char} {rule : Rule κ}
  {m : RuleMatch}

theorem line_nil : line rules position [] = ⟨.lineEnd, [], position, []⟩ := by
  rw [line, if_pos (by rfl)]

theorem line_of_unmatched (hrest : rest ≠ []) (hnone : Rule.firstMatch? rules rest = none) :
    line rules position rest = ⟨.unmatched, rest, position, []⟩ := by
  rw [line, if_neg (by simpa using hrest)]
  split
  · rfl
  · next hsome => rw [hnone] at hsome; cases hsome

theorem line_of_match (hrest : rest ≠ [])
    (hfirst : Rule.firstMatch? rules rest = some (rule, m)) :
    line rules position rest =
      match behind? m rest with
      | none => ⟨.splitCharacter, rest, position, []⟩
      | some next =>
        if rule.ignored then
          (line rules (position.advance m.chars) next).preceded (.matchIgnored position)
        else
          ⟨.token (rule.tokenAt m position), next, position.advance m.chars,
            [.tokenFound (rule.tokenAt m position)]⟩ := by
  rw [line, if_neg (by simpa using hrest)]
  split
  · next hnone => rw [hfirst] at hnone; cases hnone
  · next rule' m' hsome =>
    rw [hfirst, Option.some.injEq, Prod.mk.injEq] at hsome
    obtain ⟨rfl, rfl⟩ := hsome
    split
    · next hbehind => simp only [hbehind]
    · next next' hbehind => simp only [hbehind]

theorem line_of_splitCharacter (hrest : rest ≠ [])
    (hfirst : Rule.firstMatch? rules rest = some (rule, m)) (hbehind : behind? m rest = none) :
    line rules position rest = ⟨.splitCharacter, rest, position, []⟩ := by
  rw [line_of_match position hrest hfirst, hbehind]

theorem line_of_ignored (hfirst : Rule.firstMatch? rules rest = some (rule, m))
    (hbehind : behind? m rest = some next) (hignored : rule.ignored = true) :
    line rules position rest =
      (line rules (position.advance m.chars) next).preceded (.matchIgnored position) := by
  rw [line_of_match position (ne_nil_of_behind? hbehind) hfirst, hbehind]
  simp only [hignored, if_true]

theorem line_of_token (hfirst : Rule.firstMatch? rules rest = some (rule, m))
    (hbehind : behind? m rest = some next) (hkept : rule.ignored = false) :
    line rules position rest =
      ⟨.token (rule.tokenAt m position), next, position.advance m.chars,
        [.tokenFound (rule.tokenAt m position)]⟩ := by
  rw [line_of_match position (ne_nil_of_behind? hbehind) hfirst, hbehind]
  simp only [hkept, Bool.false_eq_true, if_false]

end OneMatch

/-! ## Match after match -/

/-- Induction along the ignored matches of a line, up to the place where its scan stops. -/
@[elab_as_elim]
theorem line_induction (rules : List (Rule κ)) {motive : Position → List Char → Prop}
    (lineEnd : ∀ {position},
      (scan : line rules position [] = ⟨.lineEnd, [], position, []⟩) → motive position [])
    (unmatched : ∀ {position rest}, (nonempty : rest ≠ []) →
      (none : Rule.firstMatch? rules rest = none) →
      (scan : line rules position rest = ⟨.unmatched, rest, position, []⟩) →
      motive position rest)
    (splitCharacter : ∀ {position rest rule m}, (nonempty : rest ≠ []) →
      (first : Rule.firstMatch? rules rest = some (rule, m)) → (behind : behind? m rest = none) →
      (scan : line rules position rest = ⟨.splitCharacter, rest, position, []⟩) →
      motive position rest)
    (ignored : ∀ {position rest rule m next},
      (first : Rule.firstMatch? rules rest = some (rule, m)) →
      (behind : behind? m rest = some next) → (ignored : rule.ignored = true) →
      (scan : line rules position rest =
        (line rules (position.advance m.chars) next).preceded (.matchIgnored position)) →
      motive (position.advance m.chars) next → motive position rest)
    (token : ∀ {position rest rule m next},
      (first : Rule.firstMatch? rules rest = some (rule, m)) →
      (behind : behind? m rest = some next) → (kept : rule.ignored = false) →
      (scan : line rules position rest =
        ⟨.token (rule.tokenAt m position), next, position.advance m.chars,
          [.tokenFound (rule.tokenAt m position)]⟩) →
      motive position rest)
    (position : Position) (rest : List Char) : motive position rest := by
  by_cases hrest : rest = []
  · subst hrest
    exact lineEnd (line_nil position)
  rcases hfirst : Rule.firstMatch? rules rest with _ | ⟨rule, m⟩
  · exact unmatched hrest hfirst (line_of_unmatched position hrest hfirst)
  rcases hbehind : behind? m rest with _ | next
  · exact splitCharacter hrest hfirst hbehind
      (line_of_splitCharacter position hrest hfirst hbehind)
  have := length_lt_of_behind? hbehind
  by_cases hignored : rule.ignored = true
  · exact ignored hfirst hbehind hignored (line_of_ignored position hfirst hbehind hignored)
      (line_induction rules lineEnd unmatched splitCharacter ignored token _ next)
  · have hkept : rule.ignored = false := by simpa using hignored
    exact token hfirst hbehind hkept (line_of_token position hfirst hbehind hkept)
termination_by rest.length

/-! ## Progress -/

theorem length_line_le (rules : List (Rule κ)) (position : Position) (rest : List Char) :
    (line rules position rest).rest.length ≤ rest.length := by
  induction position, rest using line_induction rules with
  | lineEnd scan => simp [scan]
  | unmatched _ _ scan => simp [scan]
  | splitCharacter _ _ _ scan => simp [scan]
  | ignored _ behind _ scan ih =>
    have hless := length_lt_of_behind? behind
    simp only [scan, rest_preceded]; omega
  | token _ behind _ scan =>
    have hless := length_lt_of_behind? behind
    simp only [scan]; omega

theorem length_line_lt_of_token {rules : List (Rule κ)} {position : Position} {rest : List Char}
    {t : Token κ} (h : (line rules position rest).found = .token t) :
    (line rules position rest).rest.length < rest.length := by
  induction position, rest using line_induction rules with
  | lineEnd scan => simp [scan] at h
  | unmatched _ _ scan => simp [scan] at h
  | splitCharacter _ _ _ scan => simp [scan] at h
  | ignored _ behind _ scan ih =>
    have hless := length_lt_of_behind? behind
    rw [scan] at h ⊢
    exact Nat.lt_trans (ih h) hless
  | token _ behind _ scan =>
    rw [scan]
    exact length_lt_of_behind? behind

theorem rest_line_of_lineEnd {rules : List (Rule κ)} {position : Position} {rest : List Char}
    (h : (line rules position rest).found = .lineEnd) :
    (line rules position rest).rest = [] := by
  induction position, rest using line_induction rules with
  | lineEnd scan => rw [scan]
  | unmatched _ _ scan => simp [scan] at h
  | splitCharacter _ _ _ scan => simp [scan] at h
  | ignored _ _ _ scan ih =>
    rw [scan] at h ⊢
    exact ih h
  | token _ _ _ scan => simp [scan] at h

theorem rest_line_ne_nil_of_unmatched {rules : List (Rule κ)} {position : Position}
    {rest : List Char} (h : (line rules position rest).found = .unmatched) :
    (line rules position rest).rest ≠ [] := by
  induction position, rest using line_induction rules with
  | lineEnd scan => simp [scan] at h
  | unmatched nonempty _ scan => simpa [scan] using nonempty
  | splitCharacter _ _ _ scan => simp [scan] at h
  | ignored _ _ _ scan ih =>
    rw [scan] at h ⊢
    exact ih h
  | token _ _ _ scan => simp [scan] at h

end Scan

end Linewise
