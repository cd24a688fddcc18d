import Linewise.Proofs.Lexer.WellFormed
import Mathlib.Algebra.GroupWithZero.Nat
import Mathlib.Data.List.TakeWhile

/-!
# Line covers — every character of a line belongs to one match

As long as nothing of a line has been skipped, the line is cut into blanks, matches and the unread
rest.  Each match is that of the first rule which matches there, and the tokens of the line are
those of the matches that are not ignored.
-/

namespace Linewise

variable {κ : Type}

/-! ## 1. Covers -/

/-- The rule is the first one with a match at the beginning of the text. -/
def Rule.IsFirst (rules : List (Rule κ)) (text : List Char) (rule : Rule κ) (m : RuleMatch) : Prop :=
  ∃ before after, rules = before ++ rule :: after ∧
    (∀ earlier ∈ before, earlier.matchStart? text = none) ∧
    rule.matchStart? text = some m ∧ m.start = 0

/-- A match on a line, the rule it belongs to, and the blanks behind it. -/
structure Piece (κ : Type) where
  rule : Rule κ
  found : RuleMatch
  gap : List Char

namespace Piece

def text (piece : Piece κ) : List Char := piece.found.lexeme ++ piece.gap

/-- The number of characters that the matches of some pieces cover. -/
def width (pieces : List (Piece κ)) : Nat := (pieces.map (·.found.chars)).sum

/-- The tokens of some pieces on a line, in front of which so many characters have been matched. -/
def tokens (line before : Nat) : List (Piece κ) → List (Token κ)
  | [] => []
  | piece :: pieces =>
    let later := tokens line (before + piece.found.chars) pieces
    if piece.rule.ignored then later
    else piece.rule.tokenAt piece.found ⟨line, min before Position.countLimit⟩ :: later

/-- The pieces cover a text up to its rest: each is the match of the first rule that matches there,
with all blanks behind it. -/
inductive Cover (rules : List (Rule κ)) : List (Piece κ) → List Char → List Char → Prop where
  | nil {rest : List Char} (trimmed : IsTrimmed rest) : Cover rules [] rest rest
  | cons {piece : Piece κ} {pieces : List (Piece κ)} {behind rest : List Char}
      (first : Rule.IsFirst rules (piece.text ++ behind) piece.rule piece.found)
      (trimmed : IsTrimmed (piece.text ++ behind)) (blank : ∀ c ∈ piece.gap, isBlank c = true)
      (later : Cover rules pieces behind rest) :
      Cover rules (piece :: pieces) (piece.text ++ behind) rest

theorem width_append (pieces more : List (Piece κ)) :
    width (pieces ++ more) = width pieces + width more := by
  simp [width]

theorem tokens_append (line before : Nat) (pieces more : List (Piece κ)) :
    tokens line before (pieces ++ more) =
      tokens line before pieces ++ tokens line (before + width pieces) more := by
  induction pieces generalizing before with
  | nil => simp [tokens, width]
  | cons piece pieces ih =>
    have hwidth : width (piece :: pieces) = piece.found.chars + width pieces := by simp [width]
    rw [List.cons_append, tokens, tokens, ih, hwidth, Nat.add_assoc]
    by_cases hignored : piece.rule.ignored = true
    · simp only [hignored, if_true]
    · simp only [hignored]
      rfl

end Piece

namespace Piece.Cover

variable {rules : List (Rule κ)} {pieces : List (Piece κ)} {text rest : List Char}

theorem isTrimmed_rest (h : Cover rules pieces text rest) : IsTrimmed rest := by
  induction h with
  | nil trimmed => exact trimmed
  | cons _ _ _ _ ih => exact ih

theorem addRules (h : Cover rules pieces text rest) (more : List (Rule κ)) :
    Cover (rules ++ more) pieces text rest := by
  induction h with
  | nil trimmed => exact .nil trimmed
  | cons first trimmed blank later ih =>
    obtain ⟨before, after, hrules, hbefore, hmatch, hstart⟩ := first
    exact .cons ⟨before, after ++ more, by rw [hrules]; simp, hbefore, hmatch, hstart⟩ trimmed blank
      ih

theorem concat {piece : Piece κ} {next : List Char}
    (h : Cover rules pieces text (piece.text ++ next))
    (hfirst : Rule.IsFirst rules (piece.text ++ next) piece.rule piece.found)
    (hblank : ∀ c ∈ piece.gap, isBlank c = true) (hnext : IsTrimmed next) :
    Cover rules (pieces ++ [piece]) text next := by
  generalize hrest : piece.text ++ next = rest at h
  -- only the end of the cover changes; the pieces in front of it stay as they are
  induction h with
  | nil trimmed =>
    subst hrest
    exact .cons hfirst trimmed hblank (.nil hnext)
  | cons first trimmed blank later ih => exact .cons first trimmed blank (ih hrest)

end Piece.Cover

/-! ## 2. Covered lines -/

/-- The line of the lexer is a lead of blanks, the given pieces, and the unread rest.  The tokens
found on this line are those of the pieces, and the column counts the characters of their matches,
as far as numbers go. -/
structure Lexer.CoveredBy (lexer : Lexer κ) (found : List (Token κ)) (lead : List Char)
    (pieces : List (Piece κ)) : Prop where
  line_eq : lexer.line = lead ++ (pieces.flatMap Piece.text ++ lexer.rest)
  blank : ∀ c ∈ lead, isBlank c = true
  cover : Piece.Cover lexer.rules pieces (pieces.flatMap Piece.text ++ lexer.rest) lexer.rest
  column_eq : lexer.position.column = min (Piece.width pieces) Position.countLimit
  tokens_eq : found = Piece.tokens lexer.position.line 0 pieces

theorem exists_eq_append_trimBlanks (text : List Char) :
    ∃ lead, text = lead ++ trimBlanks text ∧ ∀ c ∈ lead, isBlank c = true :=
  ⟨text.takeWhile isBlank, List.takeWhile_append_dropWhile.symm, fun _ h => List.mem_takeWhile_imp h⟩

namespace Lexer.CoveredBy

variable {lexer : Lexer κ} {found : List (Token κ)} {lead : List Char} {pieces : List (Piece κ)}

theorem of_line {text : List Char} (hline : lexer.line = text)
    (hrest : lexer.rest = trimBlanks text) (hcolumn : lexer.position.column = 0) :
    ∃ lead, lexer.CoveredBy [] lead [] := by
  obtain ⟨lead, htext, hblank⟩ := exists_eq_append_trimBlanks text
  refine ⟨lead, ?_, hblank, ?_, hcolumn, rfl⟩
  · rw [hline, hrest]
    exact htext
  · rw [hrest]
    exact .nil (isTrimmed_trimBlanks text)

/-- A match extends what is covered by a piece, and makes a token unless it is ignored. -/
theorem pass (h : lexer.CoveredBy found lead pieces) {rule : Rule κ} {m : RuleMatch}
    {next : List Char} (hanchored : rule.IsAnchored)
    (hfirst : Rule.firstMatch? lexer.rules lexer.rest = some (rule, m))
    (hbehind : Scan.behind? m lexer.rest = some next) :
    ∃ piece : Piece κ, (lexer.pass m next).CoveredBy
      (found ++ if rule.ignored then [] else [rule.tokenAt m lexer.position]) lead
      (pieces ++ [piece]) := by
  obtain ⟨before, after, hrules, hbefore, hmatch⟩ := Rule.firstMatch?_eq_some_iff.mp hfirst
  obtain ⟨back, hrest, hback⟩ := Rule.behind?_of_isAnchored hanchored hmatch
  obtain rfl := Option.some.inj (hbehind.symm.trans hback)
  obtain ⟨gap, hgap, hblank⟩ := exists_eq_append_trimBlanks back
  -- the new piece takes its match and its blanks from the front of the rest
  let piece : Piece κ := ⟨rule, m, gap⟩
  have hpiece : lexer.rest = piece.text ++ trimBlanks back := by
    rw [hrest, Piece.text, List.append_assoc]
    exact congrArg (m.lexeme ++ ·) hgap
  have htext : pieces.flatMap Piece.text ++ lexer.rest =
      (pieces ++ [piece]).flatMap Piece.text ++ trimBlanks back := by
    simp [hpiece]
  refine ⟨piece, ⟨?_, h.blank, ?_, ?_, ?_⟩⟩
  · show lexer.line = lead ++ ((pieces ++ [piece]).flatMap Piece.text ++ trimBlanks back)
    rw [← htext]
    exact h.line_eq
  · show Piece.Cover lexer.rules _ ((pieces ++ [piece]).flatMap Piece.text ++ trimBlanks back)
      (trimBlanks back)
    rw [← htext]
    refine Piece.Cover.concat ?_ ?_ hblank (isTrimmed_trimBlanks back)
    · rw [← hpiece]
      exact h.cover
    · rw [← hpiece]
      exact ⟨before, after, hrules, hbefore, hmatch, hanchored _ _ hmatch⟩
  · show Position.countOn lexer.position.column m.chars = _
    rw [h.column_eq, Position.countOn_min, Piece.width_append]
    simp [Piece.width, piece]
  · show found ++ _ = Piece.tokens lexer.position.line 0 (pieces ++ [piece])
    rw [Piece.tokens_append, ← h.tokens_eq, Nat.zero_add]
    congr 1
    -- the column of the lexer is where the pieces so far end, so the new token stands there
    have hhere : lexer.position = ⟨lexer.position.line, min (Piece.width pieces) Position.countLimit⟩ := by
      rw [← h.column_eq]
    by_cases hignored : rule.ignored = true
    · simp [Piece.tokens, piece, hignored]
    · simp [Piece.tokens, piece, hignored, ← hhere]

theorem withLookahead (h : lexer.CoveredBy found lead pieces) (source : Source)
    (lookahead : Lookahead κ) : { lexer with source, lookahead }.CoveredBy found lead pieces :=
  ⟨h.line_eq, h.blank, h.cover, h.column_eq, h.tokens_eq⟩

theorem addRules (h : lexer.CoveredBy found lead pieces) (rules : List (Rule κ)) :
    (lexer.addRules rules).CoveredBy found lead pieces :=
  ⟨h.line_eq, h.blank, h.cover.addRules rules, h.column_eq, h.tokens_eq⟩

end Lexer.CoveredBy

/-! ## 3. The invariant -/

/-- The tokens made last are those on record for the current line, the others stand on lines before
it, and the line is covered unless it has been skipped. -/
structure Lexer.LinesCovered (lexer : Lexer κ) (made : List (Token κ)) (record : LineRecord κ) :
    Prop where
  anchored : ∀ rule ∈ lexer.rules, rule.IsAnchored
  made_eq : ∃ earlier, made = earlier ++ record.tokens ∧
    ∀ t ∈ earlier, t.position.line < Position.countLimit →
      t.position.line < lexer.position.line
  line_eq : ∀ t ∈ record.tokens, t.position.line = lexer.position.line
  covered : record.isSkipped = false → ∃ lead pieces, lexer.CoveredBy record.tokens lead pieces

namespace Lexer.LinesCovered

variable {lexer : Lexer κ} {made : List (Token κ)} {record : LineRecord κ}

theorem ofReader (reader : Reader) {rules : List (Rule κ)}
    (hrules : ∀ rule ∈ rules, rule.IsAnchored) :
    ((Lexer.ofReader reader).addRules rules).LinesCovered [] .blank where
  anchored := hrules
  made_eq := ⟨[], rfl, nofun⟩
  line_eq := nofun
  covered _ := by
    obtain ⟨lead, hcovered⟩ : ∃ lead, ((Lexer.ofReader reader).addRules rules).CoveredBy [] lead [] :=
      CoveredBy.of_line rfl rfl rfl
    exact ⟨lead, [], hcovered⟩

variable (h : lexer.LinesCovered made record)

include h

theorem withLookahead (source : Source) (lookahead : Lookahead κ) :
    { lexer with source, lookahead }.LinesCovered made record where
  anchored := h.anchored
  made_eq := h.made_eq
  line_eq := h.line_eq
  covered hkept := by
    obtain ⟨lead, pieces, hcovered⟩ := h.covered hkept
    exact ⟨lead, pieces, hcovered.withLookahead source lookahead⟩

section Match

variable {rule : Rule κ} {m : RuleMatch} {next : List Char}
  (hfirst : Rule.firstMatch? lexer.rules lexer.rest = some (rule, m))
  (hbehind : Scan.behind? m lexer.rest = some next)

include hfirst hbehind

theorem passIgnored (hignored : rule.ignored = true) :
    (lexer.pass m next).LinesCovered made record where
  anchored := h.anchored
  made_eq := h.made_eq
  line_eq := h.line_eq
  covered hkept := by
    obtain ⟨lead, pieces, hcovered⟩ := h.covered hkept
    obtain ⟨piece, hpassed⟩ := hcovered.pass
      (h.anchored rule (Rule.matchStart?_of_firstMatch? hfirst).1) hfirst hbehind
    rw [if_pos hignored, List.append_nil] at hpassed
    exact ⟨lead, pieces ++ [piece], hpassed⟩

theorem passToken (hkept : rule.ignored = false) :
    (lexer.pass m next).LinesCovered (made ++ [rule.tokenAt m lexer.position])
      (record.note (.tokenFound (rule.tokenAt m lexer.position))) where
  anchored := h.anchored
  made_eq := by
    obtain ⟨earlier, hmade, hearlier⟩ := h.made_eq
    exact ⟨earlier, by rw [hmade, List.append_assoc]; rfl, hearlier⟩
  line_eq t ht := by
    rcases List.mem_append.mp ht with hold | hnew
    · exact h.line_eq t hold
    · rw [List.mem_singleton.mp hnew]
      rfl
  covered hskipped := by
    obtain ⟨lead, pieces, hcovered⟩ := h.covered hskipped
    obtain ⟨piece, hpassed⟩ := hcovered.pass
      (h.anchored rule (Rule.matchStart?_of_firstMatch? hfirst).1) hfirst hbehind
    rw [if_neg (by simp [hkept])] at hpassed
    exact ⟨lead, pieces ++ [piece], hpassed⟩

end Match

theorem startLine (source : Source) (text : List Char) :
    (lexer.startLine source text).LinesCovered made .blank where
  anchored := h.anchored
  -- all tokens so far stand on lines before this one
  made_eq := by
    obtain ⟨earlier, hmade, hearlier⟩ := h.made_eq
    refine ⟨made, (List.append_nil made).symm, fun t ht hlimit => ?_⟩
    rw [hmade] at ht
    rcases List.mem_append.mp ht with hold | hnew
    · exact (hearlier t hold hlimit).trans_le (Position.le_countOn _ _)
    · rw [h.line_eq t hnew] at hlimit ⊢
      exact Position.lt_countOn hlimit Nat.one_pos
  line_eq := nofun
  covered _ := by
    obtain ⟨lead, hcovered⟩ : ∃ lead, (lexer.startLine source text).CoveredBy [] lead [] :=
      CoveredBy.of_line rfl rfl rfl
    exact ⟨lead, [], hcovered⟩

theorem skipLine : lexer.skipLine.1.LinesCovered made { record with isSkipped := true } where
  anchored := h.anchored
  made_eq := h.made_eq
  line_eq := h.line_eq
  covered hskipped := by cases hskipped

theorem addRules {rules : List (Rule κ)} (hrules : ∀ rule ∈ rules, rule.IsAnchored) :
    (lexer.addRules rules).LinesCovered made record where
  anchored rule hmem := by
    rcases List.mem_append.mp hmem with hold | hnew
    · exact h.anchored rule hold
    · exact hrules rule hnew
  made_eq := h.made_eq
  line_eq := h.line_eq
  covered hkept := by
    obtain ⟨lead, pieces, hcovered⟩ := h.covered hkept
    exact ⟨lead, pieces, hcovered.addRules rules⟩

end Lexer.LinesCovered

/-! ## 4. Every transcript -/

/-- The tokens made so far: those that have left the lookahead and the one that it holds. -/
def Ledger.made (ledger : Ledger κ) : List (Token κ) :=
  ledger.removed ++ ledger.lexer.lookahead.token?.toList

theorem Ledger.made_of_unprimed {ledger : Ledger κ}
    (hprimed : ledger.lexer.lookahead = .unprimed) : ledger.made = ledger.removed := by
  simp [made, hprimed, Lookahead.token?]

theorem Lexer.token?_lookahead_skipLine (lexer : Lexer κ) :
    lexer.skipLine.1.lookahead.token? = none := by
  rw [skipLine]
  cases lexer.lookahead <;> rfl

/-- A move makes a token of the match in front and passes it, or makes none. -/
theorem Ledger.Move.made_cases {allowed : Rule κ → Prop} {ledger next : Ledger κ}
    (hmove : Move allowed ledger next) :
    next.made = ledger.made ∨ ∃ rule m,
      Rule.firstMatch? ledger.lexer.rules ledger.lexer.rest = some (rule, m) ∧
      ledger.lexer.rest ≠ [] ∧
      next.lexer.position = ledger.lexer.position.advance m.chars ∧
      next.made = ledger.made ++ [rule.tokenAt m ledger.lexer.position] := by
  -- a token counts as made when it is found, so taking it from the lookahead changes nothing
  cases hmove with
  | @token rule m _ primed first behind kept =>
    refine .inr ⟨rule, m, first, Scan.ne_nil_of_behind? behind, rfl, ?_⟩
    rw [made_of_unprimed primed]
    rfl
  | finished primed rest finished =>
    rw [made_of_unprimed primed]
    exact .inl (List.append_nil ledger.removed)
  | taken held events quiet =>
    rw [made, made, held]
    exact .inl (List.append_nil _)
  | skipped =>
    rw [made, made, Lexer.token?_lookahead_skipLine]
    exact .inl (List.append_nil _)
  | _ => exact .inl rfl

theorem Ledger.linesCovered_move {ledger next : Ledger κ}
    (h : ledger.lexer.LinesCovered ledger.made ledger.lineRecord)
    (hmove : Move Rule.IsAnchored ledger next) :
    next.lexer.LinesCovered next.made next.lineRecord := by
  cases hmove with
  | ignored primed first behind ignored => exact h.passIgnored first behind ignored
  | @token rule m _ primed first behind kept =>
    have hpassed := (h.passToken first behind kept).withLookahead ledger.lexer.source
      (.token (rule.tokenAt m ledger.lexer.position))
    rw [made_of_unprimed primed] at hpassed
    exact hpassed
  | lineRead primed rest line => exact h.startLine _ _
  | lineLost primed rest failed => exact h.startLine _ []
  | @finished source primed rest finished =>
    have hfinished := h.withLookahead source .endOfInput
    rw [made_of_unprimed primed, ← List.append_nil ledger.removed] at hfinished
    exact hfinished
  | taken held events quiet =>
    have htaken := h.withLookahead ledger.lexer.source .unprimed
    rw [made, held, ← List.append_nil (ledger.removed ++ _)] at htaken
    exact htaken
  | skipped =>
    have hskipped := h.skipLine
    rw [made, ← List.append_nil (ledger.removed ++ _)] at hskipped
    rw [made, Lexer.token?_lookahead_skipLine]
    exact hskipped
  | rulesAdded rules fit => exact h.addRules fit

section Transcripts

variable [DecidableEq κ]

/-- Behind any actions on a fresh lexer whose matches begin where the text begins, the tokens made
are those of earlier lines and then those found on the current line.  This line is covered if it has
not been skipped, and no blank stands in front of its rest. -/
theorem coveredBy_transcript (reader : Reader) (rules : List (Rule κ))
    (actions : List (Action κ)) (hrules : ∀ rule ∈ rules, rule.IsAnchored)
    (hadded : ∀ action ∈ actions, ∀ rule ∈ action.added, rule.IsAnchored) :
    let reached := ((Lexer.ofReader reader).addRules rules).transcript actions
    let found := reached.lineRecord.tokens
    (∃ earlier, reached.removed ++ reached.lexer.lookahead.token?.toList = earlier ++ found ∧
      ∀ t ∈ earlier, t.position.line < Position.countLimit →
        t.position.line < reached.lexer.position.line) ∧
      (reached.lineRecord.isSkipped = false →
        ∃ lead pieces, IsTrimmed reached.lexer.rest ∧
          reached.lexer.CoveredBy found lead pieces) := by
  intro reached found
  have hcovered := (reaches_transcript _ actions hadded).preserves
    (P := fun ledger => ledger.lexer.LinesCovered ledger.made ledger.lineRecord)
    (.ofReader reader hrules) fun _ _ hmove h => Ledger.linesCovered_move h hmove
  refine ⟨hcovered.made_eq, fun hkept => ?_⟩
  obtain ⟨lead, pieces, h⟩ := hcovered.covered hkept
  exact ⟨lead, pieces, h.cover.isTrimmed_rest, h⟩

/-- A line with two tokens, a blank between them, and a rest that is not read yet. -/
theorem coveredBy_transcript_letters :
    let rules : List (Rule Unit) := (Rule.make () "(a)" false).toOption.toList
    let reached := ((Lexer.ofReader ⟨[.data [97, 32, 97, 98]]⟩).addRules rules).transcript
      [.request .nextToken, .request .peek]
    reached.lexer.rest = ['b'] ∧ reached.lineRecord.tokens.length = 2 ∧
      ∃ lead pieces, reached.lexer.CoveredBy reached.lineRecord.tokens lead pieces := by
  intro rules reached
  have hrules : ∀ rule ∈ (Rule.make () "(a)" false).toOption, rule.IsAnchored :=
    Rule.isAnchored_of_mem_make (Reading.keepsGroup_iff.mpr (by decide +kernel))
  obtain ⟨lead, pieces, -, hcovered⟩ := (coveredBy_transcript ⟨[.data [97, 32, 97, 98]]⟩ rules
    [.request .nextToken, .request .peek] (by simpa [rules] using hrules)
    (by simp [Action.added])).2 (by decide +kernel)
  exact ⟨by decide +kernel, by decide +kernel, lead, pieces, hcovered⟩

end Transcripts

end Linewise
