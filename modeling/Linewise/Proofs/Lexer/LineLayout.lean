import Linewise.Proofs.Lexer.Facing
import Linewise.Proofs.Lexer.Recovery

/-!
# Line layout — what may stand around the lines of a text

A sweep does not meet the blanks in front of a line, nor blank lines, nor a carriage return in front
of a line feed.  Two texts that differ in these only (`Relaid`) are lexed alike, each line further
down by the lines that were inserted before it.
-/

namespace Linewise

/-! ## 1. What is scanned of a line -/

/-- The text of a line, without its end and the blanks in front. -/
def lineText (line : List Char) : List Char := trimBlanks (stripLineEnd line)

theorem lineText_of_blank {line : List Char} (hblank : ∀ c ∈ line, isBlank c = true) :
    lineText (line ++ ['\n']) = [] := by
  obtain ⟨trail, hsplit, -, -⟩ := exists_append_stripLineEnd line
  have hall : ∀ c ∈ stripLineEnd (line ++ ['\n']), isBlank c = true := by
    intro c hc
    have hmem : c ∈ line ++ ['\n'] := by
      rw [hsplit]
      exact List.mem_append_left _ hc
    rcases List.mem_append.mp hmem with hline | hfeed
    · exact hblank c hline
    · rw [List.mem_singleton.mp hfeed]
      decide
  have htrim := trimBlanks_of_blank hall []
  rw [List.append_nil] at htrim
  exact htrim

theorem lineText_indented {blanks : List Char} (hblanks : ∀ c ∈ blanks, isBlank c = true)
    (line : List Char) : lineText (blanks ++ line ++ ['\n']) = lineText (line ++ ['\n']) := by
  rcases List.eq_nil_or_concat line with rfl | ⟨front, c, rfl⟩
  · -- blanks alone may end with a carriage return, which then belongs to the line end
    rw [List.append_nil, lineText_of_blank hblanks]
    rfl
  · by_cases hc : c = '\r'
    · have hsplit (before : List Char) :
          stripLineEnd (before ++ front.concat c ++ ['\n']) = before ++ front := by
        have hjoin := stripLineEnd_return (before ++ front)
        simpa [hc] using hjoin
      have hbare := hsplit []
      rw [lineText, lineText, hsplit blanks, trimBlanks_of_blank hblanks]
      rw [List.nil_append] at hbare
      rw [hbare, List.nil_append]
    · have hlast : (front.concat c).getLast? ≠ some '\r' := by simpa using hc
      have hlast' : (blanks ++ front.concat c).getLast? ≠ some '\r' := by simpa using hc
      rw [lineText, lineText, stripLineEnd_feed hlast, stripLineEnd_feed hlast',
        trimBlanks_of_blank hblanks]

/-- A carriage return may be put in front of the line feed of a line, unless the line ends with one. -/
def IsReturn (line ret : List Char) : Prop :=
  ret = [] ∨ ret = ['\r'] ∧ line.getLast? ≠ some '\r'

theorem lineText_returned {line ret : List Char} (hret : IsReturn line ret) :
    lineText (line ++ ret ++ ['\n']) = lineText (line ++ ['\n']) := by
  rcases hret with rfl | ⟨rfl, hline⟩
  · rw [List.append_nil]
  · have hjoin : line ++ ['\r'] ++ ['\n'] = line ++ ['\r', '\n'] := by simp
    rw [hjoin, lineText, lineText, stripLineEnd_return, stripLineEnd_feed hline]

/-! ## 2. What is met on a text -/

variable {κ : Type}

theorem Scan.items_nil (rules : List (Rule κ)) (position : Position) :
    items rules position [] = [] := by
  rw [items_eq, line_nil]

namespace Source

variable (rules : List (Rule κ))

/-- What lexing meets on the lines of a text. -/
def textItems (text : List Char) : List (StreamItem κ) :=
  itemsFrom rules 0 (segments (encodeUtf8 text))

theorem lineItems_encodeUtf8 (number : Nat) {line : List Char} (hline : line ≠ []) :
    lineItems rules number (encodeUtf8 line) = Scan.items rules ⟨number, 0⟩ (lineText line) := by
  rw [lineItems, lineOfBytes_encodeUtf8 hline]
  rfl

/-- The first line of a text is met by itself, and the text behind it one line further down. -/
theorem textItems_of_line {line : List Char} (hline : '\n' ∉ line) (back : List Char) :
    textItems rules (line ++ '\n' :: back) =
      Scan.items rules ⟨1, 0⟩ (lineText (line ++ ['\n'])) ++
        (textItems rules back).map (StreamItem.below 1) := by
  have hencode : encodeUtf8 (line ++ '\n' :: back) = encodeUtf8 line ++ 10 :: encodeUtf8 back := by
    rw [encodeUtf8_append]
    rfl
  have hfirst : encodeUtf8 line ++ [10] = encodeUtf8 (line ++ ['\n']) := by
    rw [encodeUtf8_append]
    rfl
  rw [textItems, hencode, segments_of_ne_nil (by simp),
    cutLine_append_feed (no_feed_of_encodeUtf8 hline), itemsFrom, hfirst,
    lineItems_encodeUtf8 rules _ (by simp), textItems, ← itemsFrom_below]
  rfl

theorem textItems_of_last {line : List Char} (hline : '\n' ∉ line) :
    textItems rules line = Scan.items rules ⟨1, 0⟩ (trimBlanks line) := by
  by_cases hnil : line = []
  · subst hnil
    exact (Scan.items_nil rules ⟨1, 0⟩).symm
  · have hbytes : encodeUtf8 line ≠ [] := by
      rw [← List.length_pos_iff, length_encodeUtf8]
      exact byteLength_pos hnil
    rw [textItems, segments_of_ne_nil hbytes, cutLine_of_no_feed (no_feed_of_encodeUtf8 hline),
      itemsFrom, lineItems_encodeUtf8 rules _ hnil, lineText, stripLineEnd_of_no_feed hline]
    exact List.append_nil _

end Source

/-! ## 3. Lines of items -/

/-- The line that a token or an error stands on. -/
def StreamItem.line : StreamItem κ → Nat
  | .ok t => t.position.line
  | .error error => error.position.line

namespace StreamItem

theorem line_below (lines : Nat) (item : StreamItem κ) :
    (item.below lines).line = Position.countOn item.line lines := by
  cases item <;> rfl

theorem below_zero (item : StreamItem κ) : item.below 0 = item := by
  cases item with
  | ok t => rfl
  | error error =>
    obtain ⟨position, cause⟩ := error
    cases cause with
    | unexpected kind text found => cases found <;> rfl
    | _ => rfl

theorem below_below (lines more : Nat) (item : StreamItem κ) :
    (item.below lines).below more = item.below (lines + more) := by
  cases item with
  | ok t => simp [below, Token.below, Position.below_below]
  | error error =>
    obtain ⟨position, cause⟩ := error
    cases cause with
    | unexpected kind text found =>
      cases found <;>
        simp [below, LexError.below, LexCause.below, Token.below, Position.below_below]
    | _ => simp [below, LexError.below, LexCause.below, Position.below_below]

end StreamItem

variable {rules : List (Rule κ)}

theorem Scan.line_token {position : Position} {rest : List Char} {t : Token κ}
    (hfound : (line rules position rest).found = .token t) : t.position.line = position.line := by
  induction position, rest using line_induction rules with
  | lineEnd scan => rw [scan] at hfound; cases hfound
  | unmatched _ _ scan => rw [scan] at hfound; cases hfound
  | splitCharacter _ _ _ scan => rw [scan] at hfound; cases hfound
  | ignored _ _ _ scan ih =>
    rw [scan] at hfound
    exact ih hfound
  | token _ _ _ scan =>
    rw [scan] at hfound
    rw [← Found.token.inj hfound]
    rfl

theorem Scan.line_of_mem_items {position : Position} {rest : List Char} {item : StreamItem κ}
    (hitem : item ∈ items rules position rest) : item.line = position.line := by
  induction hlength : rest.length using Nat.strongRecOn generalizing position rest with
  | _ length ih =>
    have hline := line_position_line rules position rest
    rw [items_eq] at hitem
    cases hfound : (line rules position rest).found with
    | token t =>
      simp only [hfound] at hitem
      rcases List.mem_cons.mp hitem with rfl | hlater
      · exact line_token hfound
      · exact (ih _ (hlength ▸ length_line_lt_of_token hfound) hlater rfl).trans hline
    | lineEnd =>
      simp only [hfound] at hitem
      cases hitem
    | unmatched =>
      simp only [hfound] at hitem
      rw [List.mem_singleton.mp hitem]
      exact hline
    | splitCharacter =>
      simp only [hfound] at hitem
      rw [List.mem_singleton.mp hitem]
      exact hline

namespace Source

theorem line_of_mem_lineItems {number : Nat} {bytes : List UInt8} {item : StreamItem κ}
    (hitem : item ∈ lineItems rules number bytes) : item.line = number := by
  rw [lineItems] at hitem
  cases hbytes : lineOfBytes bytes with
  | line text =>
    simp only [hbytes] at hitem
    exact Scan.line_of_mem_items hitem
  | failed failure =>
    simp only [hbytes] at hitem
    rw [List.mem_singleton.mp hitem]
    rfl
  | finished =>
    simp only [hbytes] at hitem
    cases hitem

/-- What is met on a text is met on one of its lines, which has a number. -/
theorem exists_lineItems_of_mem {number : Nat} {lines : List (List UInt8)} {item : StreamItem κ}
    (hitem : item ∈ itemsFrom rules number lines) :
    0 < item.line ∧ ∃ bytes, item ∈ lineItems rules item.line bytes := by
  induction lines generalizing number with
  | nil => cases hitem
  | cons bytes later ih =>
    rcases List.mem_append.mp hitem with hfirst | hlater
    · rw [line_of_mem_lineItems hfirst]
      exact ⟨Position.countOn_pos _ Nat.one_pos, bytes, hfirst⟩
    · exact ih hlater

/-- On the line with the largest number everything stays where it is. -/
theorem below_of_mem_lineItems {number : Nat} (hlimit : Position.countLimit ≤ number)
    {bytes : List UInt8} {item : StreamItem κ} (hitem : item ∈ lineItems rules number bytes)
    (lines : Nat) : item.below lines = item := by
  have hbelow := lineItems_below lines rules number bytes
  rw [Position.countOn_of_limit_le hlimit] at hbelow
  have hall := List.map_inj_left.mp ((List.map_id _).trans hbelow)
  exact (hall item hitem).symm

end Source

/-! ## 4. Texts laid out otherwise -/

/-- White space that is on one line. -/
structure IsSpace (text : List Char) : Prop where
  blank : ∀ c ∈ text, isBlank c = true
  feedless : '\n' ∉ text

theorem isSpace_iff {text : List Char} :
    IsSpace text ↔ (text.all fun c => isBlank c && c != '\n') = true := by
  simp only [List.all_eq_true, Bool.and_eq_true, bne_iff_ne]
  constructor
  · intro h c hc
    exact ⟨h.blank c hc, fun hfeed => h.feedless (hfeed ▸ hc)⟩
  · intro h
    exact ⟨fun c hc => (h c hc).1, fun hfeed => (h '\n' hfeed).2 rfl⟩

instance (text : List Char) : Decidable (IsSpace text) := decidable_of_iff _ isSpace_iff.symm

/-- How many lines are inserted before a line of a text, from how many are in the text behind its
first line; before this one there are none. -/
def behindLine (grown : Nat → Nat) (number : Nat) : Nat :=
  if number ≤ 1 then 0 else grown (number - 1)

/-- The text `other` is `text` with white space in front of some lines, with blank lines between,
before and behind them, and with carriage returns in front of some line feeds; `grown` tells how many
lines have been inserted before the line with a given number.  A last line that is not ended has to
be if lines follow it; then it must not end with a carriage return, unless it is blank. -/
inductive Relaid : List Char → List Char → (Nat → Nat) → Prop where
  | inserted {blanks text other : List Char} {grown : Nat → Nat} (space : IsSpace blanks)
      (later : Relaid text other grown) :
      Relaid text (blanks ++ '\n' :: other) fun number => grown number + 1
  | line {blanks line ret text other : List Char} {grown : Nat → Nat} (space : IsSpace blanks)
      (feedless : '\n' ∉ line) (ending : IsReturn line ret) (later : Relaid text other grown) :
      Relaid (line ++ '\n' :: text) (blanks ++ line ++ ret ++ '\n' :: other) (behindLine grown)
  | last {blanks line : List Char} (space : IsSpace blanks) (feedless : '\n' ∉ line) :
      Relaid line (blanks ++ line) fun _ => 0
  | followed {blanks line ret other : List Char} {grown : Nat → Nat} (space : IsSpace blanks)
      (feedless : '\n' ∉ line) (ending : IsReturn line ret)
      (clear : line.getLast? ≠ some '\r' ∨ ∀ c ∈ line, isBlank c = true)
      (later : Relaid [] other grown) :
      Relaid line (blanks ++ line ++ ret ++ '\n' :: other) fun _ => 0

theorem IsSpace.feedless_append {blanks line ret : List Char} (hspace : IsSpace blanks)
    (hline : '\n' ∉ line) (hret : IsReturn line ret) : '\n' ∉ blanks ++ line ++ ret := by
  have hreturn : '\n' ∉ ret := by
    rcases hret with rfl | ⟨rfl, -⟩
    · exact List.not_mem_nil
    · decide
  simp [hspace.feedless, hline, hreturn]

theorem IsSpace.lineText_eq {blanks line ret : List Char} (hspace : IsSpace blanks)
    (hret : IsReturn line ret) :
    lineText (blanks ++ line ++ ret ++ ['\n']) = lineText (line ++ ['\n']) := by
  rw [List.append_assoc blanks, lineText_indented hspace.blank, lineText_returned hret]

/-- An unended line is scanned as if it were ended. -/
theorem lineText_unended {line : List Char}
    (hclear : line.getLast? ≠ some '\r' ∨ ∀ c ∈ line, isBlank c = true) :
    lineText (line ++ ['\n']) = trimBlanks line := by
  rcases hclear with hlast | hblank
  · rw [lineText, stripLineEnd_feed hlast]
  · rw [lineText_of_blank hblank, ← List.append_nil line, trimBlanks_of_blank hblank]
    rfl

theorem Relaid.textItems_eq {text other : List Char} {grown : Nat → Nat}
    (h : Relaid text other grown) :
    Source.textItems rules other =
      (Source.textItems rules text).map fun item => item.below (grown item.line) := by
  -- line by line; the items of the first line stay, and all others move down with their line
  induction h with
  | @inserted blanks text other grown hspace _ ih =>
    rw [Source.textItems_of_line rules hspace.feedless, lineText_of_blank hspace.blank,
      Scan.items_nil, List.nil_append, ih, List.map_map]
    refine List.map_congr_left fun item _ => ?_
    exact item.below_below _ 1
  | @line blanks line ret text other grown hspace hfeedless hret _ ih =>
    rw [Source.textItems_of_line rules (hspace.feedless_append hfeedless hret),
      hspace.lineText_eq hret, Source.textItems_of_line rules hfeedless, List.map_append, ih,
      List.map_map, List.map_map]
    congr 1
    · refine ((List.map_congr_left fun item hitem => ?_).trans (List.map_id _)).symm
      rw [Scan.line_of_mem_items hitem]
      exact item.below_zero
    · refine List.map_congr_left fun item hitem => ?_
      obtain ⟨hpos, bytes, hline⟩ := Source.exists_lineItems_of_mem hitem
      simp only [Function.comp_apply]
      by_cases hlimit : item.line < Position.countLimit
      · have hgrown : behindLine grown (item.line + 1) = grown item.line := by
          rw [behindLine, if_neg (by omega), Nat.add_sub_cancel]
        rw [StreamItem.below_below, StreamItem.line_below, Position.countOn_eq_add hlimit,
          StreamItem.below_below, hgrown, Nat.add_comm]
      · -- the item stands on the line with the largest number, and stays there
        simp only [Source.below_of_mem_lineItems (Nat.not_lt.mp hlimit) hline]
  | @last blanks line hspace hfeedless =>
    have hwhole : '\n' ∉ blanks ++ line := by simp [hspace.feedless, hfeedless]
    rw [Source.textItems_of_last rules hwhole, trimBlanks_of_blank hspace.blank,
      ← Source.textItems_of_last rules hfeedless]
    simp [StreamItem.below_zero]
  | @followed blanks line ret other grown hspace hfeedless hret hclear _ ih =>
    have hnone : Source.textItems rules other = [] := ih
    rw [Source.textItems_of_line rules (hspace.feedless_append hfeedless hret),
      hspace.lineText_eq hret, lineText_unended hclear, hnone,
      ← Source.textItems_of_last rules hfeedless]
    simp [StreamItem.below_zero]

/-! ## 5. Sweeps -/

/-- A text that is laid out otherwise is lexed alike: the same tokens and errors are met, at the same
columns, and each of them stands as many lines further down as lines have been inserted before its
line, as far as line numbers go.  Both sweeps come to the end of input. -/
theorem sweep_relaid (rules : List (Rule κ)) (hrules : ∀ rule ∈ rules, rule.IsAnchored)
    {text other : List Char} {grown : Nat → Nat} (h : Relaid text other grown) :
    let sweep := fun text =>
      ((Lexer.ofReader (.ofBytes (encodeUtf8 text))).addRules rules).sweep
    (sweep other).1 = (sweep text).1.map (fun item => item.below (grown item.line)) ∧
      (sweep text).2.lookahead = .endOfInput ∧ (sweep other).2.lookahead = .endOfInput := by
  intro sweep
  have hsweep (text : List Char) : (sweep text).1 = Source.textItems rules text ∧
      (sweep text).2.lookahead = .endOfInput :=
    Lexer.sweep_of_delivers _ hrules ⟨rfl, rfl⟩ rfl (Reader.delivers_ofBytes _)
  refine ⟨?_, (hsweep text).2, (hsweep other).2⟩
  rw [(hsweep text).1, (hsweep other).1]
  exact h.textItems_eq

/-- A line more in front, one behind, an indented line, and a line end with a carriage return. -/
theorem sweep_relaid_letters :
    let rules : List (Rule Unit) := (Rule.make () "(a)" false).toOption.toList
    let sweep := fun text =>
      ((Lexer.ofReader (.ofBytes (encodeUtf8 text))).addRules rules).sweep
    let text := "a b\na".toList
    let other := "\t\n a b\r\na\n ".toList
    let grown := fun number => behindLine (fun _ => 0) number + 1
    Relaid text other grown ∧
      (sweep other).1 = (sweep text).1.map (fun item => item.below (grown item.line)) := by
  intro rules sweep text other grown
  have hrules : ∀ rule ∈ (Rule.make () "(a)" false).toOption, rule.IsAnchored :=
    Rule.isAnchored_of_mem_make (Reading.keepsGroup_iff.mpr (by decide +kernel))
  have hrelaid : Relaid text other grown := by
    have hlast : Relaid [] [' '] fun _ => 0 :=
      @Relaid.last [' '] [] (by decide) (by decide)
    have hfollowed : Relaid ['a'] ['a', '\n', ' '] fun _ => 0 :=
      @Relaid.followed [] ['a'] [] _ _ (by decide) (by decide) (.inl rfl)
        (.inl (by decide)) hlast
    have hline : Relaid text " a b\r\na\n ".toList (behindLine fun _ => 0) :=
      @Relaid.line [' '] ['a', ' ', 'b'] ['\r'] _ _ _ (by decide) (by decide)
        (.inr ⟨rfl, by decide⟩) hfollowed
    exact @Relaid.inserted ['\t'] _ _ _ (by decide) hline
  exact ⟨hrelaid, (sweep_relaid rules (by simpa [rules] using hrules) hrelaid).1⟩

/-- A carriage return at the end of an unended line is text, until a line is put behind it: then it
is a part of the line end. -/
theorem sweep_ne_of_ended_return :
    let rules : List (Rule Unit) := (Rule.make () "(a\\s?)" false).toOption.toList
    let sweep := fun text =>
      ((Lexer.ofReader (.ofBytes (encodeUtf8 text))).addRules rules).sweep
    let text := "a\r".toList
    let other := text ++ "\n ".toList
    (∀ rule ∈ rules, rule.IsAnchored) ∧ (sweep text).1 = [.ok ⟨(), "a\r", ⟨1, 0⟩⟩] ∧
      (sweep other).1 = [.ok ⟨(), "a", ⟨1, 0⟩⟩] ∧
      ∀ grown : Nat → Nat,
        (sweep other).1 ≠ (sweep text).1.map fun item => item.below (grown item.line) := by
  intro rules sweep text other
  have hrules : ∀ rule ∈ (Rule.make () "(a\\s?)" false).toOption, rule.IsAnchored :=
    Rule.isAnchored_of_mem_make (Reading.keepsGroup_iff.mpr (by decide +kernel))
  have htext : (sweep text).1 = [.ok ⟨(), "a\r", ⟨1, 0⟩⟩] := by decide +kernel
  have hother : (sweep other).1 = [.ok ⟨(), "a", ⟨1, 0⟩⟩] := by decide +kernel
  refine ⟨by simpa [rules] using hrules, htext, hother, fun grown heq => ?_⟩
  rw [htext, hother] at heq
  simp [StreamItem.below, Token.below] at heq

end Linewise
