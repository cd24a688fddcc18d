import Linewise.Proofs.Lexer.LineShift
import Linewise.Proofs.Lexer.WellFormed
import Linewise.Proofs.Lexer.TokenCursor
import Linewise.Proofs.Source.Delivery

/-!
# Recovery — lexing a whole source in spite of errors

`Lexer.sweep` calls `nextToken` to the end of input; it skips the rest of a line behind text that no
rule matches, and simply goes on behind a line that could not be read.  What it meets on a line is
`Source.lineItems` of that line alone, so the sweep of a source is put together from its lines
(`sweep_of_delivers`), and the sweep of two texts from those of the texts (`sweep_append`).
-/

namespace Linewise

variable {κ : Type}

/-! ## 1. Sweeping -/

namespace Lexer

theorem budget_prime_lt_of_device {lexer : Lexer κ} {position : Position} {failure : Failure}
    (herror : lexer.prime.result = .error ⟨position, .device failure⟩) :
    lexer.prime.state.budget < lexer.budget := by
  cases hlook : lexer.lookahead with
  | unprimed =>
    rw [prime_of_unprimed hlook] at herror ⊢
    cases advanced lexer with
    | token t ok => rw [ok] at herror; cases herror
    | endOfInput ok => rw [ok] at herror; cases herror
    | unmatched _ error => rw [error] at herror; cases herror
    | splitCharacter _ error => rw [error] at herror; cases herror
    | device _ _ _ lookahead ahead =>
      have hheld := held_of_unprimed lookahead
      simp only [budget]
      omega
  | token t => rw [prime_of_token hlook] at herror; cases herror
  | endOfInput => rw [prime_of_endOfInput hlook] at herror; cases herror

theorem prime_of_nextToken_error {lexer : Lexer κ} {error : LexError κ}
    (herror : lexer.nextToken.result = .error error) :
    lexer.prime.result = .error error ∧ lexer.nextToken.state = lexer.prime.state := by
  cases hprime : lexer.prime.result with
  | error other =>
    have hnext := nextToken_of_error hprime
    rw [hnext] at herror ⊢
    cases herror
    exact ⟨rfl, rfl⟩
  | ok =>
    rw [nextToken, Outcome.andThen_ok hprime] at herror
    cases herror

theorem budget_nextToken_lt_of_device {lexer : Lexer κ} {position : Position} {failure : Failure}
    (herror : lexer.nextToken.result = .error ⟨position, .device failure⟩) :
    lexer.nextToken.state.budget < lexer.budget := by
  obtain ⟨hprime, hstate⟩ := prime_of_nextToken_error herror
  rw [hstate]
  exact budget_prime_lt_of_device hprime

theorem budget_skipLine_nextToken_lt {lexer : Lexer κ} {position : Position} {remainder : String}
    (herror : lexer.nextToken.result = .error ⟨position, .unmatched remainder⟩) :
    lexer.nextToken.state.skipLine.1.budget < lexer.budget := by
  obtain ⟨hprime, hstate⟩ := prime_of_nextToken_error herror
  obtain ⟨hprimed, hrest⟩ := prime_unmatched hprime
  rw [hstate]
  exact Nat.lt_of_lt_of_le (budget_skipLine_lt hprimed hrest) (budget_prime_le lexer)

/-- The tokens and errors that `nextToken` meets up to the end of input, when the rest of the line
is skipped behind text that no rule matches, and the lexer at the end.  A match that splits a
character is the last item. -/
def sweep (lexer : Lexer κ) : List (StreamItem κ) × Lexer κ :=
  match h : lexer.nextToken.result with
  | .ok (some t) =>
    have := budget_nextToken_lt h
    let (items, last) := lexer.nextToken.state.sweep
    (.ok t :: items, last)
  | .ok none => ([], lexer.nextToken.state)
  | .error ⟨position, .unmatched remainder⟩ =>
    have := budget_skipLine_nextToken_lt h
    let (items, last) := lexer.nextToken.state.skipLine.1.sweep
    (.error ⟨position, .unmatched remainder⟩ :: items, last)
  | .error ⟨position, .device failure⟩ =>
    have := budget_nextToken_lt_of_device h
    let (items, last) := lexer.nextToken.state.sweep
    (.error ⟨position, .device failure⟩ :: items, last)
  | .error error => ([.error error], lexer.nextToken.state)
termination_by lexer.budget

/-- One step of a sweep. -/
theorem sweep_eq (lexer : Lexer κ) :
    lexer.sweep =
      match lexer.nextToken.result with
      | .ok (some t) =>
        (.ok t :: lexer.nextToken.state.sweep.1, lexer.nextToken.state.sweep.2)
      | .ok none => ([], lexer.nextToken.state)
      | .error ⟨position, .unmatched remainder⟩ =>
        (.error ⟨position, .unmatched remainder⟩ :: lexer.nextToken.state.skipLine.1.sweep.1,
          lexer.nextToken.state.skipLine.1.sweep.2)
      | .error ⟨position, .device failure⟩ =>
        (.error ⟨position, .device failure⟩ :: lexer.nextToken.state.sweep.1,
          lexer.nextToken.state.sweep.2)
      | .error error => ([.error error], lexer.nextToken.state) := by
  rw [sweep]
  split
  · next h => simp only [h]
  · next h => simp only [h]
  · next h => simp only [h]
  · next h => simp only [h]
  · next h => simp only [h]

variable {lexer other : Lexer κ}

/-- Lexers that agree meet the same. -/
theorem Agrees.sweep_eq (hagrees : lexer.Agrees other) : lexer.sweep = other.sweep := by
  obtain ⟨hresult, hstate⟩ := hagrees
  have hnext : lexer.nextToken.result = other.nextToken.result ∧
      lexer.nextToken.state = other.nextToken.state := by
    simp only [nextToken, Outcome.andThen, hresult]
    cases other.prime.result <;> simp [hstate]
  rw [Lexer.sweep_eq lexer, Lexer.sweep_eq other, hnext.1, hnext.2]

end Lexer

/-! ## 2. One line -/

/-- The tokens on the unread text of a line, up to its end or to text that no rule matches. -/
def Scan.items (rules : List (Rule κ)) (position : Position) (rest : List Char) :
    List (StreamItem κ) :=
  let scan := line rules position rest
  match h : scan.found with
  | .token t =>
    have := length_line_lt_of_token h
    .ok t :: items rules scan.position scan.rest
  | .lineEnd => []
  | .unmatched => [.error ⟨scan.position, .unmatched (String.ofList scan.rest)⟩]
  | .splitCharacter => [.error ⟨scan.position, .splitCharacter⟩]
termination_by rest.length

theorem Scan.items_eq (rules : List (Rule κ)) (position : Position) (rest : List Char) :
    items rules position rest =
      let scan := line rules position rest
      match scan.found with
      | .token t => .ok t :: items rules scan.position scan.rest
      | .lineEnd => []
      | .unmatched => [.error ⟨scan.position, .unmatched (String.ofList scan.rest)⟩]
      | .splitCharacter => [.error ⟨scan.position, .splitCharacter⟩] := by
  rw [items]
  simp only
  split <;> simp_all only

/-- What lexing meets on the line with the given number and bytes. -/
def Source.lineItems (rules : List (Rule κ)) (number : Nat) (bytes : List UInt8) :
    List (StreamItem κ) :=
  match lineOfBytes bytes with
  | .line text => Scan.items rules ⟨number, 0⟩ (trimBlanks text)
  | .failed failure => [.error ⟨⟨number, 0⟩, .device failure⟩]
  | .finished => []

/-- What lexing meets on lines one after another, the line number `number` standing before them. -/
def Source.itemsFrom (rules : List (Rule κ)) (number : Nat) : List (List UInt8) → List (StreamItem κ)
  | [] => []
  | bytes :: later =>
    lineItems rules (Position.countOn number 1) bytes ++
      itemsFrom rules (Position.countOn number 1) later

theorem Source.itemsFrom_append (rules : List (Rule κ)) (number : Nat)
    (lines more : List (List UInt8)) :
    itemsFrom rules number (lines ++ more) =
      itemsFrom rules number lines ++
        itemsFrom rules (Position.countOn number lines.length) more := by
  induction lines generalizing number with
  | nil => rw [List.length_nil, Position.countOn_zero]; rfl
  | cons bytes lines ih =>
    simp only [List.cons_append, itemsFrom, ih, List.length_cons, List.append_assoc]
    rw [Position.countOn_countOn, Nat.add_comm 1]

section Below

variable (lines : Nat) (rules : List (Rule κ))

theorem Scan.items_below (position : Position) (rest : List Char) :
    items rules (position.below lines) rest =
      (items rules position rest).map (StreamItem.below lines) := by
  induction hlength : rest.length using Nat.strongRecOn generalizing position rest with
  | _ length ih =>
    have hbelow := isBelow_line lines rules position rest
    rw [items_eq, items_eq rules position]
    simp only [hbelow.found, hbelow.rest, hbelow.position]
    cases hfound : (line rules position rest).found with
    | token t =>
      have hless := length_line_lt_of_token hfound
      simp only [Found.below, List.map_cons]
      rw [ih _ (hlength ▸ hless) _ _ rfl]
      rfl
    | lineEnd => rfl
    | unmatched => rfl
    | splitCharacter => rfl

theorem Source.lineItems_below (number : Nat) (bytes : List UInt8) :
    lineItems rules (Position.countOn number lines) bytes =
      (lineItems rules number bytes).map (StreamItem.below lines) := by
  simp only [lineItems]
  cases lineOfBytes bytes with
  | line text => exact Scan.items_below lines rules ⟨number, 0⟩ (trimBlanks text)
  | failed failure => rfl
  | finished => rfl

theorem Source.itemsFrom_below (number : Nat) (later : List (List UInt8)) :
    itemsFrom rules (Position.countOn number lines) later =
      (itemsFrom rules number later).map (StreamItem.below lines) := by
  induction later generalizing number with
  | nil => rfl
  | cons bytes later ih =>
    rw [itemsFrom, itemsFrom, List.map_append, ← ih, ← lineItems_below,
      Position.countOn_right_comm]

end Below

/-! ## 3. From line to line -/

namespace Lexer

variable {lexer : Lexer κ}

/-- A lexer that has used up its line and knows nothing of the next token. -/
structure AtLineEnd (lexer : Lexer κ) : Prop where
  primed : lexer.lookahead = .unprimed
  rest : lexer.rest = []

theorem scanned_ne_splitCharacter (hanchored : ∀ rule ∈ lexer.rules, rule.IsAnchored)
    (hprimed : lexer.lookahead = .unprimed) :
    (Scan.line lexer.rules lexer.position lexer.rest).found ≠ .splitCharacter := by
  intro hfound
  apply prime_ne_splitCharacter hanchored lexer.scanned.position
  rw [prime_of_unprimed hprimed, advance_eq_settle, hfound]
  rfl

/-- On its line a sweep meets what scanning meets, and goes on from the end of the line. -/
theorem exists_atLineEnd (lexer : Lexer κ)
    (hanchored : ∀ rule ∈ lexer.rules, rule.IsAnchored)
    (hprimed : lexer.lookahead = .unprimed) :
    ∃ behind : Lexer κ, behind.AtLineEnd ∧ behind.source = lexer.source ∧
      behind.rules = lexer.rules ∧ behind.position.line = lexer.position.line ∧
      lexer.sweep =
        (Scan.items lexer.rules lexer.position lexer.rest ++ behind.sweep.1, behind.sweep.2) := by
  induction hlength : lexer.rest.length using Nat.strongRecOn generalizing lexer with
  | _ length ih =>
    have hadvance := advance_eq_settle lexer
    rw [← prime_of_unprimed hprimed] at hadvance
    rw [Scan.items_eq]
    have hline : lexer.scanned.position.line = lexer.position.line :=
      Scan.line_position_line lexer.rules lexer.position lexer.rest
    cases hfound : (Scan.line lexer.rules lexer.position lexer.rest).found with
    | token t =>
      rw [hfound] at hadvance
      have hnext : lexer.nextToken.result = .ok (some t) ∧ lexer.nextToken.state = lexer.scanned := by
        rw [nextToken, hadvance]
        exact ⟨rfl, rfl⟩
      -- behind the token the same line goes on, with less of it unread
      have hless : lexer.scanned.rest.length < length :=
        hlength ▸ Scan.length_line_lt_of_token hfound
      obtain ⟨behind, hend, hsource, hrules, hposition, hsweep⟩ :=
        ih _ hless lexer.scanned hanchored rfl rfl
      refine ⟨behind, hend, hsource, hrules, hposition.trans hline, ?_⟩
      rw [sweep_eq, hnext.1, hnext.2, hsweep]
      simp only [hfound]
      rfl
    | unmatched =>
      rw [hfound] at hadvance
      have hnext : lexer.nextToken.result =
            .error ⟨lexer.scanned.position, .unmatched lexer.scanned.remaining⟩ ∧
          lexer.nextToken.state = lexer.scanned := by
        rw [nextToken, hadvance]
        exact ⟨rfl, rfl⟩
      refine ⟨lexer.scanned.skipLine.1, ⟨rfl, rfl⟩, rfl, rfl, hline, ?_⟩
      rw [sweep_eq, hnext.1, hnext.2]
      simp only [hfound]
      rfl
    | lineEnd =>
      have hrest : lexer.scanned.rest = [] := Scan.rest_line_of_lineEnd hfound
      have hagain : lexer.scanned.prime = lexer.scanned.settle .lineEnd := by
        rw [prime_of_unprimed rfl, advance_of_lineEnd rfl hrest]
      have hagrees : lexer.Agrees lexer.scanned := by
        rw [Agrees, hagain, hadvance, hfound]
        exact ⟨rfl, rfl⟩
      refine ⟨lexer.scanned, ⟨rfl, hrest⟩, rfl, rfl, hline, ?_⟩
      rw [hagrees.sweep_eq]
      simp only [hfound, List.nil_append]
    | splitCharacter => exact absurd hfound (scanned_ne_splitCharacter hanchored hprimed)

namespace AtLineEnd

variable (h : lexer.AtLineEnd)

include h

theorem prime_eq : lexer.prime = lexer.settle .lineEnd := by
  rw [prime_of_unprimed h.primed, advance_of_lineEnd h.primed h.rest]

theorem sweep_of_line {text : List Char} {source : Source}
    (hline : lexer.source.nextLine = (.line text, source)) :
    lexer.sweep = (lexer.startLine source text).sweep := by
  have hnext : (lexer.startLine source text).prime = (lexer.startLine source text).advance :=
    prime_of_unprimed h.primed
  apply Agrees.sweep_eq
  rw [Agrees, h.prime_eq, hnext]
  simp only [settle, hline]
  exact ⟨rfl, rfl⟩

theorem sweep_of_failed {failure : Failure} {source : Source}
    (hfailed : lexer.source.nextLine = (.failed failure, source)) :
    lexer.sweep =
      (.error ⟨lexer.position.nextLine, .device failure⟩ :: (lexer.loseLine source).sweep.1,
        (lexer.loseLine source).sweep.2) := by
  have hprime := h.prime_eq
  simp only [settle, hfailed] at hprime
  rw [sweep_eq, nextToken, hprime]
  rfl

theorem sweep_of_finished {source : Source}
    (hfinished : lexer.source.nextLine = (.finished, source)) :
    lexer.sweep = ([], { lexer with source, lookahead := .endOfInput }) := by
  have hprime := h.prime_eq
  simp only [settle, hfinished] at hprime
  rw [sweep_eq, nextToken, hprime]
  rfl

end AtLineEnd

/-- A lexer at the end of a line meets what stands on the lines that its reader still delivers, each
line taken by itself, and comes to the end of input. -/
theorem sweep_of_delivers (lexer : Lexer κ)
    (hanchored : ∀ rule ∈ lexer.rules, rule.IsAnchored)
    (h : lexer.AtLineEnd) {reader : Reader} (hsource : lexer.source = .reading reader)
    {bytes : List UInt8} (hdelivers : reader.Delivers bytes) :
    lexer.sweep.1 = Source.itemsFrom lexer.rules lexer.position.line (segments bytes) ∧
      lexer.sweep.2.lookahead = .endOfInput := by
  induction hlines : segments bytes generalizing lexer reader bytes with
  | nil =>
    obtain rfl := segments_eq_nil_iff.mp hlines
    have hend := Source.nextLine_of_delivers_nil hdelivers
    rw [← hsource] at hend
    rw [h.sweep_of_finished hend]
    exact ⟨rfl, rfl⟩
  | cons first later ih =>
    have hbytes : bytes ≠ [] := fun hnil => by simp [hnil, segments] at hlines
    rw [segments_of_ne_nil hbytes, List.cons.injEq] at hlines
    obtain ⟨rfl, hlater⟩ := hlines
    obtain ⟨rest, hnext, hne, hrest⟩ := Source.nextLine_of_delivers hdelivers hbytes
    rw [← hsource] at hnext
    rw [Source.itemsFrom, Source.lineItems]
    cases hfound : Source.lineOfBytes (cutLine bytes).1 with
    | line text =>
      rw [hfound] at hnext
      -- the new line is scanned to its end, where the lines behind it are met
      obtain ⟨behind, hend, hsource', hrules, hposition, hsweep⟩ :=
        exists_atLineEnd (lexer.startLine (.reading rest) text) hanchored h.primed
      have hbehind := ih behind (hrules ▸ hanchored) hend hsource' hrest hlater
      rw [h.sweep_of_line hnext, hsweep, hbehind.1, hrules, hposition]
      exact ⟨rfl, hbehind.2⟩
    | failed failure =>
      rw [hfound] at hnext
      have hbehind := ih (lexer.loseLine (.reading rest)) hanchored ⟨h.primed, rfl⟩ rfl hrest hlater
      rw [h.sweep_of_failed hnext, hbehind.1]
      exact ⟨rfl, hbehind.2⟩
    | finished => exact absurd hfound hne

end Lexer

/-- Behind whole lines, what is delivered is met as it is by itself, only further down. -/
theorem sweep_of_append {rules : List (Rule κ)} (hrules : ∀ rule ∈ rules, rule.IsAnchored)
    {front back : List UInt8} (hfront : ∀ byte ∈ front.getLast?, isLineFeed byte = true)
    {alone later whole : Reader} (halone : alone.Delivers front) (hlater : later.Delivers back)
    (hwhole : whole.Delivers (front ++ back)) :
    ((Lexer.ofReader whole).addRules rules).sweep.1 =
      ((Lexer.ofReader alone).addRules rules).sweep.1 ++
        ((Lexer.ofReader later).addRules rules).sweep.1.map
          (StreamItem.below (segments front).length) := by
  have hitems {reader : Reader} {bytes : List UInt8} (hreader : reader.Delivers bytes) :
      ((Lexer.ofReader reader).addRules rules).sweep.1 = Source.itemsFrom rules 0 (segments bytes) :=
    (Lexer.sweep_of_delivers _ hrules ⟨rfl, rfl⟩ rfl hreader).1
  rw [hitems halone, hitems hlater, hitems hwhole, segments_append hfront, Source.itemsFrom_append,
    Source.itemsFrom_below]

end Linewise
