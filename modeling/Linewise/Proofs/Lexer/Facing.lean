import Linewise.Proofs.Lexer.Taking
import Linewise.Proofs.Lexer.WellFormed
import Linewise.Proofs.Source.Delivery

/-!
# Facing a text — tokens from a text that arrives line by line

A lexer faces a text when the rest of its line, the end of that line and what its reader still
delivers make up the text, blanks in front apart.  Where the lines are cut makes no difference then:
the next token is the one that stands in front of the text, and the lexer behind it faces what
follows.  The token stands on the line that the line feeds in front of it tell.
-/

namespace Linewise

variable {κ : Type}

/-! ## 1. Trimming -/

theorem trimBlanks_of_blank {gap : List Char} (hgap : ∀ c ∈ gap, isBlank c = true)
    (text : List Char) : trimBlanks (gap ++ text) = trimBlanks text :=
  List.dropWhile_append_of_pos hgap

theorem trimBlanks_append_of_isTrimmed {front : List Char} (h : IsTrimmed front) (hne : front ≠ [])
    (back : List Char) : trimBlanks (front ++ back) = front ++ back := by
  obtain ⟨c, rest, rfl⟩ := List.exists_cons_of_ne_nil hne
  simp [trimBlanks, h c rest rfl]

theorem trimBlanks_trimBlanks_append (front back : List Char) :
    trimBlanks (trimBlanks front ++ back) = trimBlanks (front ++ back) := by
  induction front with
  | nil => rfl
  | cons c front ih =>
    by_cases hc : isBlank c = true
    · have hcons (text : List Char) : trimBlanks (c :: text) = trimBlanks text := by
        simp [trimBlanks, hc]
      rw [hcons, List.cons_append, hcons, ih]
    · have hcons (text : List Char) : trimBlanks (c :: text) = c :: text := by simp [trimBlanks, hc]
      rw [hcons]

/-- The rules find a token of the given kind and text, whatever beginning of `after` follows it. -/
def Rule.Finds (rules : List (Rule κ)) (kind : κ) (lexeme after : List Char) : Prop :=
  ∀ back, back <+: after → ∃ rule hne, rule.kind = kind ∧ rule.ignored = false ∧
    Rule.firstMatch? rules (lexeme ++ back) = some (rule, ⟨0, lexeme, lexeme, hne⟩)

namespace Lexer

variable {lexer : Lexer κ} {text trail later : List Char} {bytes : List UInt8}

/-! ## 2. Lines in front of a lexer -/

/-- Behind the rest of its line the lexer has `trail`, the blanks that end the line, and the text
`later`, followed by bytes on lines of their own. -/
structure Stands (lexer : Lexer κ) (trail later : List Char) (bytes : List UInt8) : Prop where
  unprimed : lexer.lookahead = .unprimed
  trimmed : IsTrimmed lexer.rest
  blank : ∀ c ∈ trail, isBlank c = true
  edge : lexer.rest = [] ∨ trail ≠ [] ∨ later = []
  source : ∃ reader : Reader, lexer.source = .reading reader ∧
    reader.Delivers (encodeUtf8 later ++ bytes)
  closed : bytes = [] ∨ later = [] ∨ later.getLast? = some '\n'

/-- The lines in front of a lexer are counted by their line feeds: each line but the last one ends with
one, and behind all of them stands the line with the number `last`. -/
structure Numbers (lexer : Lexer κ) (trail later : List Char) (last : Nat) : Prop where
  feedless : '\n' ∉ lexer.rest
  ended : trail.count '\n' = 1 ∨ later = []
  last_eq : ∃ number, lexer.position.IsOnLine number ∧ number + (trail ++ later).count '\n' = last

/-- The lexer is in front of a text and of the bytes behind it; blanks in front do not count. -/
def Faces (lexer : Lexer κ) (text : List Char) (bytes : List UInt8) : Prop :=
  ∃ trail later, lexer.Stands trail later bytes ∧
    trimBlanks text = trimBlanks (lexer.rest ++ (trail ++ later))

theorem faces_ofReader {reader : Reader} (h : reader.Delivers (encodeUtf8 text ++ bytes))
    (hclosed : bytes = [] ∨ text = [] ∨ text.getLast? = some '\n') (rules : List (Rule κ)) :
    ((ofReader reader).addRules rules).Faces text bytes :=
  ⟨[], text, ⟨rfl, isTrimmed_nil, by simp, .inl rfl, ⟨reader, rfl, h⟩, hclosed⟩, rfl⟩

theorem Numbers.startLine {last : Nat} {here trail' later' : List Char} {source : Source}
    (h : lexer.Numbers trail later last) (hlater : later ≠ [])
    (hsplit : later = here ++ (trail' ++ later')) (hhere : '\n' ∉ here)
    (hended : trail'.count '\n' = 1 ∨ later' = []) :
    (lexer.startLine source here).Numbers trail' later' last where
  feedless hmem := hhere ((trimBlanks_suffix here).subset hmem)
  ended := hended
  last_eq := by
    obtain ⟨number, hnumber, hlast⟩ := h.last_eq
    rw [List.count_append, h.ended.resolve_right hlater, hsplit, List.count_append,
      List.count_eq_zero_of_not_mem hhere] at hlast
    exact ⟨number + 1, hnumber.nextLine, by omega⟩

/-- At the end of its line the lexer reads the next one. -/
theorem Stands.exists_line (h : lexer.Stands trail later bytes) (hlater : later ≠ []) :
    ∃ here trail' later' source, lexer.source.nextLine = (.line here, source) ∧
      later = here ++ (trail' ++ later') ∧ here ++ trail' ≠ [] ∧
      (lexer.startLine source here).Stands trail' later' bytes ∧
      ∀ last, lexer.Numbers trail later last →
        (lexer.startLine source here).Numbers trail' later' last := by
  obtain ⟨reader, hsource, hdelivers⟩ := h.source
  obtain ⟨here, trail', later', rest, hsplit, hnext, hrest, hblank, hedge, hsome, hclosed, hhere,
    hended⟩ := Source.nextLine_of_text hdelivers hlater (h.closed.imp_right fun hclosed =>
      hclosed.resolve_left hlater)
  refine ⟨here, trail', later', .reading rest, by rw [hsource, hnext], hsplit, hsome, ?_, ?_⟩
  · exact ⟨h.unprimed, isTrimmed_trimBlanks here, hblank, .inr hedge, ⟨rest, rfl, hrest⟩, hclosed⟩
  · exact fun last hnumbers => hnumbers.startLine hlater hsplit hhere hended

/-- Looking for the next token from the end of a line is looking for it on the next line. -/
theorem agrees_startLine (hprimed : lexer.lookahead = .unprimed) (hrest : lexer.rest = [])
    {here : List Char} {source : Source} (hline : lexer.source.nextLine = (.line here, source)) :
    lexer.Agrees (lexer.startLine source here) := by
  have hstart : (lexer.startLine source here).lookahead = .unprimed := hprimed
  rw [Agrees, prime_of_unprimed hprimed, prime_of_unprimed hstart,
    advance_of_lineEnd hprimed hrest, settle, hline]
  exact ⟨rfl, rfl⟩

/-- Lines are read until something stands on the line, or nothing is left. -/
theorem Stands.exists_stands (hstands : lexer.Stands trail later bytes)
    (hsplit : trimBlanks text = trimBlanks (lexer.rest ++ (trail ++ later))) :
    ∃ there trail' later', lexer.Agrees there ∧ there.rules = lexer.rules ∧
      there.Stands trail' later' bytes ∧
      (∀ last, lexer.Numbers trail later last → there.Numbers trail' later' last) ∧
      (there.rest ≠ [] ∧ trimBlanks text = there.rest ++ (trail' ++ later') ∨
        there.rest = [] ∧ later' = [] ∧ trimBlanks text = []) := by
  induction hlength : later.length using Nat.strongRecOn generalizing lexer trail later with
  | _ length ih =>
    subst hlength
    by_cases hrest : lexer.rest = []
    · rw [hrest, List.nil_append, trimBlanks_of_blank hstands.blank] at hsplit
      by_cases hlater : later = []
      · refine ⟨lexer, trail, later, ⟨rfl, rfl⟩, rfl, hstands, fun _ h => h, .inr ⟨hrest, hlater, ?_⟩⟩
        rw [hsplit, hlater]
        rfl
      · obtain ⟨here, trail', later', source, hline, hcut, hsome, hnext, hnumbers⟩ :=
          hstands.exists_line hlater
        have hless : later'.length < later.length := by
          rw [hcut, ← List.append_assoc, List.length_append]
          have := List.length_pos_iff.mpr hsome
          omega
        have htext : trimBlanks text =
            trimBlanks ((lexer.startLine source here).rest ++ (trail' ++ later')) := by
          rw [hsplit, hcut]
          exact (trimBlanks_trimBlanks_append here _).symm
        obtain ⟨there, back, behind, hagrees, hrules, hthere, hlater, hends⟩ :=
          ih _ hless hnext htext rfl
        have hfirst := agrees_startLine hstands.unprimed hrest hline
        exact ⟨there, back, behind, ⟨hfirst.1.trans hagrees.1, hfirst.2.trans hagrees.2⟩, hrules,
          hthere, fun last h => hlater last (hnumbers last h), hends⟩
    · refine ⟨lexer, trail, later, ⟨rfl, rfl⟩, rfl, hstands, fun _ h => h, .inl ⟨hrest, ?_⟩⟩
      rw [hsplit, trimBlanks_append_of_isTrimmed hstands.trimmed hrest]

theorem Faces.exists_stands (h : lexer.Faces text bytes) :
    ∃ there trail later, lexer.Agrees there ∧ there.rules = lexer.rules ∧
      there.Stands trail later bytes ∧
      (there.rest ≠ [] ∧ trimBlanks text = there.rest ++ (trail ++ later) ∨
        there.rest = [] ∧ later = [] ∧ trimBlanks text = []) := by
  obtain ⟨trail, later, hstands, hsplit⟩ := h
  obtain ⟨there, trail', later', hagrees, hrules, hthere, -, hends⟩ := hstands.exists_stands hsplit
  exact ⟨there, trail', later', hagrees, hrules, hthere, hends⟩

theorem Faces.of_gap {gap : List Char} (h : lexer.Faces (gap ++ text) bytes)
    (hgap : ∀ c ∈ gap, isBlank c = true) : lexer.Faces text bytes := by
  obtain ⟨trail, later, hstands, hsplit⟩ := h
  exact ⟨trail, later, hstands, by rw [← hsplit, trimBlanks_of_blank hgap]⟩

/-! ## 3. The token in front -/

variable {kind : κ} {lexeme after : List Char}

/-- A text without blanks does not go on behind the end of a line. -/
theorem exists_back {rest : List Char} (hsplit : lexeme ++ after = rest ++ (trail ++ later))
    (hlexeme : ∀ c ∈ lexeme, isBlank c = false) (htrail : ∀ c ∈ trail, isBlank c = true)
    (hedge : trail ≠ [] ∨ later = []) :
    ∃ back, rest = lexeme ++ back ∧ after = back ++ (trail ++ later) := by
  rcases List.append_eq_append_iff.mp hsplit with ⟨back, hrest, hafter⟩ | ⟨more, hmore, hbehind⟩
  · exact ⟨back, hrest, hafter⟩
  · cases more with
    | nil => exact ⟨[], by simpa using hmore.symm, by simpa using hbehind.symm⟩
    | cons c more =>
      have hc : isBlank c = false := hlexeme c (by simp [hmore])
      cases trail with
      | nil => simp [hedge.resolve_left (by simp)] at hbehind
      | cons d trail =>
        obtain ⟨rfl, -⟩ := List.cons.inj hbehind
        rw [htrail d List.mem_cons_self] at hc
        cases hc

/-- The token that a lexer finds in front of a text, and where this leaves it. -/
theorem Stands.prime_of_finds (h : lexer.Stands trail later bytes)
    (hsplit : trimBlanks (lexeme ++ after) = trimBlanks (lexer.rest ++ (trail ++ later)))
    (hlexeme : ∀ c ∈ lexeme, isBlank c = false) (hfinds : Rule.Finds lexer.rules kind lexeme after) :
    ∃ t back trail' later', lexer.prime.result = .ok () ∧
      lexer.prime.state.lookahead = .token t ∧ t.kind = kind ∧ t.text = String.ofList lexeme ∧
      after = back ++ (trail' ++ later') ∧ (trail' ≠ [] ∨ later' = []) ∧
      lexer.prime.state.rest = trimBlanks back ∧
      { lexer.prime.state with lookahead := .unprimed }.Stands trail' later' bytes ∧
      ∀ last, lexer.Numbers trail later last →
        (∃ number, t.position.IsOnLine number ∧ number + after.count '\n' = last) ∧
        { lexer.prime.state with lookahead := .unprimed }.Numbers trail' later' last := by
  obtain ⟨-, hne, -⟩ := hfinds [] List.nil_prefix
  have htrimmed : IsTrimmed lexeme := fun c back hcons => hlexeme c (hcons ▸ List.mem_cons_self)
  have htrim := trimBlanks_append_of_isTrimmed htrimmed hne after
  obtain ⟨there, trail', later', hagrees, hrules, hstands, hnumbers, ⟨hrest, htext⟩ | ⟨-, -, hnone⟩⟩ :=
    h.exists_stands hsplit
  rotate_left
  · rw [htrim] at hnone
    exact absurd (List.append_eq_nil_iff.mp hnone).1 hne
  have hedge : trail' ≠ [] ∨ later' = [] := hstands.edge.resolve_left hrest
  obtain ⟨back, hback, hafter⟩ := exists_back (htrim ▸ htext) hlexeme hstands.blank hedge
  obtain ⟨rule, hne, rfl, hkept, hfirst⟩ := hfinds back ⟨_, hafter.symm⟩
  rw [← hrules, ← hback] at hfirst
  have hbehind : Scan.behind? ⟨0, lexeme, lexeme, hne⟩ there.rest = some (trimBlanks back) := by
    rw [hback, Scan.behind?, RuleMatch.bytes, dropBytes?_append]
    rfl
  have hadvance := advance_of_token hfirst hbehind hkept
  rw [← prime_of_unprimed hstands.unprimed] at hadvance
  rw [hagrees.1, hagrees.2, hadvance]
  refine ⟨_, back, trail', later', rfl, rfl, rfl, rfl, hafter, hedge, rfl, ?_, fun last hlast => ?_⟩
  · exact ⟨rfl, isTrimmed_trimBlanks back, hstands.blank, .inr hedge, hstands.source, hstands.closed⟩
  · obtain ⟨hfeedless, hended, number, hnumber, hline⟩ := hnumbers last hlast
    have hnone : '\n' ∉ back := fun hmem => hfeedless (by rw [hback]; simp [hmem])
    refine ⟨⟨number, hnumber, ?_⟩, fun hmem => hnone ((trimBlanks_suffix back).subset hmem), hended,
      number, hnumber, hline⟩
    rw [hafter, List.count_append, List.count_eq_zero_of_not_mem hnone, Nat.zero_add]
    exact hline

/-- The token that a lexer finds in front of the text that it faces, and where this leaves it. -/
theorem Faces.prime_of_finds (h : lexer.Faces (lexeme ++ after) bytes)
    (hlexeme : ∀ c ∈ lexeme, isBlank c = false) (hfinds : Rule.Finds lexer.rules kind lexeme after) :
    ∃ t back trail later, lexer.prime.result = .ok () ∧
      lexer.prime.state.lookahead = .token t ∧ t.kind = kind ∧ t.text = String.ofList lexeme ∧
      after = back ++ (trail ++ later) ∧ (trail ≠ [] ∨ later = []) ∧
      lexer.prime.state.rest = trimBlanks back ∧
      { lexer.prime.state with lookahead := .unprimed }.Stands trail later bytes := by
  obtain ⟨trail, later, hstands, hsplit⟩ := h
  obtain ⟨t, back, trail', later', hok, hlook, hkind, htext, hafter, hedge, hrest, hbehind, -⟩ :=
    hstands.prime_of_finds hsplit hlexeme hfinds
  exact ⟨t, back, trail', later', hok, hlook, hkind, htext, hafter, hedge, hrest, hbehind⟩

/-- The token in front is taken, and the lexer faces what follows. -/
theorem Faces.nextToken_of_finds (h : lexer.Faces (lexeme ++ after) bytes)
    (hlexeme : ∀ c ∈ lexeme, isBlank c = false) (hfinds : Rule.Finds lexer.rules kind lexeme after) :
    ∃ t, lexer.nextToken.result = .ok (some t) ∧ t.kind = kind ∧ t.text = String.ofList lexeme ∧
      lexer.nextToken.state.Faces after bytes := by
  obtain ⟨t, back, trail, later, hok, hlook, hkind, htext, rfl, -, hrest, hstands⟩ :=
    h.prime_of_finds hlexeme hfinds
  rw [nextToken_of_token hok hlook]
  refine ⟨t, rfl, hkind, htext, trail, later, hstands, ?_⟩
  rw [← trimBlanks_trimBlanks_append, ← hrest]

/-- Where a line feed follows the token in front, no more than its line has been read when it is
found. -/
theorem Faces.delivers_of_finds (h : lexer.Faces (lexeme ++ ['\n']) bytes)
    (hlexeme : ∀ c ∈ lexeme, isBlank c = false)
    (hfinds : Rule.Finds lexer.rules kind lexeme ['\n']) :
    ∃ reader : Reader, lexer.prime.state.source = .reading reader ∧ reader.Delivers bytes := by
  obtain ⟨t, back, trail, later, -, -, -, -, hafter, hedge, -, hstands⟩ :=
    h.prime_of_finds hlexeme hfinds
  have hlater : later = [] := by
    refine hedge.elim (fun htrail => ?_) id
    have hlength := congrArg List.length hafter
    have := List.length_pos_iff.mpr htrail
    simp only [List.length_append, List.length_singleton] at hlength
    exact List.eq_nil_of_length_eq_zero (by omega)
  obtain ⟨reader, hsource, hdelivers⟩ := hstands.source
  rw [hlater] at hdelivers
  exact ⟨reader, hsource, hdelivers⟩

/-- In front of nothing but blanks, a lexer finds the end of input. -/
theorem Faces.prime_of_blank (h : lexer.Faces text []) (htext : ∀ c ∈ text, isBlank c = true) :
    lexer.prime.result = .ok () ∧ lexer.prime.state.lookahead = .endOfInput := by
  have htrim : trimBlanks text = [] := List.dropWhile_eq_nil_iff.mpr htext
  obtain ⟨there, trail, later, hagrees, -, hstands, ⟨hrest, hsplit⟩ | ⟨hrest, rfl, -⟩⟩ :=
    h.exists_stands
  · rw [htrim] at hsplit
    exact absurd (List.append_eq_nil_iff.mp hsplit.symm).1 hrest
  · obtain ⟨reader, hsource, hdelivers⟩ := hstands.source
    rw [hagrees.1, hagrees.2, prime_of_unprimed hstands.unprimed,
      advance_of_lineEnd hstands.unprimed hrest, settle, hsource,
      Source.nextLine_of_delivers_nil hdelivers]
    exact ⟨rfl, rfl⟩

/-! ## 4. Lines -/

/-- The lexer faces a text that ends on the line with the number `last`. -/
def FacesTo (lexer : Lexer κ) (text : List Char) (bytes : List UInt8) (last : Nat) : Prop :=
  ∃ trail later, lexer.Stands trail later bytes ∧ lexer.Numbers trail later last ∧
    trimBlanks text = trimBlanks (lexer.rest ++ (trail ++ later))

variable {last : Nat}

theorem FacesTo.of_gap {gap : List Char} (h : lexer.FacesTo (gap ++ text) bytes last)
    (hgap : ∀ c ∈ gap, isBlank c = true) : lexer.FacesTo text bytes last := by
  obtain ⟨trail, later, hstands, hnumbers, hsplit⟩ := h
  exact ⟨trail, later, hstands, hnumbers, by rw [← hsplit, trimBlanks_of_blank hgap]⟩

/-- The line of the token in front has as many line feeds behind it as the text that follows. -/
theorem FacesTo.nextToken_of_finds (h : lexer.FacesTo (lexeme ++ after) bytes last)
    (hlexeme : ∀ c ∈ lexeme, isBlank c = false) (hfinds : Rule.Finds lexer.rules kind lexeme after) :
    ∃ t, lexer.nextToken.result = .ok (some t) ∧ t.kind = kind ∧ t.text = String.ofList lexeme ∧
      (∃ number, t.position.IsOnLine number ∧ number + after.count '\n' = last) ∧
      lexer.nextToken.state.FacesTo after bytes last := by
  obtain ⟨trail, later, hstands, hnumbers, hsplit⟩ := h
  obtain ⟨t, back, trail', later', hok, hlook, hkind, htext, hafter, -, hrest, hbehind, hlast⟩ :=
    hstands.prime_of_finds hsplit hlexeme hfinds
  obtain ⟨hline, hnumbers'⟩ := hlast last hnumbers
  rw [nextToken_of_token hok hlook]
  refine ⟨t, rfl, hkind, htext, hline, trail', later', hbehind, hnumbers', ?_⟩
  rw [hafter, ← trimBlanks_trimBlanks_append, ← hrest]

end Lexer

end Linewise
