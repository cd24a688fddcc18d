import Linewise.Proofs.Pattern.Search
import Linewise.Proofs.Rule.FirstMatch

/-!
# Anchors — where the matches of a rule begin

A rule is tried behind a look at the beginning of the text, which is pasted with a group around
its pattern.  The look binds the whole pattern only if the parenthesis pasted behind the pattern is
the one that closes the group.  `start_eq_zero_iff_of_make` says exactly which matches begin where
the text begins, and `not_isAnchored_of_closed_group` shows a rule whose matches do not.
-/

namespace Linewise

/-! ## 1. Reading the text around a pattern -/

namespace Reading

/-- What is read inside the group that is opened in front of a pattern. -/
def groupBody? (pattern : String) : Option (Part × Cursor) :=
  (alternatives (pattern.toList.length + 5) [] []).run ⟨pattern.toList ++ [')'], .initial, 0, []⟩

/-- Whether the group opened in front of the pattern is closed by the parenthesis behind it. -/
def KeepsGroup (pattern : String) : Prop :=
  ∃ part cursor, groupBody? pattern = some (part, cursor) ∧ cursor.rest = [')']

theorem keepsGroup_iff {pattern : String} :
    KeepsGroup pattern ↔ (groupBody? pattern).map (·.2.rest) = some [')'] := by
  rw [Option.map_eq_some_iff]
  constructor
  · rintro ⟨part, cursor, hbody, hrest⟩
    exact ⟨(part, cursor), hbody, hrest⟩
  · rintro ⟨⟨part, cursor⟩, hbody, hrest⟩
    exact ⟨part, cursor, hbody, hrest⟩

theorem run_alternatives_anchor (fuel : Nat) (rest : List Char) :
    (alternatives (fuel + 2) [] []).run
        ⟨'\\' :: 'A' :: '(' :: '?' :: ':' :: rest, .initial, 0, []⟩ =
      (do
        let body ← alternatives fuel [] []
        expect ')'
        modify fun cursor => { cursor with modes := .initial }
        alternatives fuel []
          [⟨some body.tree, body.depth + 1⟩, ⟨some (.look .textStart), 0⟩] :
        Reading Part).run ⟨rest, .initial, 0, []⟩ := rfl

theorem run_alternatives_end (fuel : Nat) (parts : List Part) (groups : Nat)
    (names : List (List Char)) :
    (alternatives (fuel + 1) [] parts).run ⟨[], .initial, groups, names⟩ =
      some (Part.join Node.alts [Part.join Node.seqs parts.reverse],
        ⟨[], .initial, groups, names⟩) := rfl

theorem run_expect (c : Char) (rest : List Char) (modes : Modes) (groups : Nat)
    (names : List (List Char)) :
    (expect c).run ⟨c :: rest, modes, groups, names⟩ =
      some ((), ⟨rest, modes, groups, names⟩) := by
  have hpeek : peek.run ⟨c :: rest, modes, groups, names⟩ =
      some (c, ⟨c :: rest, modes, groups, names⟩) := rfl
  rw [expect, StateT.run_bind, hpeek]
  simp only [Option.bind_eq_bind, Option.bind_some, beq_self_eq_true]
  rfl

end Reading

namespace Node

theorem isAnchored_seqs_textStart (body : Node) :
    (seqs [.look .textStart, body]).isAnchored = true := by
  simp only [seqs, List.flatMap_cons, List.flatMap_nil, List.append_nil, parts]
  cases body.parts <;> rfl

/-- If the group is closed by the parenthesis behind the pattern, the look binds the whole. -/
theorem isAnchored_of_keepsGroup {pattern : String} (hkeeps : Reading.KeepsGroup pattern)
    {node : Node} (hread : read? (Rule.anchoredText pattern) = some node) :
    node.isAnchored = true := by
  obtain ⟨part, cursor, hbody, hrest⟩ := hkeeps
  have htext : Rule.anchoredText pattern =
      '\\' :: 'A' :: '(' :: '?' :: ':' :: (pattern.toList ++ [')']) := by
    simp [Rule.anchoredText]
  have hlength : (Rule.anchoredText pattern).length + 1 = (pattern.toList.length + 5) + 2 := by
    simp [htext]
  obtain ⟨rest, modes, groups, names⟩ := cursor
  obtain rfl : rest = [')'] := hrest
  rw [read?, hlength, htext, Reading.run_alternatives_anchor] at hread
  -- the body of the group is read with the fuel that `groupBody?` gives it
  rw [Reading.groupBody?] at hbody
  -- behind the group nothing is left to read
  simp only [StateT.run_bind, hbody, Option.bind_eq_bind, Option.bind_some] at hread
  rw [Reading.run_expect, Option.bind_some] at hread
  change ((((Reading.alternatives (pattern.toList.length + 5) [] _).run
    ⟨[], .initial, groups, names⟩).bind _)) = _ at hread
  rw [Reading.run_alternatives_end] at hread
  simp only [Option.bind_some, List.isEmpty_nil, Bool.true_and] at hread
  split at hread
  · cases hread
    exact isAnchored_seqs_textStart part.tree
  · cases hread

end Node

namespace Rule

variable {κ : Type} {kind : κ} {pattern : String} {ignored : Bool} {rule : Rule κ}

/-! ## 2. Where the matches of a rule begin -/

theorem exists_node_of_make (hmake : make kind pattern ignored = .ok rule) :
    ∃ node, Node.read? (anchoredText pattern) = some node ∧ rule.compiled = .ofNode node := by
  rw [make] at hmake
  split at hmake
  · cases hmake
  · next compiled hcompiled =>
    split at hmake
    · cases hmake
    · cases hmake
      simp only [Pattern.ofText?, Option.bind_eq_bind, Option.bind_eq_some_iff] at hcompiled
      obtain ⟨node, hread, hnode⟩ := hcompiled
      split at hnode
      · cases hnode
        exact ⟨node, hread, rfl⟩
      · cases hnode

theorem isAnchored_of_make (hmake : make kind pattern ignored = .ok rule)
    (hanchored : rule.compiled.anchored = true) : rule.IsAnchored := by
  intro text m hmatch
  obtain ⟨node, -, hcompiled⟩ := exists_node_of_make hmake
  obtain ⟨found, hfind, hstart, -, -⟩ := matchStart?_eq_some_iff.mp hmatch
  rw [hcompiled] at hfind hanchored
  rw [hstart]
  exact (Pattern.accepts_of_find? hfind).2 hanchored

theorem isAnchored_of_keepsGroup (hmake : make kind pattern ignored = .ok rule)
    (hkeeps : Reading.KeepsGroup pattern) : rule.IsAnchored := by
  obtain ⟨node, hread, hcompiled⟩ := exists_node_of_make hmake
  apply isAnchored_of_make hmake
  rw [hcompiled]
  exact Node.isAnchored_of_keepsGroup hkeeps hread

theorem isAnchored_of_mem_make (hkeeps : Reading.KeepsGroup pattern) :
    ∀ rule ∈ (make kind pattern ignored).toOption, rule.IsAnchored := by
  intro rule hmem
  cases hmake : make kind pattern ignored with
  | error => rw [hmake] at hmem; cases hmem
  | ok made =>
    rw [hmake] at hmem
    cases hmem
    exact isAnchored_of_keepsGroup hmake hkeeps

/-- What a match at the beginning of a text covers: its bytes are the first ones of the text, they
are whole characters, as many as it counts, and they can be dropped. -/
theorem covers_of_start_eq_zero {text : List Char} {m : RuleMatch}
    (hmatch : rule.matchStart? text = some m) (hstart : m.start = 0) :
    ∃ back, text = m.lexeme ++ back ∧ (encodeUtf8 text).take m.bytes = encodeUtf8 m.lexeme ∧
      m.lexeme.length = m.chars ∧ dropBytes? m.bytes text = some back := by
  obtain ⟨back, rfl⟩ := lexeme_prefix hmatch hstart
  refine ⟨back, rfl, ?_, rfl, ?_⟩
  · rw [encodeUtf8_append, RuleMatch.bytes, ← length_encodeUtf8, List.take_left]
  · rw [RuleMatch.bytes, dropBytes?_append]

/-- A match of a rule begins where the text begins exactly if the tree read from the pattern and
what is pasted around it accepts there; then it covers whole characters.  If the group around the
pattern is closed by the parenthesis behind it, every match begins there. -/
theorem start_eq_zero_iff_of_make (hmake : make kind pattern ignored = .ok rule) :
    ∃ node, Node.read? (anchoredText pattern) = some node ∧
      (∀ text m, rule.matchStart? text = some m →
        (m.start = 0 ↔ ∃ stop, node.Accepts text 0 stop) ∧
        (m.start = 0 →
          ∃ back, text = m.lexeme ++ back ∧
            (encodeUtf8 text).take m.bytes = encodeUtf8 m.lexeme ∧
            m.lexeme.length = m.chars ∧ dropBytes? m.bytes text = some back)) ∧
      (Reading.KeepsGroup pattern → rule.IsAnchored) := by
  obtain ⟨node, hread, hcompiled⟩ := exists_node_of_make hmake
  refine ⟨node, hread, fun text m hmatch => ⟨?_, covers_of_start_eq_zero hmatch⟩,
    isAnchored_of_keepsGroup hmake⟩
  -- the search prefers the match that begins first, so one at the beginning is never passed over
  obtain ⟨found, hfind, hstart, -, -⟩ := matchStart?_eq_some_iff.mp hmatch
  rw [hcompiled] at hfind
  rw [hstart]
  exact Pattern.start_eq_zero_iff hfind

/-- A pattern that closes the group around it has an alternative that the look does not bind: it
matches behind the beginning of a text, and what is dropped for it may end inside a character. -/
theorem not_isAnchored_of_closed_group :
    ∃ rule : Rule Unit, make () "a)|(b" false = .ok rule ∧
      (∃ m, rule.matchStart? "xb".toList = some m ∧ m.start ≠ 0) ∧
      ∃ m, rule.matchStart? "éb".toList = some m ∧ dropBytes? m.bytes "éb".toList = none := by
  have hfar : ((make () "a)|(b" false).toOption.bind fun rule : Rule Unit =>
      (rule.matchStart? "xb".toList).map (·.start)) = some 1 := by decide +kernel
  have hsplit : ((make () "a)|(b" false).toOption.bind fun rule : Rule Unit =>
      (rule.matchStart? "éb".toList).map fun m => dropBytes? m.bytes "éb".toList) =
        some none := by decide +kernel
  cases hmake : make () "a)|(b" false with
  | error => rw [hmake] at hfar; cases hfar
  | ok rule =>
    rw [hmake] at hfar hsplit
    obtain ⟨m, hm, hstart⟩ := Option.map_eq_some_iff.mp hfar
    exact ⟨rule, rfl, ⟨m, hm, by omega⟩, Option.map_eq_some_iff.mp hsplit⟩

/-- A pattern that keeps the group around it. -/
theorem start_eq_zero_iff_of_make_group :
    ∃ rule : Rule Unit, make () "(a)" false = .ok rule ∧ rule.IsAnchored := by
  have hok : ((make () "(a)" false : Except RuleError (Rule Unit))).isOk = true := by decide +kernel
  have hkeeps : Reading.KeepsGroup "(a)" :=
    Reading.keepsGroup_iff.mpr (by decide +kernel)
  cases hmake : (make () "(a)" false : Except RuleError (Rule Unit)) with
  | error => rw [hmake] at hok; cases hok
  | ok rule =>
    obtain ⟨-, -, -, hanchored⟩ := start_eq_zero_iff_of_make hmake
    exact ⟨rule, rfl, hanchored hkeeps⟩

end Rule

end Linewise
