import Linewise.Proofs.Calculator.Calculation
import Linewise.Proofs.Calculator.Causality
import Linewise.Proofs.Calculator.Items
import Linewise.Proofs.Number.Alphabet

/-!
# Lines — what is left for the next line

The end of a line is a blank to the calculator, so an expression can go on on the next line.  A text
that leaves no expression unfinished changes nothing for what follows it: whatever errors it has, they
have been passed over by then.  A text that does leave one unfinished takes from what follows it.
-/

namespace Linewise

namespace Calculator

/-! ## 1. More items behind -/

/-- The items end where a token is wanted. -/
def Wants {α : Type} (outcome : ItemOutcome α) : Prop :=
  ∃ position kind, outcome.result = .error (.lex ⟨position, .unexpected kind none none⟩)

/-- The outcome with more items behind those that are left. -/
def framed {α : Type} (outcome : ItemOutcome α) (more : List Item) : ItemOutcome α :=
  { outcome with state := outcome.state ++ more }

section Frames

variable {α β : Type} {last : Position} {items : List Item} (last' : Position) (more : List Item)

theorem takeAs_append {kind : Kind} {parse : String → Except CalcError α}
    (hwants : ¬ Wants (takeAs kind parse last items)) :
    takeAs kind parse last' (items ++ more) = framed (takeAs kind parse last items) more := by
  rcases items with _ | ⟨error | t, later⟩
  · exact absurd ⟨last, kind, rfl⟩ hwants
  · rfl
  · rw [List.cons_append, takeAs, takeAs]
    split <;> rfl

theorem andThen_append {first first' : ItemOutcome α} {next next' : α → List Item → ItemOutcome β}
    {more : List Item} (hfirst : ¬ Wants first → first' = framed first more)
    (hnext : ∀ value items, ¬ Wants (next value items) →
      next' value (items ++ more) = framed (next value items) more)
    (hwants : ¬ Wants (first.andThen next)) :
    first'.andThen next' = framed (first.andThen next) more := by
  cases hresult : first.result with
  | ok value =>
    have hfound : ¬ Wants first := by
      rintro ⟨position, kind, herror⟩
      rw [hresult] at herror
      cases herror
    rw [Outcome.andThen_ok hresult] at hwants ⊢
    rw [hfirst hfound, Outcome.andThen_ok (by exact hresult)]
    have hbehind := hnext value first.state hwants
    simp only [framed, Outcome.preceded] at hbehind ⊢
    rw [hbehind]
  | error error =>
    rw [Outcome.andThen_error hresult] at hwants ⊢
    have hfound : ¬ Wants first := by
      rintro ⟨position, kind, herror⟩
      rw [hresult] at herror
      cases herror
      exact hwants ⟨position, kind, rfl⟩
    rw [hfirst hfound, Outcome.andThen_error (by exact hresult)]
    rfl

theorem takeExpression_append (hwants : ¬ Wants (takeExpression last items)) :
    takeExpression last' (items ++ more) = framed (takeExpression last items) more :=
  andThen_append (takeAs_append last' more) (fun _ _ =>
    andThen_append (takeAs_append last' more) (fun _ _ =>
      andThen_append (takeAs_append last' more) (fun _ _ _ => rfl))) hwants

/-- A step that does not come to the end of the items does not depend on what is behind them. -/
theorem takeAnswer_append (hne : items ≠ []) (hwants : ¬ Wants (takeAnswer last items)) :
    takeAnswer last' (items ++ more) = framed (takeAnswer last items) more := by
  obtain ⟨item, later, rfl⟩ := List.exists_cons_of_ne_nil hne
  have hends : endsBefore (item :: later ++ more) = endsBefore (item :: later) := by
    cases item <;> rfl
  rw [takeAnswer] at hwants ⊢
  rw [takeAnswer, hends]
  split
  · rfl
  · next hgoing =>
    rw [if_neg hgoing] at hwants
    refine andThen_append (takeExpression_append last' more) (fun e items _ => ?_) hwants
    rw [evaluated, evaluated]
    split <;> rfl

end Frames

/-! ## 2. Items that are passed over -/

/-- Neither the word `exit` nor a failure is among the items. -/
def Plain (items : List Item) : Prop :=
  ∀ item ∈ items, (∀ t, item = .ok t → isExit t = false) ∧
    ∀ error, item = .error error → ∃ position remainder, error = ⟨position, .unmatched remainder⟩

/-- The outcome leaves plain items, and an error of it can be passed over. -/
structure Tame {α : Type} (outcome : ItemOutcome α) : Prop where
  plain : Plain outcome.state
  recoverable {error : CalcError} (result : outcome.result = .error error) :
    error.isRecoverable = true

section Tame

variable {α β : Type} {items : List Item} (last : Position)

theorem Plain.tail {item : Item} {later : List Item} (h : Plain (item :: later)) : Plain later :=
  fun other hother => h other (List.mem_cons_of_mem item hother)

theorem Plain.append {front more : List Item} (hfront : Plain front) (hmore : Plain more) :
    Plain (front ++ more) := fun item hitem =>
  (List.mem_append.mp hitem).elim (hfront item) (hmore item)

theorem Plain.unmatched {error : LexError Kind} {later : List Item} (h : Plain (.error error :: later)) :
    ∃ position remainder, error = ⟨position, .unmatched remainder⟩ :=
  (h _ List.mem_cons_self).2 error rfl

theorem tame_takeAs {kind : Kind} {parse : String → Except CalcError α}
    (hparse : ∀ text error, parse text = .error error →
      (∃ fault, error = .invalidNumber text fault) ∨ error = .unknownOperator text)
    (hplain : Plain items) : Tame (takeAs kind parse last items) := by
  rcases items with _ | ⟨error | t, later⟩
  · exact ⟨hplain, by rintro _ ⟨⟩; rfl⟩
  · obtain ⟨position, remainder, rfl⟩ := hplain.unmatched
    exact ⟨hplain.tail, by rintro _ ⟨⟩; rfl⟩
  · rw [takeAs]
    split
    · refine ⟨hplain.tail, fun hresult => ?_⟩
      rcases hparse _ _ hresult with ⟨fault, rfl⟩ | rfl <;> rfl
    · exact ⟨hplain.tail, by rintro _ ⟨⟩; rfl⟩

theorem Tame.done {value : α} (hplain : Plain items) : Tame (.done value items : ItemOutcome α) :=
  ⟨hplain, fun h => by cases h⟩

theorem Tame.andThen {outcome : ItemOutcome α} {next : α → List Item → ItemOutcome β}
    (h : Tame outcome) (hnext : ∀ value {items}, Plain items → Tame (next value items)) :
    Tame (outcome.andThen next) := by
  cases hresult : outcome.result with
  | ok value =>
    rw [Outcome.andThen_ok hresult]
    have hbehind := hnext value h.plain
    exact ⟨hbehind.plain, hbehind.recoverable⟩
  | error error =>
    rw [Outcome.andThen_error hresult]
    exact ⟨h.plain, by rintro _ ⟨⟩; exact h.recoverable hresult⟩

theorem tame_takeAnswer (hplain : Plain items) : Tame (takeAnswer last items) := by
  rw [takeAnswer]
  split
  · exact .done hplain
  · refine Tame.andThen ?_ fun e items hplain => ?_
    · refine (tame_takeAs last parseNumber_error hplain).andThen fun lhs items hplain => ?_
      refine (tame_takeAs last parseOperator_error hplain).andThen fun op items hplain => ?_
      refine (tame_takeAs last parseNumber_error hplain).andThen fun rhs items hplain => ?_
      exact .done hplain
    · rw [evaluated]
      split
      · exact ⟨hplain, by rintro _ ⟨⟩; rfl⟩
      · exact .done hplain

theorem takeAnswer_ne_none (hends : endsBefore items = false) :
    (takeAnswer last items).result ≠ .ok none := by
  rw [takeAnswer, hends]
  simp only [Bool.false_eq_true, if_false]
  cases hresult : (takeExpression last items).result with
  | ok e =>
    rw [Outcome.andThen_ok hresult, evaluated]
    intro hnone
    split at hnone <;> cases hnone
  | error error =>
    rw [Outcome.andThen_error hresult]
    intro hnone
    cases hnone

/-- In front of plain items a session goes on. -/
theorem exists_reply (hplain : Plain items) (hne : items ≠ []) :
    ∃ line, reply last items = some line := by
  have hends : endsBefore items = false := by
    obtain ⟨item, later, rfl⟩ := List.exists_cons_of_ne_nil hne
    cases item with
    | error error => rfl
    | ok t => exact (hplain _ List.mem_cons_self).1 t rfl
  rw [reply]
  split
  · next hnone => exact absurd hnone (takeAnswer_ne_none last hends)
  · exact ⟨_, rfl⟩
  · next error herror =>
    rw [(tame_takeAnswer last hplain).recoverable herror]
    exact ⟨_, rfl⟩

end Tame

/-! ## 3. Expressions among the items -/

/-- The three tokens of an expression. -/
inductive Spelled (e : Expression) : List Item → Prop where
  | expression {a b c : Token Kind} (lhsKind : a.kind = .decimal)
      (lhs : parseNumber a.text = .ok e.lhs) (opKind : b.kind = .operator)
      (op : parseOperator b.text = .ok e.op) (rhsKind : c.kind = .decimal)
      (rhs : parseNumber c.text = .ok e.rhs) : Spelled e [.ok a, .ok b, .ok c]

/-- The first token of an expression, or the first two. -/
inductive Begun : List Item → Prop where
  | number {a : Token Kind} {x : Float} (lhsKind : a.kind = .decimal)
      (lhs : parseNumber a.text = .ok x) : Begun [.ok a]
  | operator {a b : Token Kind} {x : Float} {op : Operator} (lhsKind : a.kind = .decimal)
      (lhs : parseNumber a.text = .ok x) (opKind : b.kind = .operator)
      (op : parseOperator b.text = .ok op) : Begun [.ok a, .ok b]

section Wants

variable {α β : Type} {last : Position} {items : List Item}

theorem Wants.of_andThen {outcome : ItemOutcome α} {next : α → List Item → ItemOutcome β}
    (h : Wants (outcome.andThen next)) :
    Wants outcome ∨ ∃ value, outcome.result = .ok value ∧ Wants (next value outcome.state) := by
  obtain ⟨position, kind, herror⟩ := h
  cases hresult : outcome.result with
  | ok value =>
    rw [Outcome.andThen_ok hresult] at herror
    exact .inr ⟨value, rfl, position, kind, herror⟩
  | error error =>
    rw [Outcome.andThen_error hresult] at herror
    cases herror
    exact .inl ⟨position, kind, hresult⟩

theorem eq_nil_of_wants {kind : Kind} {parse : String → Except CalcError α}
    (hparse : ∀ text error, parse text = .error error →
      (∃ fault, error = .invalidNumber text fault) ∨ error = .unknownOperator text)
    (hplain : Plain items) (hwants : Wants (takeAs kind parse last items)) : items = [] := by
  obtain ⟨position, wanted, hresult⟩ := hwants
  rcases items with _ | ⟨error | t, later⟩
  · rfl
  · obtain ⟨position, remainder, rfl⟩ := hplain.unmatched
    cases hresult
  · rw [takeAs] at hresult
    split at hresult
    · rcases hparse _ _ hresult with ⟨fault, herror⟩ | herror <;> cases herror
    · cases hresult

theorem exists_of_takeAs {kind : Kind} {parse : String → Except CalcError α} {value : α}
    (hresult : (takeAs kind parse last items).result = .ok value) :
    ∃ t, items = .ok t :: (takeAs kind parse last items).state ∧ t.kind = kind ∧
      parse t.text = .ok value := by
  rcases items with _ | ⟨error | t, later⟩
  · cases hresult
  · cases hresult
  · rw [takeAs] at hresult ⊢
    split at hresult
    · next hkind => exact ⟨t, by rw [if_pos hkind], hkind, hresult⟩
    · cases hresult

/-- Where an operator or a second number is wanted at the end, an expression is unfinished. -/
theorem begun_of_wants (hplain : Plain items) (hwants : Wants (takeAnswer last items)) :
    Begun items := by
  rw [takeAnswer] at hwants
  split at hwants
  · obtain ⟨position, kind, hresult⟩ := hwants
    cases hresult
  · next hgoing =>
    rcases hwants.of_andThen with hwants | ⟨e, -, position, kind, hresult⟩
    · rcases hwants.of_andThen with hwants | ⟨x, hx, hwants⟩
      · obtain rfl := eq_nil_of_wants parseNumber_error hplain hwants
        exact absurd rfl hgoing
      · -- the first number has been taken
        obtain ⟨a, hitems, hkind, hread⟩ := exists_of_takeAs hx
        rw [hitems] at hplain ⊢
        generalize (takeAs .decimal parseNumber last items).state = later at hwants hplain ⊢
        rcases hwants.of_andThen with hwants | ⟨op, hop, hwants⟩
        · obtain rfl := eq_nil_of_wants parseOperator_error hplain.tail hwants
          exact .number hkind hread
        · obtain ⟨b, hitems, hkind', hread'⟩ := exists_of_takeAs hop
          rw [hitems] at hplain ⊢
          generalize (takeAs .operator parseOperator last later).state = latest at hwants hplain ⊢
          rcases hwants.of_andThen with hwants | ⟨y, -, position, kind, hresult⟩
          · obtain rfl := eq_nil_of_wants parseNumber_error hplain.tail.tail hwants
            exact .operator hkind hread hkind' hread'
          · cases hresult
    · rw [evaluated] at hresult
      split at hresult <;> cases hresult

end Wants

/-! ## 4. Steps on expressions -/

section Steps

variable {α β : Type} {kind : Kind} {parse : String → Except CalcError α} {t : Token Kind} {value : α}
  (last : Position) (later : List Item)

theorem takeAs_of_read (hkind : t.kind = kind) (hread : parse t.text = .ok value)
    (next : α → List Item → ItemOutcome β) :
    (takeAs kind parse last (.ok t :: later)).andThen next = next value later := by
  rw [takeAs, if_pos hkind, hread]
  rfl

theorem takeAs_of_ne (hkind : t.kind ≠ kind) (next : α → List Item → ItemOutcome β) :
    (takeAs kind parse last (.ok t :: later)).andThen next =
      .fail (.lex ⟨t.position, .unexpected kind none (some t)⟩) later := by
  rw [takeAs, if_neg hkind]
  rfl

theorem takeAnswer_of_ne (hkind : t.kind ≠ .reserved) :
    takeAnswer last (.ok t :: later) = (takeExpression last (.ok t :: later)).andThen evaluated := by
  simp [takeAnswer, endsBefore, isExit, Lexer.suits, hkind]

theorem replies_nil : replies last [] = [] := by
  exact replies_of_none rfl

theorem replies_of_fail {items : List Item} {error : CalcError}
    (hfail : takeAnswer last items = .fail error later) (hrecover : error.isRecoverable = true) :
    replies last items = Session.errorLine error :: replies last later := by
  have hreply : reply last items = some (Session.errorLine error) := by
    rw [reply, hfail]
    simp only [Outcome.fail, hrecover, if_true]
  rw [replies_of_some hreply, hfail]
  rfl

theorem plain_of_kinds (ts : List (Token Kind)) (hts : ∀ t ∈ ts, t.kind ≠ .reserved) :
    Plain (ts.map .ok) := by
  rintro _ hitem
  obtain ⟨t, ht, rfl⟩ := List.mem_map.mp hitem
  refine ⟨?_, nofun⟩
  rintro _ ⟨⟩
  simp [isExit, Lexer.suits, hts t ht]

end Steps

section Expressions

variable {e : Expression} {items : List Item} (last : Position)

theorem Spelled.takeAnswer_eq (h : Spelled e items) : takeAnswer last items = evaluated e [] := by
  cases h with
  | expression lhsKind lhs opKind op rhsKind rhs =>
    rw [takeAnswer_of_ne _ _ (by simp [lhsKind]), takeExpression, takeAs_of_read last _ lhsKind lhs,
      takeAs_of_read last _ opKind op, takeAs_of_read last _ rhsKind rhs]
    rfl

theorem Spelled.plain (h : Spelled e items) : Plain items := by
  cases h with
  | @expression a b c lhsKind lhs opKind op rhsKind rhs =>
    exact plain_of_kinds [a, b, c] (by simp [lhsKind, opKind, rhsKind])

/-- An unfinished expression takes the first number of the expression behind it; what is left of that
one is passed over token by token. -/
theorem Spelled.getLast?_replies (h : Spelled e items) {front : List Item}
    (hfront : Begun front) (hplain : Plain (front ++ items)) :
    (replies last (front ++ items)).getLast? = some (Session.unfinishedLine last .operator) := by
  cases h with
  | @expression a b c lhsKind lhs opKind op rhsKind rhs =>
    have hstate : (takeAnswer last (front ++ [.ok a, .ok b, .ok c])).state = [.ok b, .ok c] := by
      cases hfront with
      | number lhsKind' lhs' =>
        rw [List.cons_append, List.nil_append, takeAnswer_of_ne _ _ (by simp [lhsKind']),
          takeExpression, takeAs_of_read last _ lhsKind' lhs', takeAs_of_ne last _ (by simp [lhsKind])]
        rfl
      | operator lhsKind' lhs' opKind' op' =>
        rw [List.cons_append, List.cons_append, List.nil_append,
          takeAnswer_of_ne _ _ (by simp [lhsKind']), takeExpression,
          takeAs_of_read last _ lhsKind' lhs', takeAs_of_read last _ opKind' op',
          takeAs_of_read last _ lhsKind lhs, Outcome.done, Outcome.andThen_ok rfl, evaluated]
        split <;> rfl
    have hmiddle : takeAnswer last [.ok b, .ok c] =
        .fail (.lex ⟨b.position, .unexpected .decimal none (some b)⟩) [.ok c] := by
      rw [takeAnswer_of_ne _ _ (by simp [opKind]), takeExpression,
        takeAs_of_ne last _ (by simp [opKind])]
      rfl
    have hrest : takeAnswer last [.ok c] = .fail (.lex ⟨last, .unexpected .operator none none⟩) [] := by
      rw [takeAnswer_of_ne _ _ (by simp [rhsKind]), takeExpression, takeAs_of_read last _ rhsKind rhs]
      rfl
    obtain ⟨line, hline⟩ := exists_reply last hplain (by simp)
    rw [replies_of_some hline, hstate, replies_of_fail last _ hmiddle rfl,
      replies_of_fail last _ hrest rfl, replies_nil, Session.errorLine_unexpected]
    rfl

end Expressions

/-! ## 5. Items in front of others -/

section Fronts

variable {last : Position} {front : List Item}

/-- A step that does not come to the end of the items is the same with more items behind them. -/
theorem exists_answer (hplain : Plain front) (hne : front ≠ [])
    (hwants : ¬ Wants (takeAnswer last front)) :
    ∃ line, reply last front = some line ∧ ∀ last' more,
      replies last' (front ++ more) = line :: replies last' ((takeAnswer last front).state ++ more) := by
  obtain ⟨line, hline⟩ := exists_reply last hplain hne
  refine ⟨line, hline, fun last' more => ?_⟩
  have hanswer := takeAnswer_append last' more hne hwants
  have hreply : reply last' (front ++ more) = some line := by
    rw [reply, hanswer]
    exact hline
  rw [replies_of_some hreply, hanswer]
  rfl

/-- Behind a front that leaves no expression unfinished, what follows is answered as by itself. -/
theorem replies_append_of_closed (last' : Position) (more : List Item) (hplain : Plain front)
    (hclosed : ∀ count, ¬ Wants (takeAnswer last (afterAnswers last front count))) :
    replies last' (front ++ more) = replies last front ++ replies last' more := by
  induction hlength : front.length using Nat.strongRecOn generalizing front with
  | _ length ih =>
    subst hlength
    by_cases hne : front = []
    · rw [hne, replies_nil]
      rfl
    · obtain ⟨line, hline, happend⟩ := exists_answer hplain hne (hclosed 0)
      rw [happend, replies_of_some hline, List.cons_append,
        ih _ (length_lt_of_reply hline) (tame_takeAnswer last hplain).plain
          (fun count => hclosed (count + 1)) rfl]

/-- Behind a front that leaves an expression unfinished, what follows leaves one unfinished too. -/
theorem getLast?_replies_of_open (last' : Position) {more : List Item} {e : Expression}
    (hplain : Plain front) (hopen : ∃ count, Wants (takeAnswer last (afterAnswers last front count)))
    (hmore : Spelled e more) :
    (replies last' (front ++ more)).getLast? = some (Session.unfinishedLine last' .operator) := by
  obtain ⟨count, hwants⟩ := hopen
  have hnow {front : List Item} (hplain : Plain front) (hwants : Wants (takeAnswer last front)) :
      (replies last' (front ++ more)).getLast? =
        some (Session.unfinishedLine last' .operator) :=
    hmore.getLast?_replies last' (begun_of_wants hplain hwants) (hplain.append hmore.plain)
  induction count generalizing front with
  | zero => exact hnow hplain hwants
  | succ count ih =>
    by_cases hhere : Wants (takeAnswer last front)
    · exact hnow hplain hhere
    · have hlast := ih (tame_takeAnswer last hplain).plain hwants
      by_cases hne : front = []
      · rw [hne] at hlast ⊢
        exact hlast
      · obtain ⟨line, hline, happend⟩ := exists_answer hplain hne hhere
        rw [happend, List.getLast?_cons, hlast]
        rfl

/-- At the end of the items nothing is wanted any more. -/
theorem not_wants_afterAnswers_nil (last : Position) (count : Nat) :
    ¬ Wants (takeAnswer last (afterAnswers last [] count)) := by
  induction count with
  | zero =>
    rintro ⟨position, kind, hresult⟩
    cases hresult
  | succ count ih => exact ih

end Fronts

/-! ## 6. Calculations behind other lines -/

theorem Spelled.map_below {e : Expression} {items : List Item} (h : Spelled e items) (lines : Nat) :
    Spelled e (items.map (StreamItem.below lines)) := by
  cases h with
  | expression lhsKind lhs opKind op rhsKind rhs =>
    exact .expression lhsKind lhs opKind op rhsKind rhs

open Lexer in
/-- A lexer in front of a calculation meets its three tokens and nothing else. -/
theorem spelled_sweep (c : Calculation) (trail : Gap) {reader : Reader}
    (hreader : reader.Delivers (encodeUtf8 (c.text ++ trail.text))) :
    Spelled c.expression ((Lexer.ofReader reader).addRules rules).sweep.1 := by
  have hcloses : Closes trail.text := by
    by_cases htrail : trail.text = []
    · rw [htrail]
      exact nofun
    · rw [← List.append_nil trail.text]
      exact .of_blank trail.isBlank_of_mem htrail []
  rw [← List.append_nil (encodeUtf8 _)] at hreader
  obtain ⟨ts, behind, htakes, hkinds, ⟨a, b, d, rfl, ha, hb, hd⟩, hbehind⟩ :=
    c.takes_of_faces rfl (faces_ofReader hreader (.inl rfl) rules) hcloses
  obtain ⟨hok, hend⟩ := hbehind.prime_of_blank trail.isBlank_of_mem
  have hlast : behind.sweep.1 = [] := by rw [sweep_eq, nextToken_of_endOfInput hok hend]
  simp only [Expression.kinds, List.map_cons, List.map_nil, List.cons.injEq, and_true] at hkinds
  rw [sweep_of_takes htakes, hlast]
  exact .expression hkinds.1 (parseNumber_eq_ok_iff.mpr ha) hkinds.2.1
    (parseOperator_eq_ok_iff.mpr hb) hkinds.2.2 (parseNumber_eq_ok_iff.mpr hd)

theorem isLineFeed_getLast? {text : List Char} (htext : ∀ d ∈ text.getLast?, d = '\n') :
    ∀ byte ∈ (encodeUtf8 text).getLast?, isLineFeed byte = true := by
  rcases List.eq_nil_or_concat' text with rfl | ⟨front, last, rfl⟩
  · exact nofun
  · obtain rfl : last = '\n' := htext last (by simp)
    have hfeed : encodeUtf8 ['\n'] = [10] := by decide
    rw [encodeUtf8_append, hfeed, List.getLast?_concat]
    rintro _ ⟨⟩
    rfl

/-- Behind other lines a lexer meets the tokens of a calculation after what it meets on these. -/
theorem exists_sweep_eq_append (c : Calculation) (trail : Gap) {front : List Char}
    (hfront : ∀ d ∈ front.getLast?, d = '\n') {alone whole : Reader}
    (halone : alone.Delivers (encodeUtf8 front))
    (hwhole : whole.Delivers (encodeUtf8 (front ++ (c.text ++ trail.text)))) :
    ∃ more, ((Lexer.ofReader whole).addRules rules).sweep.1 =
        ((Lexer.ofReader alone).addRules rules).sweep.1 ++ more ∧
      Spelled c.expression more := by
  have hlater := Reader.delivers_ofBytes (encodeUtf8 (c.text ++ trail.text))
  rw [encodeUtf8_append] at hwhole
  exact ⟨_, sweep_of_append isAnchored_of_mem_rules (isLineFeed_getLast? hfront) halone hlater hwhole,
    (spelled_sweep c trail hlater).map_below _⟩

/-- A calculation is answered by its line. -/
theorem Calculation.replies_eq (c : Calculation) {items : List Item} (h : Spelled c.expression items)
    (last : Position) : replies last items = [c.line] := by
  have hanswer := h.takeAnswer_eq last
  have hreply : reply last items = some c.line := by
    rw [reply, hanswer, evaluated, line, value?]
    cases evaluate? c.expression.lhs c.expression.op c.expression.rhs <;> rfl
  have hstate : (takeAnswer last items).state = [] := by
    rw [hanswer, evaluated]
    split <;> rfl
  rw [replies_of_some hreply, hstate, replies_nil]

end Calculator

open Calculator Lexer

namespace Session

/-! ## 7. Sessions -/

theorem inFrontOf_fresh (reader : Reader) {sink : Sink} (hsink : sink.NeverFails) :
    (fresh reader sink none).InFrontOf (fresh reader sink none).lexer.sweep.1
      (fresh reader sink none).lexer.sweep.2 :=
  ⟨hsink, rfl, rfl, rfl⟩

/-- The next step fails because the input ends where an operator or a second number is wanted. -/
def EndsShort (session : Session) : Prop :=
  ∃ position kind, session.step.result = .error (.lex ⟨position, .unexpected kind none none⟩)

theorem InFrontOf.endsShort_iff {session : Session} {items : List Item} {final : Lexer Kind}
    (h : session.InFrontOf items final) (count : Nat) :
    (session.afterTurns count).EndsShort ↔
      Wants (takeAnswer final.position (afterAnswers final.position items count)) :=
  exists_congr fun _ => exists_congr fun _ => (h.afterTurns count).step_eq_lex_iff

/-- In a text without the word `exit` where a token begins, a session meets plain items. -/
theorem plain_sweep {text : List Char} {reader : Reader} (hreader : reader.Delivers (encodeUtf8 text))
    (sink : Sink)
    (hexit : ∀ t, .ok t ∈ (fresh reader sink none).lexer.sweep.1 → isExit t = false) :
    Plain (fresh reader sink none).lexer.sweep.1 := by
  have htext : (fresh reader sink none).lexer.source.OfText := .inr ⟨reader, text, rfl, hreader⟩
  refine fun item hitem => ⟨?_, ?_⟩
  · rintro t rfl
    exact hexit t hitem
  · rintro error rfl
    exact unmatched_of_mem_sweep isAnchored_of_mem_rules htext rfl hitem

/-- The line of a calculation ends with a number, or with `zero`. -/
theorem exists_line_eq (c : Calculation) :
    ∃ front d, c.line.toList = front ++ [d, '\n'] ∧ d ∈ 'o' :: numberAlphabet := by
  rw [Calculation.line]
  split
  · next value _ =>
    obtain ⟨front, d, htext⟩ :=
      (List.eq_nil_or_concat' _).resolve_left (numberText_ne_nil value)
    refine ⟨front, d, ?_, List.mem_cons_of_mem _ (numberText_subset value (by simp [htext]))⟩
    rw [valueLine, String.toList_append, htext, List.append_assoc]
    rfl
  · exact ⟨"error: division by zer".toList, 'o', by decide, List.mem_cons_self⟩

theorem exists_unfinishedLine_eq (position : Position) (kind : Kind) :
    ∃ front, (unfinishedLine position kind).toList = front ++ ['t', '\n'] := by
  have hback : ", found end of input\n".toList = ", found end of inpu".toList ++ ['t', '\n'] := by
    decide
  rw [unfinishedLine, String.toList_append, hback, ← List.append_assoc]
  exact ⟨_, rfl⟩

/-- The line of a calculation is not what an unfinished expression is answered by. -/
theorem line_not_suffix (c : Calculation) (before : List UInt8) (position : Position) (kind : Kind) :
    ¬ encodeUtf8 c.line.toList <:+ before ++ encodeUtf8 (unfinishedLine position kind).toList := by
  obtain ⟨front, d, hline, hd⟩ := exists_line_eq c
  obtain ⟨front', hunfinished⟩ := exists_unfinishedLine_eq position kind
  -- both end in a byte and a line feed, and the bytes differ
  have hbytes : ('o' :: numberAlphabet).all (fun d => (encodeUtf8 [d, '\n']).length == 2 &&
      encodeUtf8 [d, '\n'] != encodeUtf8 ['t', '\n']) = true := by decide +kernel
  obtain ⟨hlength, hne⟩ : (encodeUtf8 [d, '\n']).length = 2 ∧
      encodeUtf8 [d, '\n'] ≠ encodeUtf8 ['t', '\n'] := by
    simpa using List.all_eq_true.mp hbytes d hd
  rintro ⟨more, heq⟩
  rw [hline, hunfinished, encodeUtf8_append, encodeUtf8_append, ← List.append_assoc,
    ← List.append_assoc] at heq
  exact hne (List.append_inj_right' heq hlength)

/-- Behind lines without the word `exit` that leave no expression unfinished, a calculation is answered
by its line, and for the lines in front of it is written what is written for them alone.  Behind lines
that do leave an expression unfinished, the last line is not that of the calculation: it says that the
input ends where an operator is wanted. -/
theorem written_of_lines (c : Calculation) (trail : Gap) {front : List Char}
    (hfront : ∀ d ∈ front.getLast?, d = '\n') {alone whole : Reader}
    (halone : alone.Delivers (encodeUtf8 front))
    (hwhole : whole.Delivers (encodeUtf8 (front ++ (c.text ++ trail.text)))) {sink : Sink}
    (hsink : sink.NeverFails) :
    ∃ first second, start alone sink none = .ok first ∧ start whole sink none = .ok second ∧
      ((∀ t, .ok t ∈ first.lexer.sweep.1 → isExit t = false) →
        ((∀ count, ¬ (first.afterTurns count).EndsShort) →
          second.run.state.sink.written =
            first.run.state.sink.written ++ encodeUtf8 c.line.toList) ∧
        ((∃ count, (first.afterTurns count).EndsShort) →
          ¬ encodeUtf8 c.line.toList <:+ second.run.state.sink.written ∧
          ∃ before position, second.run.state.sink.written =
            before ++ encodeUtf8 (unfinishedLine position .operator).toList)) := by
  obtain ⟨more, hitems, hmore⟩ := exists_sweep_eq_append c trail hfront halone hwhole
  have hfirst := inFrontOf_fresh alone hsink
  have hsecond := inFrontOf_fresh whole hsink
  have hwritten := hsecond.written_run
  rw [show (fresh whole sink none).lexer.sweep.1 = (fresh alone sink none).lexer.sweep.1 ++ more
    from hitems] at hwritten
  refine ⟨_, _, start_eq alone sink none, start_eq whole sink none, fun hexit => ?_⟩
  have hplain := plain_sweep halone sink hexit
  refine ⟨fun hclosed => ?_, fun ⟨count, hopen⟩ => ?_⟩
  · have hreplies := replies_append_of_closed (fresh whole sink none).lexer.sweep.2.position more
      hplain fun count => (hfirst.endsShort_iff count).not.mp (hclosed count)
    rw [hwritten, hreplies, c.replies_eq hmore, hfirst.written_run, List.flatMap_append,
      List.flatMap_singleton, encodeUtf8_append, List.append_assoc]
    rfl
  · have hlast := getLast?_replies_of_open (fresh whole sink none).lexer.sweep.2.position hplain
      ⟨count, (hfirst.endsShort_iff count).mp hopen⟩ hmore
    obtain ⟨earlier, hreplies⟩ := List.getLast?_eq_some_iff.mp hlast
    rw [hwritten, hreplies, List.flatMap_append, List.flatMap_singleton, encodeUtf8_append,
      ← List.append_assoc]
    exact ⟨line_not_suffix c _ _ _, _, _, rfl⟩

/-- Text that no rule matches ends an expression before its line ends. -/
theorem written_of_lines_unmatched :
    ∃ first second, start (.ofBytes (encodeUtf8 "2 + $\n".toList)) .unbounded none = .ok first ∧
      start (.ofBytes (encodeUtf8 "2 + $\n1+2.5\n".toList)) .unbounded none = .ok second ∧
      second.run.state.sink.written =
        first.run.state.sink.written ++ encodeUtf8 Calculation.sum.line.toList := by
  have hsink : Sink.unbounded.NeverFails := ⟨rfl, rfl⟩
  obtain ⟨first, second, hfirst, hsecond, hlines⟩ :=
    written_of_lines .sum ⟨['\n'], by decide⟩ (by simp) (Reader.delivers_ofBytes _)
      (Reader.delivers_ofBytes (encodeUtf8 ("2 + $\n".toList ++ (Calculation.sum.text ++ ['\n']))))
      hsink
  refine ⟨first, second, hfirst, hsecond, ?_⟩
  rw [start_eq] at hfirst
  cases hfirst
  have hitems : (fresh (.ofBytes (encodeUtf8 "2 + $\n".toList)) .unbounded none).lexer.sweep.1 =
      [.ok ⟨.decimal, "2", ⟨1, 0⟩⟩, .ok ⟨.operator, "+", ⟨1, 1⟩⟩,
        .error ⟨⟨1, 2⟩, .unmatched "$"⟩] := by decide +kernel
  refine (hlines ?_).1 fun count => ?_
  · rw [hitems]
    simp [isExit, suits]
  · have hfront := inFrontOf_fresh (.ofBytes (encodeUtf8 "2 + $\n".toList)) hsink
    rw [hfront.endsShort_iff, hitems]
    cases count with
    | zero =>
      rintro ⟨position, kind, hresult⟩
      cases hresult
    | succ count => exact not_wants_afterAnswers_nil _ count

/-- A number on a line of its own is the first number of an expression that goes on on the next line:
the sum there is not answered. -/
theorem written_behind_number :
    ∃ first second, start (.ofBytes (encodeUtf8 "1\n".toList)) .unbounded none = .ok first ∧
      start (.ofBytes (encodeUtf8 ("1\n".toList ++ (Calculation.sum.text ++ ['\n'])))) .unbounded none =
        .ok second ∧
      (∀ t, .ok t ∈ first.lexer.sweep.1 → isExit t = false) ∧
      second.run.state.sink.written = encodeUtf8
        ("error: line 2, column 1: expected Operator, found Decimal \x601\x60\n" ++
          "error: line 2, column 2: expected Decimal, found Operator \x60+\x60\n").toList ++
        encodeUtf8 (unfinishedLine ⟨2, 5⟩ .operator).toList ∧
      ¬ encodeUtf8 Calculation.sum.line.toList <:+ second.run.state.sink.written := by
  refine ⟨_, _, start_eq .., start_eq .., ?_, ?_⟩
  · have hitems : (fresh (.ofBytes (encodeUtf8 "1\n".toList)) .unbounded none).lexer.sweep.1 =
        [.ok ⟨.decimal, "1", ⟨1, 0⟩⟩] := by decide +kernel
    rw [hitems]
    simp [isExit, suits]
  · have hwritten : (fresh (.ofBytes (encodeUtf8 ("1\n".toList ++ (Calculation.sum.text ++ ['\n']))))
        .unbounded none).run.state.sink.written = encodeUtf8
          ("error: line 2, column 1: expected Operator, found Decimal \x601\x60\n" ++
            "error: line 2, column 2: expected Decimal, found Operator \x60+\x60\n").toList ++
          encodeUtf8 (unfinishedLine ⟨2, 5⟩ .operator).toList := by decide +kernel
    rw [hwritten]
    exact ⟨rfl, line_not_suffix .sum _ _ _⟩

end Session

end Linewise
