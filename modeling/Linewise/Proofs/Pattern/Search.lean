import Linewise.Pattern
import Linewise.Proofs.Pattern.Frontier
import Mathlib.Data.List.TakeWhile

/-!
# Searching — the match found is one that the pattern accepts, and begins first

`Searching` is what holds when the search comes to a place: threads stand in the order in which
they began, each has come from the beginning of the program, and none began behind the best match.
-/

namespace Linewise

namespace Program

/-! ## 1. The invariant -/

/-- Whether a state is reached from the beginning of the program at a place where threads begin. -/
def Began (program : Program) (text : List Char) (entry : Nat) (anchored : Bool) (origin : Nat)
    (state : Nat × Nat) : Prop :=
  (anchored = true → origin = 0) ∧ ∃ count, program.Path text count (entry, origin) state

/-- What holds of the threads and the best match when the search comes to a place. -/
structure Searching (program : Program) (text : List Char) (entry : Nat) (anchored : Bool)
    (index : Nat) (threads : List Thread) (best : Option Match) : Prop where
  sorted : threads.Pairwise fun s t => s.origin ≤ t.origin
  began : ∀ t ∈ threads, program.Began text entry anchored t.origin (t.pc, index)
  origin_le : ∀ t ∈ threads, t.origin ≤ index
  found : ∀ m ∈ best, program.Began text entry anchored m.start (0, m.stop)
  start_le : ∀ m ∈ best, m.start ≤ index
  origin_le_start : ∀ m ∈ best, ∀ t ∈ threads, t.origin ≤ m.start

/-- The search stands at a place of the text: the last character read and the unread text. -/
structure StandsAt (text : List Char) (index : Nat) (before : Option Char) (rest : List Char) :
    Prop where
  before_eq : before = (text.take index).getLast?
  rest_eq : rest = text.drop index

namespace StandsAt

variable {text rest : List Char} {index : Nat} {before : Option Char}

theorem start (text : List Char) : StandsAt text 0 none text := ⟨by simp, by simp⟩

theorem getElem?_eq (h : StandsAt text index before rest) : text[index]? = rest.head? := by
  rw [h.rest_eq, List.head?_drop]

theorem place (h : StandsAt text index before rest) :
    (⟨index, before, rest.head?⟩ : Place) = .ofText text index := by
  rw [Place.ofText, h.getElem?_eq, h.before_eq]

theorem next {c : Char} (h : StandsAt text index before (c :: rest)) :
    text[index]? = some c ∧ StandsAt text (index + 1) (some c) rest := by
  have hchar : text[index]? = some c := h.getElem?_eq
  refine ⟨hchar, ?_, ?_⟩
  · simp [List.take_add_one, hchar]
  · rw [← List.drop_drop, ← h.rest_eq]
    rfl

end StandsAt

def fresh (entry : Nat) (anchored : Bool) (index : Nat) (best : Option Match) : List Thread :=
  if best.isNone && (index == 0 || !anchored) then [⟨entry, index, []⟩] else []

/-- The best match once the threads of a place are settled. -/
def improved (program : Program) (index : Nat) (settled : List Thread) (best : Option Match) :
    Option Match :=
  match settled.find? program.accepts with
  | some thread => some ⟨thread.origin, index, thread.marks⟩
  | none => best

section Run

variable {program : Program} {text : List Char} {entry : Nat} {anchored : Bool} {index : Nat}
  {threads : List Thread} {best : Option Match}

theorem run_nil {before : Option Char} :
    program.run entry anchored index before [] threads best =
      program.improved index
        (program.settle ⟨index, before, none⟩ (threads ++ fresh entry anchored index best)) best := by
  rw [run]
  rfl

theorem run_cons {before : Option Char} {c : Char} {rest : List Char} :
    program.run entry anchored index before (c :: rest) threads best =
      (let settled := program.settle ⟨index, before, some c⟩
        (threads ++ fresh entry anchored index best)
      let next := (settled.takeWhile fun t => !program.accepts t).filterMap (program.read? c)
      let better := program.improved index settled best
      if next.isEmpty && (better.isSome || anchored) then better
      else program.run entry anchored (index + 1) (some c) rest next better) := by
  rw [run]
  rfl

theorem fresh_of_begins (hplace : index = 0 ∨ anchored = false) :
    fresh entry anchored index none = [⟨entry, index, []⟩] := by
  rcases hplace with rfl | rfl <;> simp [fresh]

/-- Whether a thread of the place has accepted, and where it stands if one has. -/
theorem improved_cases (program : Program) (index : Nat) (threads : List Thread)
    (best : Option Match) :
    (threads.find? program.accepts = none ∧
        (threads.takeWhile fun t => !program.accepts t) = threads ∧
        program.improved index threads best = best) ∨
      ∃ accepted behind, program.accepts accepted = true ∧
        threads = (threads.takeWhile fun t => !program.accepts t) ++ accepted :: behind ∧
        program.improved index threads best =
          some ⟨accepted.origin, index, accepted.marks⟩ := by
  cases hfind : threads.find? program.accepts with
  | none =>
    refine .inl ⟨rfl, ?_, by rw [improved, hfind]⟩
    rw [List.takeWhile_eq_self_iff]
    simpa using hfind
  | some accepted =>
    obtain ⟨haccepts, front, behind, rfl, hfront⟩ := List.find?_eq_some_iff_append.mp hfind
    refine .inr ⟨accepted, behind, haccepts, ?_, by rw [improved, hfind]⟩
    rw [List.takeWhile_append_of_pos (by simpa using hfront),
      List.takeWhile_cons_of_neg (by simp [haccepts]), List.append_nil]

theorem step_of_read? {c : Char} (hchar : text[index]? = some c) {source thread : Thread}
    (hread : program.read? c source = some thread) :
    thread.origin = source.origin ∧
      program.Step text (source.pc, index) (thread.pc, index + 1) := by
  rw [read?] at hread
  split at hread
  · next hhere =>
    split at hread
    · next hfits =>
      cases hread
      exact ⟨rfl, .read hhere hchar hfits⟩
    · cases hread
  · cases hread

namespace Searching

theorem append_fresh (h : program.Searching text entry anchored index threads best) :
    program.Searching text entry anchored index (threads ++ fresh entry anchored index best)
      best := by
  by_cases hfresh : best.isNone && (index == 0 || !anchored)
  · simp only [Bool.and_eq_true, Option.isNone_iff_eq_none, Bool.or_eq_true, beq_iff_eq,
      Bool.not_eq_true'] at hfresh
    obtain ⟨rfl, hplace⟩ := hfresh
    rw [fresh_of_begins hplace]
    refine ⟨?_, fun t ht => ?_, fun t ht => ?_, nofun, nofun, nofun⟩
    · rw [List.pairwise_append]
      refine ⟨h.sorted, by simp, fun s hs t ht => ?_⟩
      rw [List.mem_singleton.mp ht]
      exact h.origin_le s hs
    · rcases List.mem_append.mp ht with hold | hnew
      · exact h.began t hold
      · rw [List.mem_singleton.mp hnew]
        exact ⟨fun hanchored => by simpa [hanchored] using hplace, 0, .refl _⟩
    · rcases List.mem_append.mp ht with hold | hnew
      · exact h.origin_le t hold
      · rw [List.mem_singleton.mp hnew]
  · rw [fresh, if_neg hfresh, List.append_nil]
    exact h

theorem settle (h : program.Searching text entry anchored index threads best) :
    program.Searching text entry anchored index
      (program.settle (.ofText text index) threads) best where
  sorted := pairwise_settle h.sorted
  began t ht := by
    obtain ⟨source, hsource, horigin, m, hm⟩ := exists_source_of_mem_settle ht
    obtain ⟨hplace, n, hn⟩ := h.began source hsource
    rw [horigin]
    exact ⟨hplace, hn.trans hm⟩
  origin_le t ht := by
    obtain ⟨source, hsource, horigin, -⟩ := exists_source_of_mem_settle ht
    rw [horigin]
    exact h.origin_le source hsource
  found := h.found
  start_le := h.start_le
  origin_le_start m hm t ht := by
    obtain ⟨source, hsource, horigin, -⟩ := exists_source_of_mem_settle ht
    rw [horigin]
    exact h.origin_le_start m hm source hsource

/-- The threads in front of the first one that has accepted, and the match of that one. -/
theorem improve (h : program.Searching text entry anchored index threads best)
    (haccept : ∀ pc, program[pc]? = some .accept → pc = 0) :
    program.Searching text entry anchored index
      (threads.takeWhile fun t => !program.accepts t) (program.improved index threads best) := by
  rcases program.improved_cases index threads best with ⟨-, hwaiting, hbest⟩ |
      ⟨accepted, behind, haccepts, hthreads, hbest⟩
  · rw [hwaiting, hbest]
    exact h
  -- a thread has accepted: those in front of it wait on, those behind it are given up
  rw [hbest]
  generalize (threads.takeWhile fun t => !program.accepts t) = waiting at hthreads ⊢
  subst hthreads
  obtain ⟨hwaiting, -, hfront⟩ := List.pairwise_append.mp h.sorted
  have hmem : accepted ∈ waiting ++ accepted :: behind := by simp
  have hpc : accepted.pc = 0 := haccept _ (by simpa [accepts] using haccepts)
  refine ⟨hwaiting, fun t ht => h.began t (List.mem_append_left _ ht),
    fun t ht => h.origin_le t (List.mem_append_left _ ht), ?_, ?_, ?_⟩
  · rintro _ ⟨⟩
    rw [← hpc]
    exact h.began accepted hmem
  · rintro _ ⟨⟩
    exact h.origin_le accepted hmem
  · rintro _ ⟨⟩ t ht
    exact hfront t ht accepted List.mem_cons_self

theorem read (h : program.Searching text entry anchored index threads best) {c : Char}
    (hchar : text[index]? = some c) :
    program.Searching text entry anchored (index + 1) (threads.filterMap (program.read? c))
      best where
  sorted := by
    refine h.sorted.filterMap _ fun s t hst s' hs' t' ht' => ?_
    rwa [(step_of_read? hchar hs').1, (step_of_read? hchar ht').1]
  began t ht := by
    obtain ⟨source, hsource, hread⟩ := List.mem_filterMap.mp ht
    obtain ⟨horigin, hstep⟩ := step_of_read? hchar hread
    obtain ⟨hplace, count, hpath⟩ := h.began source hsource
    rw [horigin]
    exact ⟨hplace, hpath.trans (.head hstep (.refl _))⟩
  origin_le t ht := by
    obtain ⟨source, hsource, hread⟩ := List.mem_filterMap.mp ht
    rw [(step_of_read? hchar hread).1]
    exact Nat.le_succ_of_le (h.origin_le source hsource)
  found := h.found
  start_le m hm := Nat.le_succ_of_le (h.start_le m hm)
  origin_le_start m hm t ht := by
    obtain ⟨source, hsource, hread⟩ := List.mem_filterMap.mp ht
    rw [(step_of_read? hchar hread).1]
    exact h.origin_le_start m hm source hsource

end Searching

/-! ## 2. What is found is accepted -/

theorem Searching.settled (h : program.Searching text entry anchored index threads best)
    (haccept : ∀ pc, program[pc]? = some .accept → pc = 0) :
    program.Searching text entry anchored index
      ((program.settle (.ofText text index)
        (threads ++ fresh entry anchored index best)).takeWhile fun t => !program.accepts t)
      (program.improved index (program.settle (.ofText text index)
        (threads ++ fresh entry anchored index best)) best) :=
  h.append_fresh.settle.improve haccept

theorem began_of_run (haccept : ∀ pc, program[pc]? = some .accept → pc = 0)
    {before : Option Char} {rest : List Char} {m : Match}
    (hat : StandsAt text index before rest)
    (h : program.Searching text entry anchored index threads best)
    (hrun : program.run entry anchored index before rest threads best = some m) :
    program.Began text entry anchored m.start (0, m.stop) := by
  -- character by character: the threads that wait on satisfy the invariant at the next place
  induction rest generalizing index before threads best with
  | nil =>
    have hsettled := h.settled haccept
    rw [← hat.place] at hsettled
    rw [run_nil] at hrun
    exact hsettled.found m hrun
  | cons c rest ih =>
    have hsettled := h.settled haccept
    rw [← hat.place] at hsettled
    rw [run_cons] at hrun
    simp only at hrun
    split at hrun
    · exact hsettled.found m hrun
    · obtain ⟨hchar, hnext⟩ := hat.next
      exact ih hnext (hsettled.read hchar) hrun

/-! ## 3. What is accepted first is found -/

/-- The search has found a match that begins no later than `limit`, or has a thread that will. -/
def Keeps (program : Program) (text : List Char) (index limit last : Nat) (threads : List Thread)
    (best : Option Match) : Prop :=
  (∃ m ∈ best, m.start ≤ limit) ∨
    ∃ t ∈ threads, t.origin ≤ limit ∧ ∃ count, program.Path text count (t.pc, index) (0, last)

section Keeps

variable {limit last : Nat}

theorem Searching.exists_improved (h : program.Searching text entry anchored index threads best)
    (hbest : ∃ m ∈ best, m.start ≤ limit) :
    ∃ m ∈ program.improved index threads best, m.start ≤ limit := by
  obtain ⟨m, hm, hstart⟩ := hbest
  rcases program.improved_cases index threads best with ⟨-, -, hbetter⟩ |
      ⟨accepted, behind, -, hthreads, hbetter⟩
  · rw [hbetter]
    exact ⟨m, hm, hstart⟩
  · -- a new match replaces the best one only from further in front
    rw [hbetter]
    have hle := h.origin_le_start m hm accepted (by rw [hthreads]; simp)
    exact ⟨_, rfl, Nat.le_trans hle hstart⟩

-- A thread gives way only to one that has accepted and began no later.
theorem Searching.mem_waiting_or (h : program.Searching text entry anchored index threads best)
    {t : Thread} (ht : t ∈ threads) (horigin : t.origin ≤ limit) :
    t ∈ threads.takeWhile (fun t => !program.accepts t) ∨
      ∃ m ∈ program.improved index threads best, m.start ≤ limit := by
  rcases program.improved_cases index threads best with ⟨-, hwaiting, -⟩ |
      ⟨accepted, behind, -, hthreads, hbetter⟩
  · rw [hwaiting]
    exact .inl ht
  · have hsorted := h.sorted
    rw [hthreads] at ht hsorted
    rcases List.mem_append.mp ht with hfront | hrest
    · exact .inl hfront
    · right
      rw [hbetter]
      refine ⟨_, rfl, ?_⟩
      rcases List.mem_cons.mp hrest with rfl | hbehind
      · exact horigin
      · have hle := (List.pairwise_cons.mp (List.pairwise_append.mp hsorted).2.1).1 t hbehind
        exact Nat.le_trans hle horigin

/-- What is kept is found at this place or kept at the next one. -/
theorem Searching.keeps_settle (h : program.Searching text entry anchored index threads best)
    (hzero : program[0]? = some .accept)
    (hkeeps : program.Keeps text index limit last threads best) :
    (∃ m ∈ program.improved index (program.settle (.ofText text index) threads) best,
        m.start ≤ limit) ∨
      ∃ c, text[index]? = some c ∧ program.Keeps text (index + 1) limit last
        (((program.settle (.ofText text index) threads).takeWhile
          fun t => !program.accepts t).filterMap (program.read? c))
        (program.improved index (program.settle (.ofText text index) threads) best) := by
  rcases hkeeps with hbest | ⟨t, ht, horigin, count, hpath⟩
  · exact .inl (h.settle.exists_improved hbest)
  obtain ⟨settled, hsettled, hle, hend | ⟨c, next, rest, hchar, hread, hrest⟩⟩ :=
    exists_mem_settle hzero h.sorted ht hpath
  · -- the thread has accepted, so it does not wait
    rcases h.settle.mem_waiting_or hsettled (Nat.le_trans hle horigin) with hwaits | hfound
    · have hnot := List.mem_takeWhile_imp hwaits
      simp [accepts, hend.1, hzero] at hnot
    · exact .inl hfound
  · rcases h.settle.mem_waiting_or hsettled (Nat.le_trans hle horigin) with hwaits | hfound
    · refine .inr ⟨c, hchar, .inr ⟨next, List.mem_filterMap.mpr ⟨settled, hwaits, hread⟩, ?_,
        rest, hrest⟩⟩
      rw [(step_of_read? hchar hread).1]
      exact Nat.le_trans hle horigin
    · exact .inl hfound

/-- Whether the program still gets to accept at a place where threads will begin. -/
def Awaits (program : Program) (text : List Char) (entry : Nat) (anchored : Bool)
    (index limit last : Nat) : Prop :=
  index ≤ limit ∧ (limit = 0 ∨ anchored = false) ∧
    ∃ count, program.Path text count (entry, limit) (0, last)

-- A thread begins at the place that is awaited, unless there is a match from further in front.
theorem Searching.keeps_fresh (h : program.Searching text entry anchored index threads best)
    (hawaits : program.Awaits text entry anchored index limit last) :
    program.Keeps text index limit last (threads ++ fresh entry anchored index best) best ∨
      (anchored = false ∧ program.Awaits text entry anchored (index + 1) limit last) := by
  obtain ⟨hindex, hplace, count, hpath⟩ := hawaits
  cases best with
  | some m => exact .inl (.inl ⟨m, rfl, Nat.le_trans (h.start_le m rfl) hindex⟩)
  | none =>
    by_cases hhere : index = limit
    · subst hhere
      rw [fresh_of_begins hplace]
      exact .inl (.inr ⟨⟨entry, index, []⟩, by simp, Nat.le_refl _, count, hpath⟩)
    · exact .inr ⟨hplace.resolve_left (by omega), by omega, hplace, count, hpath⟩

/-- What is awaited or kept at a place is found there, or awaited or kept at the next one. -/
theorem Searching.keeps_next (h : program.Searching text entry anchored index threads best)
    (hzero : program[0]? = some .accept) (hlimit : limit ≤ text.length)
    (hpending : program.Keeps text index limit last threads best ∨
      program.Awaits text entry anchored index limit last) :
    let settled := program.settle (.ofText text index)
      (threads ++ fresh entry anchored index best)
    let better := program.improved index settled best
    (∃ m ∈ better, m.start ≤ limit) ∨
      ∃ c, text[index]? = some c ∧
        (program.Keeps text (index + 1) limit last
            ((settled.takeWhile fun t => !program.accepts t).filterMap (program.read? c)) better ∨
          (anchored = false ∧ program.Awaits text entry anchored (index + 1) limit last)) := by
  intro settled better
  have hkeeps : program.Keeps text index limit last
      (threads ++ fresh entry anchored index best) best ∨
      (anchored = false ∧ program.Awaits text entry anchored (index + 1) limit last) := by
    rcases hpending with hkeeps | hawaits
    · exact .inl (hkeeps.imp_right fun ⟨t, ht, hrest⟩ => ⟨t, List.mem_append_left _ ht, hrest⟩)
    · exact h.keeps_fresh hawaits
  rcases hkeeps with hkeeps | hawaits
  · rcases h.append_fresh.keeps_settle hzero hkeeps with hfound | ⟨c, hchar, hnext⟩
    · exact .inl hfound
    · exact .inr ⟨c, hchar, .inl hnext⟩
  · have hlt : index < text.length := Nat.lt_of_lt_of_le hawaits.2.1 hlimit
    exact .inr ⟨text[index], List.getElem?_eq_getElem hlt, .inr hawaits⟩

theorem exists_run_of_keeps (haccept : ∀ pc, program[pc]? = some .accept ↔ pc = 0)
    {before : Option Char} {rest : List Char} (hat : StandsAt text index before rest)
    (h : program.Searching text entry anchored index threads best) (hlimit : limit ≤ text.length)
    (hpending : program.Keeps text index limit last threads best ∨
      program.Awaits text entry anchored index limit last) :
    ∃ m, program.run entry anchored index before rest threads best = some m ∧
      m.start ≤ limit := by
  induction rest generalizing index before threads best with
  | nil =>
    have hnext := h.keeps_next ((haccept 0).mpr rfl) hlimit hpending
    rw [← hat.place] at hnext
    rw [run_nil]
    rcases hnext with hfound | ⟨c, hchar, -⟩
    · exact hfound
    · exact absurd hchar (by simp [hat.getElem?_eq])
  | cons c rest ih =>
    have hsettled := h.settled fun pc => (haccept pc).mp
    have hnext := h.keeps_next ((haccept 0).mpr rfl) hlimit hpending
    obtain ⟨hchar, hat'⟩ := hat.next
    rw [← hat.place] at hsettled hnext
    rw [run_cons]
    simp only
    split
    · next hover =>
      -- no thread is left, so if threads will still begin there is a match
      rw [Bool.and_eq_true, List.isEmpty_iff, Bool.or_eq_true] at hover
      obtain ⟨hempty, hstop⟩ := hover
      rcases hnext with hfound | ⟨d, hd, (hfound | ⟨t, ht, -⟩) | ⟨hfree, hawaits⟩⟩
      · exact hfound
      · exact hfound
      · cases hchar.symm.trans hd
        exact absurd (hempty ▸ ht) List.not_mem_nil
      · obtain ⟨m, hm⟩ := Option.isSome_iff_exists.mp (hstop.resolve_right (by simp [hfree]))
        exact ⟨m, hm, Nat.le_trans (hsettled.start_le m hm) (Nat.le_of_lt hawaits.1)⟩
    · apply ih hat' (hsettled.read hchar)
      rcases hnext with hfound | ⟨d, hd, hkeeps | ⟨-, hawaits⟩⟩
      · exact .inl (.inl hfound)
      · cases hchar.symm.trans hd
        exact .inl hkeeps
      · exact .inr hawaits

end Keeps

end Run

end Program

/-! ## 4. The match of a pattern -/

namespace Pattern

variable {node : Node} {text : List Char}

theorem searching_nil (pattern : Pattern) (text : List Char) :
    pattern.program.Searching text pattern.entry pattern.anchored 0 [] none :=
  ⟨.nil, nofun, nofun, nofun, nofun, nofun⟩

/-- The pattern accepts what is found, and what its shape ties to the beginning is found there. -/
theorem accepts_of_find? {m : Match} (hfind : (ofNode node).find? text = some m) :
    node.Accepts text m.start m.stop ∧ (node.isAnchored = true → m.start = 0) := by
  obtain ⟨hplace, hpath⟩ := Program.began_of_run (fun pc => (node.accept_program_iff pc).mp)
    (.start text) (searching_nil (ofNode node) text) hfind
  exact ⟨(node.path_program_iff text m.start m.stop).mp hpath, hplace⟩

/-- If the pattern accepts at a place where matches may begin, the match found begins no later. -/
theorem exists_find?_of_accepts {start stop : Nat} (hstart : start ≤ text.length)
    (hplace : start = 0 ∨ node.isAnchored = false) (haccepts : node.Accepts text start stop) :
    ∃ m, (ofNode node).find? text = some m ∧ m.start ≤ start := by
  have hpath := (node.path_program_iff text start stop).mpr haccepts
  exact Program.exists_run_of_keeps node.accept_program_iff (.start text)
    (searching_nil (ofNode node) text) hstart (.inr ⟨Nat.zero_le _, hplace, hpath⟩)

/-- What is found begins at the beginning exactly if the pattern accepts there. -/
theorem start_eq_zero_iff {m : Match} (hfind : (ofNode node).find? text = some m) :
    m.start = 0 ↔ ∃ stop, node.Accepts text 0 stop := by
  constructor
  · intro hstart
    have haccepts := (accepts_of_find? hfind).1
    rw [hstart] at haccepts
    exact ⟨m.stop, haccepts⟩
  · rintro ⟨stop, haccepts⟩
    obtain ⟨found, hfound, hle⟩ := exists_find?_of_accepts (Nat.zero_le _) (.inl rfl) haccepts
    cases hfind.symm.trans hfound
    omega

end Pattern

end Linewise
