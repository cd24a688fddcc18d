import Linewise.Pattern.Search
import Linewise.Proofs.Pattern.Layout
import Mathlib.Data.Finset.Card
import Mathlib.Data.Finset.Range
import Mathlib.Data.List.Induction

/-!
# Frontiers — the threads of one place

Threads are followed one after another through the instructions that read nothing.  `Settled` says
what a frontier is worth after that: the instructions reached are closed under going on, whatever
waits there has a thread, and every thread comes from one that was followed.
-/

namespace Linewise

/-! ## 1. Following a thread -/

/-- The place of a text with the given number. -/
def Place.ofText (text : List Char) (index : Nat) : Place :=
  ⟨index, (text.take index).getLast?, text[index]?⟩

/-- Whether a thread at the instruction waits for a character or has accepted. -/
def Instr.waits : Instr → Bool
  | .chars _ _ | .accept => true
  | .look _ _ | .mark _ _ | .fork _ _ => false

/-- The thread began where the given one began, and it is reached from it. -/
structure Thread.Follows (program : Program) (text : List Char) (index : Nat)
    (source thread : Thread) : Prop where
  origin_eq : thread.origin = source.origin
  path : ∃ count, program.Path text count (source.pc, index) (thread.pc, index)

theorem Thread.Follows.refl {program : Program} {text : List Char} {index : Nat}
    (thread : Thread) : thread.Follows program text index thread :=
  ⟨rfl, 0, .refl _⟩

theorem Thread.Follows.head {program : Program} {text : List Char} {index : Nat}
    {next thread : Thread} (h : next.Follows program text index thread) {source : Thread}
    {instr : Instr} (hhere : program[source.pc]? = some instr)
    (hnext : next.pc ∈ instr.passes text index) (horigin : next.origin = source.origin) :
    source.Follows program text index thread := by
  obtain ⟨horigin', count, hpath⟩ := h
  exact ⟨horigin'.trans horigin, count + 1, .head (.pass hhere hnext) hpath⟩

namespace Frontier

/-- A frontier grows by threads with the property `P`: what it reaches anew is closed under going
on, and whatever waits there has got such a thread. -/
structure Grows (program : Program) (text : List Char) (index : Nat) (P : Thread → Prop)
    (before after : Frontier) : Prop where
  seen_subset : before.seen ⊆ after.seen
  closed : ∀ pc ∈ after.seen, pc ∉ before.seen → ∀ instr, program[pc]? = some instr →
    ∀ next ∈ instr.passes text index, next ∈ after.seen
  waiting : ∀ pc ∈ after.seen, pc ∉ before.seen → ∀ instr, program[pc]? = some instr →
    instr.waits = true → ∃ thread ∈ after.threads, thread.pc = pc ∧ P thread
  threads : ∃ added, after.threads = added ++ before.threads ∧ ∀ thread ∈ added, P thread

section Grows

variable {program : Program} {text : List Char} {index : Nat} {P Q : Thread → Prop}
  {first second third : Frontier}

theorem Grows.refl (frontier : Frontier) : frontier.Grows program text index P frontier where
  seen_subset := List.Subset.refl _
  closed _ hmem hnot := absurd hmem hnot
  waiting _ hmem hnot := absurd hmem hnot
  threads := ⟨[], rfl, nofun⟩

theorem Grows.mem_threads (h : first.Grows program text index P second) {thread : Thread}
    (hmem : thread ∈ first.threads) : thread ∈ second.threads := by
  obtain ⟨added, hadded, -⟩ := h.threads
  rw [hadded]
  exact List.mem_append_right added hmem

theorem Grows.mono (h : first.Grows program text index P second)
    (hPQ : ∀ thread, P thread → Q thread) : first.Grows program text index Q second where
  seen_subset := h.seen_subset
  closed := h.closed
  waiting pc hmem hnot instr hinstr hwaits := by
    obtain ⟨thread, hthread, hpc, hP⟩ := h.waiting pc hmem hnot instr hinstr hwaits
    exact ⟨thread, hthread, hpc, hPQ thread hP⟩
  threads := by
    obtain ⟨added, hadded, hP⟩ := h.threads
    exact ⟨added, hadded, fun thread hmem => hPQ thread (hP thread hmem)⟩

theorem Grows.trans (h : first.Grows program text index P second)
    (h' : second.Grows program text index P third) : first.Grows program text index P third where
  seen_subset := List.Subset.trans h.seen_subset h'.seen_subset
  closed pc hmem hnot instr hinstr next hnext := by
    -- an instruction is accounted for where it is reached first
    by_cases hsecond : pc ∈ second.seen
    · exact h'.seen_subset (h.closed pc hsecond hnot instr hinstr next hnext)
    · exact h'.closed pc hmem hsecond instr hinstr next hnext
  waiting pc hmem hnot instr hinstr hwaits := by
    by_cases hsecond : pc ∈ second.seen
    · obtain ⟨thread, hthread, hpc, hP⟩ := h.waiting pc hsecond hnot instr hinstr hwaits
      exact ⟨thread, h'.mem_threads hthread, hpc, hP⟩
    · exact h'.waiting pc hmem hsecond instr hinstr hwaits
  threads := by
    obtain ⟨added, hadded, hP⟩ := h.threads
    obtain ⟨added', hadded', hP'⟩ := h'.threads
    refine ⟨added' ++ added, by rw [hadded', hadded, List.append_assoc], fun thread hmem => ?_⟩
    rcases List.mem_append.mp hmem with hnew | hold
    · exact hP' thread hnew
    · exact hP thread hold

theorem Grows.park (frontier : Frontier) {thread : Thread} (hP : P thread) :
    frontier.Grows program text index P { frontier with threads := thread :: frontier.threads } where
  seen_subset := List.Subset.refl _
  closed _ hmem hnot := absurd hmem hnot
  waiting _ hmem hnot := absurd hmem hnot
  threads := ⟨[thread], rfl, by simpa using hP⟩

/-- An instruction that has been marked as reached is accounted for once all that follows on it
is reached and it has a thread if it waits. -/
theorem Grows.of_marked {pc : Nat} {instr : Option Instr} (hhere : program[pc]? = instr)
    (h : Grows program text index P { first with seen := pc :: first.seen } second)
    (hnext : ∀ i ∈ instr, ∀ next ∈ i.passes text index, next ∈ second.seen)
    (hwaits : ∀ i ∈ instr, i.waits = true → ∃ thread ∈ second.threads, thread.pc = pc ∧ P thread) :
    first.Grows program text index P second where
  seen_subset _ hmem := h.seen_subset (List.mem_cons_of_mem pc hmem)
  closed other hmem hnot i hi := by
    by_cases hother : other = pc
    · subst hother
      exact hnext i (hhere.symm.trans hi)
    · exact h.closed other hmem (by simp [hother, hnot]) i hi
  waiting other hmem hnot i hi := by
    by_cases hother : other = pc
    · subst hother
      exact hwaits i (hhere.symm.trans hi)
    · exact h.waiting other hmem (by simp [hother, hnot]) i hi
  threads := h.threads

end Grows

def unseen (program : Program) (frontier : Frontier) : Nat :=
  (Finset.range program.size \ frontier.seen.toFinset).card

theorem unseen_le_size (program : Program) (frontier : Frontier) :
    frontier.unseen program ≤ program.size := by
  have hle := Finset.card_le_card
    (Finset.sdiff_subset (s := Finset.range program.size) (t := frontier.seen.toFinset))
  rwa [Finset.card_range] at hle

theorem unseen_le_of_subset (program : Program) {first second : Frontier}
    (hsubset : first.seen ⊆ second.seen) : second.unseen program ≤ first.unseen program := by
  apply Finset.card_le_card
  intro pc hpc
  simp only [Finset.mem_sdiff, List.mem_toFinset] at hpc ⊢
  exact ⟨hpc.1, fun hmem => hpc.2 (hsubset hmem)⟩

theorem unseen_lt {program : Program} {frontier : Frontier} {pc : Nat}
    (hpc : pc < program.size) (hfresh : pc ∉ frontier.seen) :
    unseen program { frontier with seen := pc :: frontier.seen } < frontier.unseen program := by
  apply Finset.card_lt_card
  rw [Finset.ssubset_iff_of_subset]
  · exact ⟨pc, by simp [hpc, hfresh], by simp⟩
  · intro other hother
    simp only [Finset.mem_sdiff, List.mem_toFinset, List.mem_cons, not_or] at hother ⊢
    exact ⟨hother.1, hother.2.2⟩

end Frontier

/-- The marks of a thread behind an instruction. -/
def Instr.marked (instr : Instr) (index : Nat) (marks : Marks) : Marks :=
  match instr with
  | .mark slot _ => (slot, index) :: marks
  | .chars _ _ | .look _ _ | .fork _ _ | .accept => marks

namespace Program

variable {program : Program} {text : List Char} {index : Nat}

/-- At an instruction not reached before, a thread is kept if it waits, and else followed to each
instruction to go on with. -/
theorem follow_of_fresh {fuel : Nat} {thread : Thread} {frontier : Frontier} {instr : Instr}
    (hfresh : thread.pc ∉ frontier.seen) (hhere : program[thread.pc]? = some instr) :
    program.follow (.ofText text index) (fuel + 1) thread frontier =
      (instr.passes text index).foldl
        (fun frontier next => program.follow (.ofText text index) fuel
          ⟨next, thread.origin, instr.marked index thread.marks⟩ frontier)
        ⟨thread.pc :: frontier.seen,
          if instr.waits then thread :: frontier.threads else frontier.threads⟩ := by
  rw [follow, if_neg (by simpa using hfresh), hhere]
  cases instr with
  | look l next =>
    by_cases hholds : l.holdsAt text index = true
    · rw [Look.holdsAt] at hholds
      simp [Instr.passes, Instr.waits, Instr.marked, Place.ofText, Look.holdsAt, hholds]
    · rw [Look.holdsAt] at hholds
      simp [Instr.passes, Instr.waits, Place.ofText, Look.holdsAt, hholds]
  | _ => rfl

theorem grows_foldl {P : Thread → Prop} {follow : Frontier → Nat → Frontier} {fuel : Nat}
    (nexts : List Nat) (frontier : Frontier)
    (hfollow : ∀ next ∈ nexts, ∀ frontier : Frontier, frontier.unseen program < fuel →
      frontier.Grows program text index P (follow frontier next) ∧
        next ∈ (follow frontier next).seen)
    (hfuel : frontier.unseen program < fuel) :
    frontier.Grows program text index P (nexts.foldl follow frontier) ∧
      ∀ next ∈ nexts, next ∈ (nexts.foldl follow frontier).seen := by
  induction nexts generalizing frontier with
  | nil => exact ⟨.refl frontier, nofun⟩
  | cons next nexts ih =>
    obtain ⟨hgrows, hnext⟩ := hfollow next List.mem_cons_self frontier hfuel
    have hless := Nat.lt_of_le_of_lt (Frontier.unseen_le_of_subset program hgrows.seen_subset) hfuel
    obtain ⟨hgrows', hnexts⟩ :=
      ih _ (fun other h => hfollow other (List.mem_cons_of_mem _ h)) hless
    refine ⟨hgrows.trans hgrows', fun other hother => ?_⟩
    rcases List.mem_cons.mp hother with rfl | hother
    · exact hgrows'.seen_subset hnext
    · exact hnexts other hother

/-- Following a thread reaches its instruction and all that follows on it, provided that there is
fuel for what is not reached yet. -/
theorem grows_follow (fuel : Nat) (thread : Thread) (frontier : Frontier)
    (hfuel : frontier.unseen program < fuel) :
    frontier.Grows program text index (thread.Follows program text index)
        (program.follow (.ofText text index) fuel thread frontier) ∧
      thread.pc ∈ (program.follow (.ofText text index) fuel thread frontier).seen := by
  -- on the fuel: each instruction reached for the first time lowers what is not reached yet
  induction fuel generalizing thread frontier with
  | zero => omega
  | succ fuel ih =>
    by_cases hseen : thread.pc ∈ frontier.seen
    · rw [follow, if_pos (List.contains_iff_mem.mpr hseen)]
      exact ⟨.refl frontier, hseen⟩
    cases hhere : program[thread.pc]? with
    | none =>
      rw [follow, if_neg (by simpa using hseen), hhere]
      exact ⟨.of_marked hhere (.refl _) nofun nofun, List.mem_cons_self⟩
    | some instr =>
      rw [follow_of_fresh hseen hhere]
      obtain ⟨hpc, -⟩ := Array.getElem?_eq_some_iff.mp hhere
      -- the frontier from which the following instructions are followed
      let parked : Frontier := ⟨thread.pc :: frontier.seen,
        if instr.waits then thread :: frontier.threads else frontier.threads⟩
      have hless : parked.unseen program < fuel :=
        Nat.lt_of_lt_of_le (Frontier.unseen_lt hpc hseen) (Nat.le_of_lt_succ hfuel)
      obtain ⟨hgrows, hnexts⟩ := grows_foldl (instr.passes text index) parked
        (P := thread.Follows program text index)
        (fun next hnext before hbefore => by
          obtain ⟨hgrows, hreached⟩ := ih ⟨next, thread.origin, instr.marked index thread.marks⟩
            before hbefore
          exact ⟨hgrows.mono fun t ht => ht.head hhere hnext rfl, hreached⟩)
        hless
      have hparked : Frontier.Grows program text index (thread.Follows program text index)
          { frontier with seen := thread.pc :: frontier.seen } parked := by
        by_cases hwaits : instr.waits = true
        · simp only [parked, hwaits, if_true]
          exact .park _ (.refl thread)
        · simp only [parked, hwaits]
          exact .refl _
      refine ⟨(hparked.trans hgrows).of_marked hhere ?_ ?_, hgrows.seen_subset List.mem_cons_self⟩
      · rintro _ ⟨⟩
        exact hnexts
      · rintro _ ⟨⟩ hwaits
        exact ⟨thread, hgrows.mem_threads (by simp [parked, hwaits]), rfl, .refl thread⟩

/-! ## 2. Settling -/

/-- A frontier after some threads have been followed. -/
structure Settled (program : Program) (text : List Char) (index : Nat) (followed : List Thread)
    (frontier : Frontier) : Prop where
  grows : Frontier.Grows program text index
    (fun thread => ∃ source ∈ followed, source.Follows program text index thread) ⟨[], []⟩ frontier
  reached : ∀ thread ∈ followed, thread.pc ∈ frontier.seen
  sorted : followed.Pairwise (fun s t => s.origin ≤ t.origin) →
    frontier.threads.Pairwise fun s t => t.origin ≤ s.origin

theorem Settled.follow {followed : List Thread} {frontier : Frontier}
    (h : Settled program text index followed frontier) (thread : Thread) :
    frontier.Grows program text index (thread.Follows program text index)
        (program.follow (.ofText text index) (program.size + 1) thread frontier) ∧
      Settled program text index (followed ++ [thread])
        (program.follow (.ofText text index) (program.size + 1) thread frontier) := by
  have hfuel := Nat.lt_succ_of_le (frontier.unseen_le_size program)
  obtain ⟨hgrows, hreached⟩ :
      frontier.Grows program text index (thread.Follows program text index) _ ∧ _ :=
    grows_follow (program.size + 1) thread frontier hfuel
  refine ⟨hgrows, ?_, ?_, ?_⟩
  · refine Frontier.Grows.trans (h.grows.mono ?_) (hgrows.mono ?_)
    · rintro t ⟨source, hsource, hfollows⟩
      exact ⟨source, List.mem_append_left _ hsource, hfollows⟩
    · exact fun t ht => ⟨thread, by simp, ht⟩
  · intro other hother
    rcases List.mem_append.mp hother with hold | hnew
    · exact hgrows.seen_subset (h.reached other hold)
    · obtain rfl := List.mem_singleton.mp hnew
      exact hreached
  · intro hsorted
    obtain ⟨hfollowed, -, hlast⟩ := List.pairwise_append.mp hsorted
    obtain ⟨added, hadded, hfollows⟩ := hgrows.threads
    rw [hadded, List.pairwise_append]
    refine ⟨?_, h.sorted hfollowed, ?_⟩
    · -- all threads that come from one source began where it began
      refine List.pairwise_of_forall_mem_list fun s hs t ht => ?_
      rw [(hfollows s hs).origin_eq, (hfollows t ht).origin_eq]
    · -- what was there before comes from sources in front of this one
      intro s hs t ht
      obtain ⟨old, hold, hP⟩ := h.grows.threads
      obtain ⟨source, hsource, htsource⟩ := hP t (by simpa [hold] using ht)
      rw [(hfollows s hs).origin_eq, htsource.origin_eq]
      exact hlast source hsource thread (by simp)

/-- The frontier after some threads have been followed. -/
def reach (program : Program) (place : Place) (threads : List Thread) : Frontier :=
  threads.foldl (fun frontier thread => program.follow place (program.size + 1) thread frontier)
    ⟨[], []⟩

theorem settled_reach (program : Program) (text : List Char) (index : Nat)
    (threads : List Thread) :
    Settled program text index threads (program.reach (.ofText text index) threads) := by
  induction threads using List.reverseRecOn with
  | nil => exact ⟨.refl _, nofun, fun _ => .nil⟩
  | append_singleton threads thread ih =>
    rw [reach, List.foldl_append]
    exact (ih.follow thread).2

/-- Threads once found stay when further ones are followed. -/
theorem mem_reach_append (threads later : List Thread) {thread : Thread}
    (hmem : thread ∈ (program.reach (.ofText text index) threads).threads) :
    thread ∈ (program.reach (.ofText text index) (threads ++ later)).threads := by
  induction later using List.reverseRecOn with
  | nil => simpa using hmem
  | append_singleton later last ih =>
    rw [← List.append_assoc]
    have hgrows := ((settled_reach program text index (threads ++ later)).follow last).1
    rw [reach, List.foldl_append]
    exact hgrows.mem_threads ih

/-- From any instruction of a closed set, the end is reached through one of the set that waits. -/
theorem Path.exists_waiting {count last : Nat} {first : Nat × Nat}
    (hpath : program.Path text count first (0, last)) {reached : List Nat}
    (hfirst : first.1 ∈ reached)
    (hclosed : ∀ pc ∈ reached, ∀ instr, program[pc]? = some instr →
      ∀ next ∈ instr.passes text first.2, next ∈ reached) :
    ∃ pc ∈ reached, (pc = 0 ∧ first.2 = last) ∨
      ∃ set next c rest, program[pc]? = some (.chars set next) ∧ text[first.2]? = some c ∧
        set.contains c = true ∧ program.Path text rest (next, first.2 + 1) (0, last) := by
  -- along the path: a step that reads nothing stays within the closed set
  generalize hend : (0, last) = last' at hpath
  induction hpath with
  | refl => exact ⟨0, by rwa [← hend] at hfirst, .inl ⟨rfl, by rw [← hend]⟩⟩
  | head step rest ih =>
    subst hend
    cases step with
    | pass here next_mem => exact ih (hclosed _ hfirst _ here _ next_mem) hclosed rfl
    | read here char fits => exact ⟨_, hfirst, .inr ⟨_, _, _, _, here, char, fits, rest⟩⟩

section Settle

variable {threads : List Thread}

theorem mem_settle_iff {thread : Thread} :
    thread ∈ program.settle (.ofText text index) threads ↔
      thread ∈ (program.reach (.ofText text index) threads).threads := by
  rw [settle, List.mem_reverse]
  rfl

theorem exists_source_of_mem_settle {thread : Thread}
    (hmem : thread ∈ program.settle (.ofText text index) threads) :
    ∃ source ∈ threads, source.Follows program text index thread := by
  obtain ⟨added, hadded, hfollows⟩ := (settled_reach program text index threads).grows.threads
  rw [mem_settle_iff, hadded, List.append_nil] at hmem
  exact hfollows thread hmem

theorem pairwise_settle (hsorted : threads.Pairwise fun s t => s.origin ≤ t.origin) :
    (program.settle (.ofText text index) threads).Pairwise fun s t => s.origin ≤ t.origin := by
  rw [settle, List.pairwise_reverse]
  exact (settled_reach program text index threads).sorted hsorted

/-- A thread that can come to the end has a settled thread that has come there or is about to read
a character on the way, and began no later. -/
theorem exists_mem_settle (haccept : program[0]? = some .accept)
    (hsorted : threads.Pairwise fun s t => s.origin ≤ t.origin) {thread : Thread}
    (hmem : thread ∈ threads) {count last : Nat}
    (hpath : program.Path text count (thread.pc, index) (0, last)) :
    ∃ settled ∈ program.settle (.ofText text index) threads, settled.origin ≤ thread.origin ∧
      ((settled.pc = 0 ∧ index = last) ∨
        ∃ c next rest, text[index]? = some c ∧ program.read? c settled = some next ∧
          program.Path text rest (next.pc, index + 1) (0, last)) := by
  obtain ⟨before, after, rfl⟩ := List.append_of_mem hmem
  rw [show before ++ thread :: after = (before ++ [thread]) ++ after by simp] at hsorted ⊢
  -- when the thread has just been followed, all settled threads began no later
  have hsettled := settled_reach program text index (before ++ [thread])
  obtain ⟨pc, hpc, hwaits⟩ := hpath.exists_waiting
    (hsettled.reached thread (by simp)) fun pc hpc => hsettled.grows.closed pc hpc nofun
  have hearly : ∀ t ∈ (program.reach (.ofText text index) (before ++ [thread])).threads,
      t ∈ program.settle (.ofText text index) ((before ++ [thread]) ++ after) ∧
        t.origin ≤ thread.origin := fun t ht => by
    refine ⟨mem_settle_iff.mpr (mem_reach_append _ _ ht), ?_⟩
    obtain ⟨source, hsource, hfollows⟩ := exists_source_of_mem_settle (mem_settle_iff.mpr ht)
    rw [hfollows.origin_eq]
    rcases List.mem_append.mp hsource with hbefore | hthread
    · have hpairs := (List.pairwise_append.mp hsorted).1
      exact (List.pairwise_append.mp hpairs).2.2 source hbefore thread (by simp)
    · rw [List.mem_singleton.mp hthread]
  rcases hwaits with ⟨rfl, hlast⟩ | ⟨set, next, c, rest, hhere, hchar, hfits, hrest⟩
  · obtain ⟨t, ht, hpc', -⟩ := hsettled.grows.waiting 0 hpc nofun _ haccept rfl
    obtain ⟨hmem, horigin⟩ := hearly t ht
    exact ⟨t, hmem, horigin, .inl ⟨hpc', hlast⟩⟩
  · obtain ⟨t, ht, hpc', -⟩ := hsettled.grows.waiting pc hpc nofun _ hhere rfl
    obtain ⟨hmem, horigin⟩ := hearly t ht
    refine ⟨t, hmem, horigin, .inr ⟨c, { t with pc := next }, rest, hchar, ?_, hrest⟩⟩
    simp [read?, hpc', hhere, hfits]

end Settle

end Program

end Linewise
