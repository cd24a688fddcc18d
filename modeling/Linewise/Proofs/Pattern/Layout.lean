import Linewise.Pattern.Program

/-!
# Layouts — the program of a pattern accepts what the pattern accepts

`Node.Accepts` says which parts of a text a pattern stands for, without regard to preference.  A
program goes from instruction to instruction and from place to place; `path_program_iff` says that
it reaches its end from one place at another exactly over the parts that its pattern accepts.
-/

namespace Linewise

/-! ## 1. What a pattern accepts -/

/-- Whether a number of steps, one after another, lead from one place to another. -/
def Iterates (step : Nat → Nat → Prop) : (count start stop : Nat) → Prop
  | 0, start, stop => start = stop
  | count + 1, start, stop => ∃ place, step start place ∧ Iterates step count place stop

namespace Iterates

variable {step : Nat → Nat → Prop} {start stop : Nat}

theorem one_iff : Iterates step 1 start stop ↔ step start stop := by
  simp [Iterates]

theorem add_iff {first second : Nat} :
    Iterates step (first + second) start stop ↔
      ∃ place, Iterates step first start place ∧ Iterates step second place stop := by
  induction first generalizing start with
  | zero => simp [Iterates]
  | succ first ih =>
    rw [Nat.succ_add]
    simp only [Iterates, ih]
    constructor
    · rintro ⟨k, hstep, place, hfirst, hsecond⟩
      exact ⟨place, ⟨k, hstep, hfirst⟩, hsecond⟩
    · rintro ⟨place, ⟨k, hstep, hfirst⟩, hsecond⟩
      exact ⟨k, hstep, place, hfirst, hsecond⟩

-- Either a first step is taken, or none at all.
theorem exists_iff :
    (∃ count, Iterates step count start stop) ↔
      (∃ place, step start place ∧ ∃ count, Iterates step count place stop) ∨ start = stop := by
  constructor
  · rintro ⟨_ | count, hcount⟩
    · exact .inr hcount
    · obtain ⟨place, hfirst, hrest⟩ := hcount
      exact .inl ⟨place, hfirst, count, hrest⟩
  · rintro (⟨place, hfirst, count, hrest⟩ | rfl)
    · exact ⟨count + 1, place, hfirst, hrest⟩
    · exact ⟨0, rfl⟩

theorem exists_le_succ_iff {limit : Nat} :
    (∃ count ≤ limit + 1, Iterates step count start stop) ↔
      (∃ place, step start place ∧ ∃ count ≤ limit, Iterates step count place stop) ∨
        start = stop := by
  constructor
  · rintro ⟨_ | count, hle, hcount⟩
    · exact .inr hcount
    · obtain ⟨place, hfirst, hrest⟩ := hcount
      exact .inl ⟨place, hfirst, count, by omega, hrest⟩
  · rintro (⟨place, hfirst, count, hle, hrest⟩ | rfl)
    · exact ⟨count + 1, by omega, place, hfirst, hrest⟩
    · exact ⟨0, by omega, rfl⟩

end Iterates

def Look.holdsAt (look : Look) (text : List Char) (place : Nat) : Bool :=
  look.holds (text.take place).getLast? text[place]?

/-- Whether the pattern accepts the part of a text between two places.  A repetition whose bounds
are crossed is taken the least number of times. -/
def Node.Accepts (text : List Char) : (node : Node) → (start stop : Nat) → Prop
  | .empty, start, stop => start = stop
  | .chars set, start, stop => stop = start + 1 ∧ ∃ c, text[start]? = some c ∧ set.contains c
  | .look l, start, stop => start = stop ∧ l.holdsAt text start
  | .group _ body, start, stop => body.Accepts text start stop
  | .seq a b, start, stop => ∃ place, a.Accepts text start place ∧ b.Accepts text place stop
  | .alt a b, start, stop => a.Accepts text start stop ∨ b.Accepts text start stop
  | .rep least most _ body, start, stop =>
    ∃ count, least ≤ count ∧ (∀ bound ∈ most, count ≤ max least bound) ∧
      Iterates (body.Accepts text) count start stop

namespace Node

variable {text : List Char} {body : Node} {greedy : Bool} {least start stop : Nat}

-- The three forms in which repetitions are laid out.
theorem accepts_rep_zero_iff :
    (rep 0 none greedy body).Accepts text start stop ↔
      ∃ count, Iterates (body.Accepts text) count start stop := by
  simp [Accepts]

theorem accepts_rep_succ_iff :
    (rep (least + 1) none greedy body).Accepts text start stop ↔
      ∃ place, Iterates (body.Accepts text) least start place ∧
        ∃ next, body.Accepts text place next ∧
          ∃ count, Iterates (body.Accepts text) count next stop := by
  constructor
  · rintro ⟨count, hleast, -, hcount⟩
    obtain ⟨more, rfl⟩ : ∃ more, count = least + (more + 1) := ⟨count - (least + 1), by omega⟩
    obtain ⟨place, hfirst, next, hstep, hrest⟩ := Iterates.add_iff.mp hcount
    exact ⟨place, hfirst, next, hstep, more, hrest⟩
  · rintro ⟨place, hfirst, next, hstep, count, hrest⟩
    refine ⟨least + (count + 1), by omega, by simp, ?_⟩
    exact Iterates.add_iff.mpr ⟨place, hfirst, next, hstep, hrest⟩

theorem accepts_rep_some_iff {bound : Nat} :
    (rep least (some bound) greedy body).Accepts text start stop ↔
      ∃ place, Iterates (body.Accepts text) least start place ∧
        ∃ count ≤ bound - least, Iterates (body.Accepts text) count place stop := by
  constructor
  · rintro ⟨count, hleast, hmost, hcount⟩
    have hbound := hmost bound rfl
    obtain ⟨more, rfl⟩ : ∃ more, count = least + more := ⟨count - least, by omega⟩
    obtain ⟨place, hfirst, hrest⟩ := Iterates.add_iff.mp hcount
    exact ⟨place, hfirst, more, by omega, hrest⟩
  · rintro ⟨place, hfirst, count, hle, hrest⟩
    refine ⟨least + count, by omega, fun most hmost => ?_, ?_⟩
    · obtain rfl := Option.some.inj hmost
      omega
    · exact Iterates.add_iff.mpr ⟨place, hfirst, hrest⟩

end Node

/-! ## 2. Paths -/

/-- The instructions to go on with at a place without reading a character. -/
def Instr.passes (text : List Char) (place : Nat) : Instr → List Nat
  | .look l next => if l.holdsAt text place then [next] else []
  | .mark _ next => [next]
  | .fork preferred other => [preferred, other]
  | .chars _ _ | .accept => []

theorem Program.passes_loopFork {text : List Char} {place : Nat} (greedy : Bool)
    {again leave next : Nat} :
    next ∈ (loopFork greedy again leave).passes text place ↔ next = again ∨ next = leave := by
  cases greedy <;> simp [loopFork, Instr.passes, or_comm]

theorem Program.loopFork_ne_accept (greedy : Bool) {again leave : Nat} :
    loopFork greedy again leave ≠ .accept := by
  cases greedy <;> simp [loopFork]

namespace Program

/-- A single step from an instruction at a place to another one. -/
inductive Step (program : Program) (text : List Char) : Nat × Nat → Nat × Nat → Prop where
  | pass {pc place next : Nat} {instr : Instr} (here : program[pc]? = some instr)
      (next_mem : next ∈ instr.passes text place) : Step program text (pc, place) (next, place)
  | read {pc place next : Nat} {set : CharSet} {c : Char}
      (here : program[pc]? = some (.chars set next)) (char : text[place]? = some c)
      (fits : set.contains c = true) : Step program text (pc, place) (next, place + 1)

/-- A number of steps, one after another. -/
inductive Path (program : Program) (text : List Char) : Nat → Nat × Nat → Nat × Nat → Prop where
  | refl (state : Nat × Nat) : Path program text 0 state state
  | head {count : Nat} {first second last : Nat × Nat} (step : program.Step text first second)
      (rest : Path program text count second last) : Path program text (count + 1) first last

theorem Path.trans {program : Program} {text : List Char} {m n : Nat}
    {first middle last : Nat × Nat} (h : program.Path text m first middle)
    (h' : program.Path text n middle last) : ∃ count, program.Path text count first last := by
  induction h with
  | refl => exact ⟨n, h'⟩
  | head step _ ih =>
    obtain ⟨count, hpath⟩ := ih h'
    exact ⟨count + 1, .head step hpath⟩

theorem Path.eq_of_accept {program : Program} {text : List Char} {count : Nat}
    {first last : Nat × Nat} (h : program.Path text count first last)
    (haccept : program[first.1]? = some .accept) : first = last := by
  cases h with
  | refl => rfl
  | head step =>
    cases step with
    | pass here next_mem =>
      obtain rfl := Option.some.inj (haccept.symm.trans here)
      simp [Instr.passes] at next_mem
    | read here => cases Option.some.inj (haccept.symm.trans here)

/-! ## 3. Stretches of a program -/

/-- From `entry` the program comes to `exit` over whatever `accepts` holds of, and it comes to its
end, the instruction zero, in no other way. -/
structure Stretch (program : Program) (text : List Char) (accepts : Nat → Nat → Prop)
    (entry exit : Nat) : Prop where
  leads : ∀ start stop, accepts start stop →
    ∃ count, program.Path text count (entry, start) (exit, stop)
  -- the rest of the path is no longer than the whole: loops are taken apart by its length
  splits : ∀ count start last, program.Path text count (entry, start) (0, last) →
    ∃ stop count', count' ≤ count ∧ accepts start stop ∧
      program.Path text count' (exit, stop) (0, last)

namespace Stretch

variable {program : Program} {text : List Char} {A B : Nat → Nat → Prop} {pc entry middle exit : Nat}

theorem refl (pc : Nat) : program.Stretch text (· = ·) pc pc where
  leads := by
    rintro start _ rfl
    exact ⟨0, .refl _⟩
  splits count start last hpath := ⟨start, count, Nat.le_refl _, rfl, hpath⟩

theorem trans (ha : program.Stretch text A entry middle)
    (hb : program.Stretch text B middle exit) :
    program.Stretch text (fun start stop => ∃ place, A start place ∧ B place stop) entry exit where
  leads := by
    rintro start stop ⟨place, hstart, hstop⟩
    obtain ⟨m, hm⟩ := ha.leads _ _ hstart
    obtain ⟨n, hn⟩ := hb.leads _ _ hstop
    exact hm.trans hn
  splits := by
    intro count start last hpath
    obtain ⟨place, m, hm, hstart, hmiddle⟩ := ha.splits _ _ _ hpath
    obtain ⟨stop, n, hn, hstop, hexit⟩ := hb.splits _ _ _ hmiddle
    exact ⟨stop, n, by omega, ⟨place, hstart, hstop⟩, hexit⟩

-- The end of the program is at zero, so a path from elsewhere has a first step.
theorem exists_step {instr : Instr} {count start last : Nat} (hpc : pc ≠ 0)
    (hhere : program[pc]? = some instr) (hpath : program.Path text count (pc, start) (0, last)) :
    ∃ rest, count = rest + 1 ∧
      ((∃ next ∈ instr.passes text start, program.Path text rest (next, start) (0, last)) ∨
        ∃ set next c, instr = .chars set next ∧ text[start]? = some c ∧ set.contains c = true ∧
          program.Path text rest (next, start + 1) (0, last)) := by
  generalize hstate : (pc, start) = state at hpath
  cases hpath with
  | refl => exact absurd (congrArg Prod.fst hstate) hpc
  | head step rest =>
    subst hstate
    refine ⟨_, rfl, ?_⟩
    cases step with
    | pass here next_mem =>
      obtain rfl := Option.some.inj (hhere.symm.trans here)
      exact .inl ⟨_, next_mem, rest⟩
    | read here char fits =>
      exact .inr ⟨_, _, _, Option.some.inj (hhere.symm.trans here), char, fits, rest⟩

/-- An instruction that passes on to the next one. -/
theorem pass {instr : Instr} (hpc : pc ≠ 0) (hhere : program[pc]? = some instr)
    (hread : ∀ set next, instr ≠ .chars set next)
    (hnext : ∀ start next, next ∈ instr.passes text start ↔ next = exit ∧ A start start)
    (hwidth : ∀ start stop, A start stop → start = stop) : program.Stretch text A pc exit where
  leads := by
    intro start stop haccepts
    obtain rfl := hwidth start stop haccepts
    exact ⟨1, .head (.pass hhere ((hnext start exit).mpr ⟨rfl, haccepts⟩)) (.refl _)⟩
  splits := by
    intro count start last hpath
    obtain ⟨rest, rfl, ⟨next, hmem, hrest⟩ | ⟨set, next, c, hchars, -⟩⟩ :=
      exists_step hpc hhere hpath
    · obtain ⟨rfl, haccepts⟩ := (hnext _ _).mp hmem
      exact ⟨start, rest, by omega, haccepts, hrest⟩
    · exact absurd hchars (hread _ _)

theorem read {set : CharSet} (hpc : pc ≠ 0) (hhere : program[pc]? = some (.chars set exit)) :
    program.Stretch text ((Node.chars set).Accepts text) pc exit where
  leads := by
    rintro start _ ⟨rfl, c, hchar, hfits⟩
    exact ⟨1, .head (.read hhere hchar hfits) (.refl _)⟩
  splits := by
    intro count start last hpath
    obtain ⟨rest, rfl, ⟨next, hmem, -⟩ | ⟨_, _, c, hchars, hchar, hfits, hrest⟩⟩ :=
      exists_step hpc hhere hpath
    · simp [Instr.passes] at hmem
    · cases hchars
      exact ⟨start + 1, rest, by omega, ⟨rfl, c, hchar, hfits⟩, hrest⟩

theorem fork {instr : Instr} {other : Nat} (hpc : pc ≠ 0) (hhere : program[pc]? = some instr)
    (hnext : ∀ start next, next ∈ instr.passes text start ↔ next = entry ∨ next = other)
    (ha : program.Stretch text A entry exit) (hb : program.Stretch text B other exit) :
    program.Stretch text (fun start stop => A start stop ∨ B start stop) pc exit where
  leads := by
    rintro start stop (haccepts | haccepts)
    · obtain ⟨count, hpath⟩ := ha.leads _ _ haccepts
      exact ⟨count + 1, .head (.pass hhere ((hnext start entry).mpr (.inl rfl))) hpath⟩
    · obtain ⟨count, hpath⟩ := hb.leads _ _ haccepts
      exact ⟨count + 1, .head (.pass hhere ((hnext start other).mpr (.inr rfl))) hpath⟩
  splits := by
    intro count start last hpath
    obtain ⟨rest, rfl, ⟨next, hmem, hrest⟩ | ⟨set, next, c, hchars, -⟩⟩ :=
      exists_step hpc hhere hpath
    · rcases (hnext _ _).mp hmem with rfl | rfl
      · obtain ⟨stop, count, hcount, haccepts, hexit⟩ := ha.splits _ _ _ hrest
        exact ⟨stop, count, by omega, .inl haccepts, hexit⟩
      · obtain ⟨stop, count, hcount, haccepts, hexit⟩ := hb.splits _ _ _ hrest
        exact ⟨stop, count, by omega, .inr haccepts, hexit⟩
    · -- an instruction that reads passes on to none
      subst hchars
      simpa [Instr.passes] using hnext start entry

theorem loop {greedy : Bool} (hpc : pc ≠ 0)
    (hhere : program[pc]? = some (loopFork greedy entry exit))
    (hbody : program.Stretch text A entry pc) :
    program.Stretch text (fun start stop => ∃ count, Iterates A count start stop) pc exit where
  leads := by
    rintro start stop ⟨count, hcount⟩
    induction count generalizing start with
    | zero =>
      obtain rfl := hcount
      exact ⟨1, .head (.pass hhere ((passes_loopFork greedy).mpr (.inr rfl))) (.refl _)⟩
    | succ count ih =>
      obtain ⟨place, hfirst, hrest⟩ := hcount
      obtain ⟨m, hm⟩ := hbody.leads _ _ hfirst
      obtain ⟨n, hn⟩ := ih place hrest
      exact (Path.head (.pass hhere ((passes_loopFork greedy).mpr (.inl rfl))) hm).trans hn
  splits := by
    intro count
    -- going round takes at least the step from the fork, so what remains is shorter
    induction count using Nat.strongRecOn with
    | _ count ih =>
      intro start last hpath
      obtain ⟨rest, rfl, ⟨next, hmem, hrest⟩ | ⟨set, next, c, hchars, -⟩⟩ :=
        exists_step hpc hhere hpath
      · rcases (passes_loopFork greedy).mp hmem with rfl | rfl
        · obtain ⟨place, m, hm, hfirst, hagain⟩ := hbody.splits _ _ _ hrest
          obtain ⟨stop, n, hn, ⟨times, htimes⟩, hexit⟩ := ih m (by omega) place last hagain
          exact ⟨stop, n, by omega, ⟨times + 1, place, hfirst, htimes⟩, hexit⟩
        · exact ⟨start, rest, by omega, ⟨0, rfl⟩, hrest⟩
      · cases greedy <;> cases hchars

end Stretch

/-! ## 4. Laying out -/

/-- A program grows when instructions are added behind those already there, none of which ends
the program. -/
structure Grows (before after : Program) : Prop where
  size_le : before.size ≤ after.size
  kept : ∀ pc < before.size, after[pc]? = before[pc]?
  ne_accept : ∀ pc < after.size, before.size ≤ pc → after[pc]? ≠ some .accept

/-- The program has the instructions by which another one has grown. -/
def HasGrowth (program before after : Program) : Prop :=
  ∀ pc < after.size, before.size ≤ pc → program[pc]? = after[pc]?

namespace Grows

variable {before middle after program : Program}

theorem refl (program : Program) : program.Grows program :=
  ⟨Nat.le_refl _, fun _ _ => rfl, fun _ hlt hle => absurd hlt (Nat.not_lt_of_le hle)⟩

theorem trans (h : before.Grows middle) (h' : middle.Grows after) : before.Grows after where
  size_le := Nat.le_trans h.size_le h'.size_le
  kept pc hpc := (h'.kept pc (Nat.lt_of_lt_of_le hpc h.size_le)).trans (h.kept pc hpc)
  ne_accept pc hlt hle haccept := by
    by_cases hfirst : pc < middle.size
    · exact h.ne_accept pc hfirst hle ((h'.kept pc hfirst).symm.trans haccept)
    · exact h'.ne_accept pc hlt (by omega) haccept

theorem push (program : Program) {instr : Instr} (hne : instr ≠ .accept) :
    program.Grows (program.push instr) where
  size_le := by simp
  kept pc hpc := by rw [Array.getElem?_push_lt hpc, Array.getElem?_eq_getElem hpc]
  ne_accept pc hlt hle haccept := by
    obtain rfl : pc = program.size := by
      rw [Array.size_push] at hlt
      omega
    rw [Array.getElem?_push_size] at haccept
    exact hne (Option.some.inj haccept)

theorem hasGrowth_left (h : middle.Grows after) (hprogram : program.HasGrowth before after) :
    program.HasGrowth before middle :=
  fun pc hlt hle => (hprogram pc (Nat.lt_of_lt_of_le hlt h.size_le) hle).trans (h.kept pc hlt)

theorem hasGrowth_right (h : before.Grows middle)
    (hprogram : program.HasGrowth before after) : program.HasGrowth middle after :=
  fun pc hlt hle => hprogram pc hlt (Nat.le_trans h.size_le hle)

theorem getElem?_of_hasGrowth_push {instr : Instr} (h : before.Grows middle)
    (hprogram : program.HasGrowth before (middle.push instr)) :
    program[middle.size]? = some instr :=
  (hprogram middle.size (by simp) h.size_le).trans Array.getElem?_push_size

end Grows

/-- A layout realizes what it should accept: it makes the program grow, and what it adds is a
stretch of every program that has it. -/
def Realizes (text : List Char) (layout : Layout) (accepts : Nat → Nat → Prop) : Prop :=
  ∀ (before : Program) (exit : Nat), 0 < before.size →
    before.Grows ((layout exit).run before).2 ∧
      ∀ program : Program, program.HasGrowth before ((layout exit).run before).2 →
        program.Stretch text accepts ((layout exit).run before).1 exit

namespace Realizes

variable {text : List Char} {a b : Layout} {A B : Nat → Nat → Prop}

theorem congr (h : Realizes text a A) (hiff : ∀ start stop, A start stop ↔ B start stop) :
    Realizes text a B := by
  have hsame : A = B := funext fun start => funext fun stop => propext (hiff start stop)
  rwa [← hsame]

theorem skip : Realizes text (fun next => return next) (· = ·) := fun before _ _ =>
  ⟨.refl before, fun _ _ => .refl _⟩

theorem seq (ha : Realizes text a A) (hb : Realizes text b B) :
    Realizes text (fun next => do a (← b next))
      (fun start stop => ∃ place, A start place ∧ B place stop) := by
  intro before exit hsize
  obtain ⟨hgrows, hb⟩ := hb before exit hsize
  obtain ⟨hgrows', ha⟩ := ha ((b exit).run before).2 ((b exit).run before).1
    (Nat.lt_of_lt_of_le hsize hgrows.size_le)
  refine ⟨hgrows.trans hgrows', fun program hprogram => ?_⟩
  exact (ha program (hgrows.hasGrowth_right hprogram)).trans
    (hb program (hgrows'.hasGrowth_left hprogram))

theorem emit {instr : Nat → Instr} (hne : ∀ next, instr next ≠ .accept)
    (hstretch : ∀ (program : Program) (pc next : Nat), pc ≠ 0 →
      program[pc]? = some (instr next) → program.Stretch text A pc next) :
    Realizes text (fun next => Program.emit (instr next)) A := by
  intro before exit hsize
  refine ⟨.push before (hne exit), fun program hprogram => ?_⟩
  have hhere := (Grows.refl before).getElem?_of_hasGrowth_push hprogram
  exact hstretch program before.size exit (by omega) hhere

theorem fork {instr : Nat → Nat → Instr} (hne : ∀ entry other, instr entry other ≠ .accept)
    (hnext : ∀ entry other place next,
      next ∈ (instr entry other).passes text place ↔ next = entry ∨ next = other)
    (ha : Realizes text a A) (hb : Realizes text b B) :
    Realizes text
      (fun next => do
        let other ← b next
        Program.emit (instr (← a next) other))
      (fun start stop => A start stop ∨ B start stop) := by
  intro before exit hsize
  obtain ⟨hgrows, hb⟩ := hb before exit hsize
  obtain ⟨hgrows', ha⟩ := ha ((b exit).run before).2 exit
    (Nat.lt_of_lt_of_le hsize hgrows.size_le)
  -- the second branch is laid out first, then the first one, and the fork behind both
  have hpush := Grows.push ((a exit).run ((b exit).run before).2).2
    (hne ((a exit).run ((b exit).run before).2).1 ((b exit).run before).1)
  refine ⟨(hgrows.trans hgrows').trans hpush, fun program hprogram => ?_⟩
  have hboth := hpush.hasGrowth_left hprogram
  have hhere := (hgrows.trans hgrows').getElem?_of_hasGrowth_push hprogram
  have hpc := Nat.lt_of_lt_of_le hsize (hgrows.trans hgrows').size_le
  exact .fork (Nat.ne_of_gt hpc) hhere (hnext _ _) (ha program (hgrows.hasGrowth_right hboth))
    (hb program (hgrows'.hasGrowth_left hboth))

/-- The stretch with a fork behind it that goes round or leaves. -/
theorem round (ha : Realizes text a A) (greedy : Bool) {before : Program} (exit : Nat)
    (hsize : 0 < before.size) {entry : Nat} {body : Program}
    (hbody : (a before.size).run (before.push .accept) = (entry, body)) :
    before.Grows (body.set! before.size (loopFork greedy entry exit)) ∧
      ∀ program : Program,
        program.HasGrowth before (body.set! before.size (loopFork greedy entry exit)) →
          program.Stretch text A entry before.size ∧
            program.Stretch text (fun start stop => ∃ count, Iterates A count start stop)
              before.size exit := by
  obtain ⟨hgrows, ha⟩ := ha (before.push .accept) before.size (by simp)
  rw [hbody] at hgrows ha
  have hlt : before.size < body.size := Nat.lt_of_lt_of_le (by simp) hgrows.size_le
  have hfork : (body.set! before.size (loopFork greedy entry exit))[before.size]? =
      some (loopFork greedy entry exit) := by simp [hlt]
  -- apart from the fork, the program is the one that laying out the body has left
  have hother : ∀ pc, pc ≠ before.size →
      (body.set! before.size (loopFork greedy entry exit))[pc]? = body[pc]? := fun pc hpc => by
    simp [Array.getElem?_setIfInBounds_ne (Ne.symm hpc)]
  refine ⟨⟨?_, fun pc hpc => ?_, fun pc hpc hle => ?_⟩, fun program hprogram => ?_⟩
  · simpa using Nat.le_of_lt hlt
  · -- what stood there before stands in front of the fork
    rw [hother pc (by omega), hgrows.kept pc (by rw [Array.size_push]; omega),
      Array.getElem?_push_lt hpc, Array.getElem?_eq_getElem hpc]
  · by_cases hpc' : pc = before.size
    · rw [hpc', hfork]
      exact fun h => loopFork_ne_accept greedy (Option.some.inj h)
    · rw [hother pc hpc']
      simp only [Array.set!_eq_setIfInBounds, Array.size_setIfInBounds] at hpc
      exact hgrows.ne_accept pc hpc (by rw [Array.size_push]; omega)
  · have hstretch := ha program fun pc hpc hle => by
      rw [Array.size_push] at hle
      rw [hprogram pc (by simpa using hpc) (by omega), hother pc (by omega)]
    have hhere := (hprogram before.size (by simpa using hlt) (Nat.le_refl _)).trans hfork
    exact ⟨hstretch, .loop (by omega) hhere hstretch⟩

theorem zeroOrMore (ha : Realizes text a A) (greedy : Bool) :
    Realizes text (Program.zeroOrMore greedy a)
      (fun start stop => ∃ count, Iterates A count start stop) := by
  intro before exit hsize
  obtain ⟨hgrows, hround⟩ := ha.round greedy exit hsize rfl
  exact ⟨hgrows, fun program hprogram => (hround program hprogram).2⟩

theorem oneOrMore (ha : Realizes text a A) (greedy : Bool) :
    Realizes text (Program.oneOrMore greedy a)
      (fun start stop => ∃ place, A start place ∧ ∃ count, Iterates A count place stop) := by
  intro before exit hsize
  obtain ⟨hgrows, hround⟩ := ha.round greedy exit hsize rfl
  refine ⟨hgrows, fun program hprogram => ?_⟩
  obtain ⟨hbody, hloop⟩ := hround program hprogram
  exact hbody.trans hloop

theorem optionalRun (ha : Realizes text a A) (greedy : Bool) :
    Realizes text
      (fun next => do
        Program.emit (loopFork greedy (← Program.oneOrMore greedy a next) next))
      (fun start stop => ∃ count, Iterates A count start stop) := by
  have hfork := fork (fun _ _ => loopFork_ne_accept greedy)
    (fun _ _ _ _ => passes_loopFork greedy) (ha.oneOrMore greedy) skip
  exact congr hfork fun start stop => Iterates.exists_iff.symm

theorem copies (ha : Realizes text a A) (count : Nat) :
    Realizes text (Program.copies count a) (Iterates A count) := by
  induction count with
  | zero => exact skip
  | succ count ih =>
    have hseq : Realizes text (Program.copies (count + 1) a) _ := ih.seq ha
    refine hseq.congr fun start stop => ?_
    rw [Iterates.add_iff]
    simp only [Iterates.one_iff]

theorem optionals (ha : Realizes text a A) (count : Nat) (greedy : Bool) :
    Realizes text (Program.optionals count greedy a)
      (fun start stop => ∃ times ≤ count, Iterates A times start stop) := by
  induction count with
  | zero =>
    refine skip.congr fun start stop => ?_
    simp [Iterates]
  | succ count ih =>
    have hfork : Realizes text (Program.optionals (count + 1) greedy a) _ :=
      fork (fun _ _ => loopFork_ne_accept greedy)
        (fun _ _ _ _ => passes_loopFork greedy) (ha.seq ih) skip
    exact hfork.congr fun start stop => Iterates.exists_le_succ_iff.symm

end Realizes

end Program

/-! ## 5. The program of a pattern -/

namespace Node

open Program in
theorem realizes_layout (text : List Char) (node : Node) :
    Realizes text node.layout (node.Accepts text) := by
  induction node with
  | empty => exact .skip
  | chars set => exact .emit (by simp) fun _ _ _ => .read
  | look l =>
    refine .emit (by simp) fun program pc next hpc hhere =>
      .pass hpc hhere (by simp) (fun start place => ?_) fun _ _ h => h.1
    by_cases hholds : l.holdsAt text start = true <;>
      simp [Instr.passes, Accepts, hholds]
  | group index body ih =>
    -- the marks on both sides of the body read nothing
    have hmark : ∀ slot, Realizes text (fun next => Program.emit (.mark slot next)) (· = ·) :=
      fun slot => .emit (by simp) fun program pc next hpc hhere =>
        .pass hpc hhere (by simp) (fun start place => by simp [Instr.passes]) fun _ _ h => h
    have hseq : Realizes text (Node.group index body).layout _ :=
      (hmark (2 * index)).seq (ih.seq (hmark (2 * index + 1)))
    exact hseq.congr fun start stop => by simp [Accepts]
  | seq a b iha ihb => exact iha.seq ihb
  | alt a b iha ihb =>
    exact .fork (fun _ _ => by simp) (fun _ _ _ _ => by simp [Instr.passes]) iha ihb
  | rep least most greedy body ih =>
    -- the cases are those in which a repetition is laid out
    match least, most with
    | 0, none =>
      rw [layout]
      refine Realizes.congr ?_ fun start stop => accepts_rep_zero_iff.symm
      by_cases hempty : body.mayBeEmpty = true
      · simp only [hempty, if_true]
        exact ih.optionalRun greedy
      · simp only [hempty]
        exact ih.zeroOrMore greedy
    | least + 1, none =>
      have hseq : Realizes text (Node.rep (least + 1) none greedy body).layout _ :=
        (ih.copies least).seq (ih.oneOrMore greedy)
      exact hseq.congr fun start stop => accepts_rep_succ_iff.symm
    | least, some bound =>
      rw [layout]
      have hseq := (ih.copies least).seq (ih.optionals (bound - least) greedy)
      exact Realizes.congr hseq fun start stop => accepts_rep_some_iff.symm

section Program

variable (node : Node)

theorem grows_program : Program.Grows #[.accept] node.program.2 :=
  (node.realizes_layout [] #[.accept] 0 (by simp)).1

/-- The end of the program is the only instruction that accepts. -/
theorem accept_program_iff (pc : Nat) : node.program.2[pc]? = some .accept ↔ pc = 0 := by
  have hgrows := node.grows_program
  have hzero := hgrows.kept 0 (by simp)
  constructor
  · intro haccept
    by_cases hpc : pc = 0
    · exact hpc
    · obtain ⟨hlt, -⟩ := Array.getElem?_eq_some_iff.mp haccept
      exact absurd haccept (hgrows.ne_accept pc hlt (Nat.one_le_iff_ne_zero.mpr hpc))
  · rintro rfl
    exact hzero

/-- The program of a pattern comes from its first instruction at one place to its end at another
exactly if the pattern accepts the text between. -/
theorem path_program_iff (text : List Char) (start stop : Nat) :
    (∃ count, node.program.2.Path text count (node.program.1, start) (0, stop)) ↔
      node.Accepts text start stop := by
  have hstretch := (node.realizes_layout text #[.accept] 0 (by simp)).2 node.program.2
    fun _ _ _ => rfl
  constructor
  · rintro ⟨count, hpath⟩
    obtain ⟨place, rest, -, haccepts, hend⟩ := hstretch.splits _ _ _ hpath
    -- behind the end there is no step
    obtain rfl := congrArg Prod.snd
      (hend.eq_of_accept ((node.accept_program_iff 0).mpr rfl))
    exact haccepts
  · exact hstretch.leads start stop

end Program

end Node

end Linewise
