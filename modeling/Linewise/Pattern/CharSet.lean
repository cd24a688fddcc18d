import Linewise.Text.Blank
import Linewise.Text.CaseFold
import Linewise.Text.Script
import Linewise.Text.Word

/-!
# Character sets — what one step of a pattern accepts

A set is a term: ranges and named properties at the leaves, set algebra above them.  Membership is
decided by evaluating the term, one equation per constructor.
-/

namespace Linewise

inductive CharProperty where
  | letter
  | capital
  | decimalDigit
  | number
  | alphabetic
  | wordChar
  | blank
  | greek
  | usedInGreek
deriving DecidableEq, Repr

namespace CharProperty

def holds : CharProperty → Char → Bool
  | .letter => isLetter
  | .capital => isCapital
  | .decimalDigit => isDecimalDigit
  | .number => isNumber
  | .alphabetic => isAlphabetic
  | .wordChar => isWordChar
  | .blank => isBlank
  | .greek => isGreek
  | .usedInGreek => isUsedInGreek

/-- The code points with the property. -/
def table : CharProperty → RangeTable
  | .letter => letterRanges
  | .capital => allCapitalRanges
  | .decimalDigit => digitRanges
  | .number => .union digitRanges otherNumberRanges
  | .alphabetic => .union letterRanges alphabeticMarkRanges
  | .wordChar =>
    .union (.union (.union letterRanges alphabeticMarkRanges) digitRanges) wordMarkRanges
  | .blank => blankRanges
  | .greek => greekRanges
  | .usedInGreek => .union greekRanges sharedGreekRanges

theorem contains_table (p : CharProperty) (c : Char) : p.table.contains c = p.holds c := by
  cases p <;>
    simp only [table, holds, RangeTable.contains, RangeTable.containsCode_union, isLetter, isCapital,
      isDecimalDigit, isNumber, isAlphabetic, isWordChar, isBlank, isGreek, isUsedInGreek]

end CharProperty

/-- Which characters count as differing in case only. -/
inductive CaseRule where
  | unicode
  | ascii
deriving DecidableEq, Repr

namespace CaseRule

/-- The characters that differ from `c` in case only, `c` included. -/
def variants : CaseRule → Char → List Char
  | .unicode, c => caseVariants c
  | .ascii, c => asciiCaseVariants c

/-- The code points that another one represents, each with its representative. -/
def pairs : CaseRule → List (Nat × Nat)
  | .unicode => foldPairs
  | .ascii => asciiFoldPairs

end CaseRule

inductive CharSet where
  | empty
  | range (lo hi : Char)
  | property (p : CharProperty)
  | union (s t : CharSet)
  | inter (s t : CharSet)
  | diff (s t : CharSet)
  | symmDiff (s t : CharSet)
  | compl (s : CharSet)
  | ignoringCase (rule : CaseRule) (s : CharSet)
deriving DecidableEq, Repr

namespace CharSet

def contains : CharSet → Char → Bool
  | .empty, _ => false
  | .range lo hi, c => lo ≤ c && c ≤ hi
  | .property p, c => p.holds c
  | .union s t, c => s.contains c || t.contains c
  | .inter s t, c => s.contains c && t.contains c
  | .diff s t, c => s.contains c && !t.contains c
  | .symmDiff s t, c => s.contains c != t.contains c
  | .compl s, c => !s.contains c
  | .ignoringCase rule s, c => (rule.variants c).any s.contains

def single (c : Char) : CharSet := .range c c

def unions (sets : List CharSet) : CharSet := sets.foldr .union .empty

def all : CharSet := .compl .empty

@[simp] theorem contains_single (a c : Char) : (single a).contains c = (c == a) := by
  rw [Bool.eq_iff_iff]
  simp only [single, contains, Bool.and_eq_true, decide_eq_true_eq, beq_iff_eq]
  exact ⟨fun h => Char.le_antisymm h.2 h.1, fun h => h ▸ ⟨Char.le_refl _, Char.le_refl _⟩⟩

@[simp] theorem contains_all (c : Char) : all.contains c = true := rfl

theorem contains_unions (sets : List CharSet) (c : Char) :
    (unions sets).contains c = sets.any (·.contains c) := by
  induction sets with
  | nil => rfl
  | cons s sets ih => simp only [unions, List.foldr_cons, contains, List.any_cons] at ih ⊢; rw [ih]

/-! ## Sets with a name of their own -/

def lineFeed : CharSet := single '\n'

def lineBreaks : CharSet := .union (single '\n') (single '\r')

def asciiDigits : CharSet := .range '0' '9'

def asciiLetters : CharSet := .union (.range 'A' 'Z') (.range 'a' 'z')

/-- Letters, digits and the low line of ASCII. -/
def asciiWord : CharSet := unions [asciiLetters, asciiDigits, single '_']

def asciiBlanks : CharSet := .union (.range '\t' '\r') (single ' ')

/-- The ASCII class of a given name, if there is one. -/
def ofAsciiName? (name : String) : Option CharSet :=
  match name with
  | "alnum" => some (.union asciiLetters asciiDigits)
  | "alpha" => some asciiLetters
  | "ascii" => some (.range '\x00' '\x7f')
  | "blank" => some (.union (single '\t') (single ' '))
  | "cntrl" => some (.union (.range '\x00' '\x1f') (single '\x7f'))
  | "digit" => some asciiDigits
  | "graph" => some (.range '!' '~')
  | "lower" => some (.range 'a' 'z')
  | "print" => some (.range ' ' '~')
  | "punct" => some (unions [.range '!' '/', .range ':' '@', .range '[' '\x60', .range '\x7b' '~'])
  | "space" => some asciiBlanks
  | "upper" => some (.range 'A' 'Z')
  | "word" => some asciiWord
  | "xdigit" => some (unions [asciiDigits, .range 'A' 'F', .range 'a' 'f'])
  | _ => none

/-! ## Unicode properties by name -/

/-- A property name as it is compared: lower case, without an `is` at its very beginning and
without spaces, hyphens, low lines and characters outside ASCII.  The name `isc` is kept as it
is. -/
def normalizeName (name : List Char) : String :=
  let keep := fun name : List Char =>
    (name.filter fun c => c.toNat < 128 && c != ' ' && c != '_' && c != '-').map Char.toLower
  match name with
  | i :: s :: rest =>
    if i.toLower = 'i' && s.toLower = 's' then
      if keep rest = ['c'] then "isc" else String.ofList (keep rest)
    else String.ofList (keep name)
  | name => String.ofList (keep name)

def ofCategory? (name : String) : Option CharSet :=
  match name with
  | "any" => some all
  | "ascii" => some (.range '\x00' '\x7f')
  | "l" | "letter" => some (.property .letter)
  | "lu" | "uppercaseletter" => some (.property .capital)
  | "nd" | "decimalnumber" | "digit" => some (.property .decimalDigit)
  | "n" | "number" => some (.property .number)
  | _ => none

def ofScript? (name : String) : Option CharSet :=
  match name with
  | "greek" | "grek" => some (.property .greek)
  | _ => none

/-- The set of the characters used with a script, by its normalized name. -/
def ofScriptUse? (name : String) : Option CharSet :=
  match name with
  | "greek" | "grek" => some (.property .usedInGreek)
  | _ => none

/-- The set of a property that a character has or has not, by its normalized name. -/
def ofFlag? (name : String) : Option CharSet :=
  match name with
  | "alphabetic" | "alpha" => some (.property .alphabetic)
  | "whitespace" | "wspace" | "space" => some (.property .blank)
  | _ => none

def ofPropertyName? (name : List Char) : Option CharSet :=
  let name := normalizeName name
  (ofFlag? name).orElse fun _ => (ofCategory? name).orElse fun _ => ofScript? name

def ofPropertyValue? (name value : List Char) : Option CharSet :=
  let value := normalizeName value
  match normalizeName name with
  | "gc" | "generalcategory" => ofCategory? value
  | "sc" | "script" => ofScript? value
  | "scx" | "scriptextensions" => ofScriptUse? value
  | _ => none

/-! ## Tables -/

/-- The code points of the set.  Surrogates, which are no characters, may be among them. -/
def table : CharSet → RangeTable
  | .empty => .empty
  | .range lo hi => if h : lo ≤ hi then .ofRange lo.toNat hi.toNat h else .empty
  | .property p => p.table
  | .union s t => .union s.table t.table
  | .inter s t => .inter s.table t.table
  | .diff s t => .diff s.table t.table
  | .symmDiff s t => .symmDiff s.table t.table
  | .compl s => .compl s.table
  | .ignoringCase rule s => .closeUnder rule.pairs s.table

/-- Whether no part of the set is taken regardless of case. -/
def heedsCase : CharSet → Bool
  | .empty | .range _ _ | .property _ => true
  | .union s t | .inter s t | .diff s t | .symmDiff s t => s.heedsCase && t.heedsCase
  | .compl s => s.heedsCase
  | .ignoringCase _ _ => false

/-- The table of a set has the characters of the set and no others. -/
theorem contains_table {s : CharSet} (h : s.heedsCase = true) (c : Char) :
    s.table.contains c = s.contains c := by
  have hcode : c.toNat ≤ RangeTable.maxCode := by
    rcases c.valid with hlow | ⟨-, hhigh⟩
    · exact Nat.le_of_lt (Nat.lt_trans hlow (by decide))
    · exact Nat.le_of_lt_succ hhigh
  induction s with
  | empty => rfl
  | range lo hi =>
    rw [table, contains]
    split
    · exact RangeTable.containsCode_ofRange _ _
    · next hempty =>
      refine (Bool.and_eq_false_imp.mpr fun hlo => ?_).symm
      simp only [decide_eq_true_eq, decide_eq_false_iff_not] at hlo ⊢
      exact fun hhi => hempty (Char.le_trans hlo hhi)
  | property p => exact p.contains_table c
  | union s t ihs iht =>
    obtain ⟨hs, ht⟩ := Bool.and_eq_true_iff.mp h
    rw [contains, ← ihs hs, ← iht ht]
    exact RangeTable.containsCode_union _ _ _
  | inter s t ihs iht =>
    obtain ⟨hs, ht⟩ := Bool.and_eq_true_iff.mp h
    rw [contains, ← ihs hs, ← iht ht]
    exact RangeTable.containsCode_inter _ _ hcode
  | diff s t ihs iht =>
    obtain ⟨hs, ht⟩ := Bool.and_eq_true_iff.mp h
    rw [contains, ← ihs hs, ← iht ht]
    exact RangeTable.containsCode_diff _ _ hcode
  | symmDiff s t ihs iht =>
    obtain ⟨hs, ht⟩ := Bool.and_eq_true_iff.mp h
    rw [contains, ← ihs hs, ← iht ht]
    exact RangeTable.containsCode_symmDiff _ _ hcode
  | compl s ih =>
    rw [contains, ← ih h]
    exact RangeTable.containsCode_compl _ hcode
  | ignoringCase rule s => cases h

/-- The only character of the set, if it has but one. -/
def only? (s : CharSet) : Option Char :=
  match s.table.ranges with
  | [(lo, hi)] => if lo = hi then some (Char.ofNat lo) else none
  | _ => none

end CharSet

end Linewise
