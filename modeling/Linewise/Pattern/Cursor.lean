import Linewise.Text.Blank

/-!
# Cursor — reading a pattern from left to right

A reading is a step from one cursor to the next; it fails when the pattern is malformed.  In
verbose mode blanks and comments between the parts of a pattern are skipped.
-/

namespace Linewise

/-- The modes that inline flags switch on and off. -/
structure Modes where
  caseless : Bool
  multiLine : Bool
  dotAll : Bool
  swapGreed : Bool
  unicode : Bool
  crlf : Bool
  verbose : Bool
deriving DecidableEq, Repr

namespace Modes

/-- The modes at the beginning of a pattern: Unicode alone is on. -/
def initial : Modes := ⟨false, false, false, false, true, false, false⟩

/-- Switches the mode of a flag letter; an unknown letter is refused. -/
def set? (modes : Modes) (flag : Char) (value : Bool) : Option Modes :=
  match flag with
  | 'i' => some { modes with caseless := value }
  | 'm' => some { modes with multiLine := value }
  | 's' => some { modes with dotAll := value }
  | 'U' => some { modes with swapGreed := value }
  | 'u' => some { modes with unicode := value }
  | 'R' => some { modes with crlf := value }
  | 'x' => some { modes with verbose := value }
  | _ => none

end Modes

/-- What is known while a pattern is read: the unread text, the modes in force, the number of
numbered groups opened so far and the names given to them. -/
structure Cursor where
  rest : List Char
  modes : Modes
  groups : Nat
  names : List (List Char)
deriving Repr

/-- A step of reading, which fails on a malformed pattern. -/
abbrev Reading := StateT Cursor Option

namespace Reading

/-- The text without the blanks and comments in front of it; `inComment` says whether it begins
inside a comment, which lasts to the end of its line. -/
def dropVerbose (inComment : Bool) : List Char → List Char
  | [] => []
  | c :: rest =>
    if inComment then dropVerbose (c != '\n') rest
    else if isBlank c then dropVerbose false rest
    else if c = '#' then dropVerbose true rest
    else c :: rest

def modes : Reading Modes := do return (← get).modes

def peek? : Reading (Option Char) := do return (← get).rest.head?

def peek : Reading Char := do
  match (← get).rest with
  | [] => failure
  | c :: _ => return c

def skip : Reading Unit := modify fun cursor => { cursor with rest := cursor.rest.tail }

def skipIgnored : Reading Unit := modify fun cursor =>
  if cursor.modes.verbose then { cursor with rest := dropVerbose false cursor.rest } else cursor

/-- Passes the next character and what verbose mode ignores behind it. -/
def skipSpaced : Reading Unit := do skip; skipIgnored

/-- Passes the given text if it stands next, and says whether it did. -/
def accept (text : String) : Reading Bool := do
  let cursor ← get
  if text.toList.isPrefixOf cursor.rest then
    set { cursor with rest := cursor.rest.drop text.length }
    return true
  else
    return false

def require (condition : Bool) : Reading Unit := if condition then pure () else failure

def expect (c : Char) : Reading Unit := do
  require ((← peek) == c)
  skip

/-- Reads characters with the given property as long as there are any, at most `limit` of them,
passing what verbose mode ignores after each. -/
def manyUpTo (limit : Nat) (p : Char → Bool) : Reading (List Char) :=
  match limit with
  | 0 => return []
  | limit + 1 => do
    match (← peek?) with
    | none => return []
    | some c =>
      if p c then
        skipSpaced
        return c :: (← manyUpTo limit p)
      else
        return []

/-- Reads the longest run of characters with the given property, passing what verbose mode
ignores after each. -/
def many (p : Char → Bool) : Reading (List Char) := do
  manyUpTo (← get).rest.length p

/-- Reads exactly `count` hexadecimal digits, ignoring in verbose mode what stands between. -/
def hexDigits (count : Nat) : Reading (List Char) :=
  match count with
  | 0 => return []
  | count + 1 => do
    let c ← peek
    require (c.isDigit || ('a' ≤ c && c ≤ 'f') || ('A' ≤ c && c ≤ 'F'))
    skipSpaced
    return c :: (← hexDigits count)

/-! ## Numbers -/

def digitValue (c : Char) : Nat :=
  if c.isDigit then c.toNat - '0'.toNat
  else if c.isLower then c.toNat - 'a'.toNat + 10
  else c.toNat - 'A'.toNat + 10

def numberOf (base : Nat) (digits : List Char) : Nat :=
  digits.foldl (fun n c => n * base + digitValue c) 0

def countLimit : Nat := 4294967295

/-- Reads a decimal number with blanks around it. -/
def decimal : Reading Nat := do
  modify fun cursor => { cursor with rest := trimBlanks cursor.rest }
  let digits ← many Char.isDigit
  let _ ← many isBlank
  require (!digits.isEmpty && numberOf 10 digits ≤ countLimit)
  return numberOf 10 digits

def charOfCode? (code : Nat) : Option Char :=
  if code.isValidChar then some (Char.ofNat code) else none

end Reading

end Linewise
