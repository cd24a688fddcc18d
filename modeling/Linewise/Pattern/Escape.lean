import Linewise.Pattern.Cursor
import Linewise.Pattern.Look

/-!
# Escapes — what a backslash introduces

An escape stands for a character, a set of characters or a look.  Outside Unicode mode the sets
are those of ASCII, and an escape that would reach beyond valid text is refused.
-/

namespace Linewise

inductive Atom where
  | literal (c : Char)
  | set (s : CharSet)
  | look (l : Look)
deriving Repr

namespace Reading

def caseRule : Reading CaseRule := do
  return if (← modes).unicode then .unicode else .ascii

/-- The set, closed under case variants when case is ignored. -/
def foldSet (s : CharSet) : Reading CharSet := do
  let rule ← caseRule
  return if (← modes).caseless then .ignoringCase rule s else s

/-- The complement of the set if asked for; outside Unicode mode complements are refused, because
they would accept parts of characters. -/
def negateIf (negated : Bool) (s : CharSet) : Reading CharSet := do
  if negated then
    require (← modes).unicode
    return .compl s
  else
    return s

/-! ## Classes with a letter -/

def shorthand (letter : Char) : Reading CharSet := do
  if (← modes).unicode then
    match letter with
    | 'd' => return .property .decimalDigit
    | 's' => return .property .blank
    | _ => return .property .wordChar
  else
    match letter with
    | 'd' => return .asciiDigits
    | 's' => return .asciiBlanks
    | _ => return .asciiWord

/-- What a text in the braces of a property class asks for: a property by name, or a value of a
property, which a character is to have or not to have. -/
inductive PropertyQuery where
  | named (name : List Char)
  | valued (name value : List Char) (isEqual : Bool)
deriving DecidableEq, Repr

namespace PropertyQuery

/-- The text in front of the first occurrence of a mark and the text behind it. -/
def splitAt? (mark : List Char) : List Char → Option (List Char × List Char)
  | [] => none
  | c :: rest =>
    if mark.isPrefixOf (c :: rest) then some ([], (c :: rest).drop mark.length)
    else (splitAt? mark rest).map fun (name, value) => (c :: name, value)

/-- Reads a query: the name and the value are separated by the first `!=`, else by the first `:`,
else by the first `=`. -/
def ofText (text : List Char) : PropertyQuery :=
  match splitAt? ['!', '='] text with
  | some (name, value) => .valued name value false
  | none =>
    match (splitAt? [':'] text).orElse fun _ => splitAt? ['='] text with
    | some (name, value) => .valued name value true
    | none => .named text

/-- The set that has the property, and whether its complement is asked for. -/
def find? : PropertyQuery → Option (CharSet × Bool)
  | .named name => (CharSet.ofPropertyName? name).map (·, false)
  | .valued name value isEqual => (CharSet.ofPropertyValue? name value).map (·, !isEqual)

end PropertyQuery

/-- Reads what a Unicode property class asks for, one letter or a text in braces. -/
def propertyQuery : Reading PropertyQuery := do
  skipSpaced
  let c ← peek
  if c = '\x7b' then
    skipSpaced
    let text ← many (· != '\x7d')
    expect '\x7d'
    return .ofText text
  else
    require (c != '\\')
    skipSpaced
    return .named [c]

/-- Reads a Unicode property class; the cursor stands at its letter. -/
def propertyClass (negated : Bool) : Reading CharSet := do
  let query ← propertyQuery
  require (← modes).unicode
  match query.find? with
  | none => failure
  | some (s, complemented) => negateIf (negated != complemented) (← foldSet s)

/-! ## Characters by number -/

/-- Reads a character by its code point; the cursor stands at the letter, whose form without
braces has `width` digits.  Outside Unicode mode two digits are a byte, and a byte beyond ASCII is
refused. -/
def codeEscape (width : Nat) : Reading Char := do
  skipSpaced
  let c ← peek
  if c = '\x7b' then
    skipSpaced
    let digits ← many fun d => d.isDigit || ('a' ≤ d && d ≤ 'f') || ('A' ≤ d && d ≤ 'F')
    require ((← peek) == '\x7d')
    skipSpaced
    require !digits.isEmpty
    charOfCode? (numberOf 16 digits)
  else
    let digits ← hexDigits width
    let c ← charOfCode? (numberOf 16 digits)
    require ((← modes).unicode || width != 2 || c.toNat < 128)
    return c

/-! ## Word edges -/

/-- Reads the braces behind a word edge, which narrow it to one side.  Braces that do not begin
with a letter or a hyphen are left for a repetition. -/
def wordEdge : Reading Look := do
  let rule ← caseRule
  let before ← get
  if (← peek?) != some '\x7b' then
    return .wordEdge rule
  skipSpaced
  let isNameChar := fun c : Char => c.isAlpha || c == '-'
  if isNameChar (← peek) then
    let name ← many isNameChar
    expect '\x7d'
    match String.ofList name with
    | "start" => return .wordStart rule
    | "end" => return .wordEnd rule
    | "start-half" => return .wordStartHalf rule
    | "end-half" => return .wordEndHalf rule
    | _ => failure
  else
    -- the brace is the first one of a repetition
    set before
    return .wordEdge rule

/-! ## All escapes -/

/-- Reads an escape; the cursor stands at the backslash. -/
def escape : Reading Atom := do
  skip
  let c ← peek
  match c with
  | 'x' => return .literal (← codeEscape 2)
  | 'u' => return .literal (← codeEscape 4)
  | 'U' => return .literal (← codeEscape 8)
  | 'p' => return .set (← propertyClass false)
  | 'P' => return .set (← propertyClass true)
  | _ =>
    skip
    match c with
    | 'd' | 's' | 'w' => return .set (← shorthand c)
    | 'D' | 'S' | 'W' => return .set (← negateIf true (← shorthand c.toLower))
    | 'a' => return .literal '\x07'
    | 'f' => return .literal '\x0c'
    | 't' => return .literal '\t'
    | 'n' => return .literal '\n'
    | 'r' => return .literal '\r'
    | 'v' => return .literal '\x0b'
    | 'A' => return .look .textStart
    | 'z' => return .look .textEnd
    | 'b' => return .look (← wordEdge)
    | 'B' => return .look (.wordInside (← caseRule))
    | '<' => return .look (.wordStart (← caseRule))
    | '>' => return .look (.wordEnd (← caseRule))
    | _ =>
      -- letters and digits are kept for escapes with a meaning
      require (c.toNat < 128 && !c.isAlphanum)
      return .literal c

end Reading

end Linewise
