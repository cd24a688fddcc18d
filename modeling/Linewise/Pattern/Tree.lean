import Linewise.Pattern.Bracket
import Linewise.Pattern.Node
import Linewise.Text.Name

/-!
# Trees — reading a whole pattern

`Node.read?` turns the text of a pattern into its tree, or fails when the text is not a pattern.
Alternatives are separated by bars, a repetition applies to the part in front of it, modes set
inside a group end with the group, and parts may be nested to a fixed depth.
-/

namespace Linewise

/-- A part of a pattern and the depth to which its own parts are nested.  A part without a tree
is a directive that only switches modes. -/
structure Part where
  node : Option Node
  depth : Nat
deriving Repr

namespace Part

/-- The tree of the part; a directive accepts the empty text. -/
def tree (part : Part) : Node := part.node.getD .empty

/-- Several parts under one head, a level deeper unless there is but one. -/
def join (head : List Node → Node) (parts : List Part) : Part :=
  match parts with
  | [part] => part
  | parts =>
    let depth := (parts.map (·.depth)).foldl max 0
    ⟨some (head (parts.map tree)), if parts.isEmpty then 0 else depth + 1⟩

end Part

namespace Reading

/-! ## Groups -/

def isNameChar (first : Bool) (c : Char) : Bool :=
  c == '_' || isNameLetter c ||
    (!first && (c == '.' || c == '[' || c == ']' || isNameNumber c))

/-- Reads a group name and the angle bracket behind it; names are not used twice. -/
def groupName : Reading Unit := do
  let cursor ← get
  let name := cursor.rest.takeWhile (· != '>')
  require (match name with
    | [] => false
    | c :: rest => isNameChar true c && rest.all (isNameChar false))
  require !(cursor.names.contains name)
  set { cursor with rest := cursor.rest.drop name.length, names := name :: cursor.names }
  expect '>'

/-- Reads flags up to the colon or the parenthesis behind them, which is left unread.  `value` is
what the next flag is set to, `seen` are the characters passed before. -/
def flags (fuel : Nat) (value : Bool) (seen : List Char) : Reading (List Char) :=
  match fuel with
  | 0 => failure
  | fuel + 1 => do
    let c ← peek
    if c = ':' || c = ')' then
      -- a hyphen stands in front of the flags that it switches off
      require (seen.head? != some '-')
      return seen
    else
      require !(seen.contains c)
      if c = '-' then
        skip
        flags fuel false (c :: seen)
      else
        let cursor ← get
        let modes ← cursor.modes.set? c value
        set { cursor with rest := cursor.rest.tail, modes := modes }
        flags fuel value (c :: seen)

inductive Opening where
  | directive
  | plain
  | numbered (index : Nat)
deriving DecidableEq, Repr

def nextGroup : Reading Opening := modifyGet fun cursor =>
  (.numbered (cursor.groups + 1), { cursor with groups := cursor.groups + 1 })

/-- Reads what a parenthesis opens, up to the first part of the group. -/
def opening : Reading Opening := do
  skipSpaced
  if ← accept "?P<" then
    let group ← nextGroup
    groupName
    return group
  if ← accept "?<" then
    let group ← nextGroup
    groupName
    return group
  if ← accept "?" then
    let seen ← flags ((← get).rest.length + 1) true []
    let last ← peek
    skip
    if last = ')' then
      -- a directive switches something
      require !seen.isEmpty
      return .directive
    else
      return .plain
  nextGroup

/-! ## Repetitions -/

/-- Reads the question mark that turns a repetition's preference round, and gives the preference
for more. -/
def greediness : Reading Bool := do
  let lazily := (← peek?) == some '?'
  if lazily then skip
  return lazily == (← modes).swapGreed

/-- Reads the bounds of a counted repetition; the cursor stands at the opening brace. -/
def bounds : Reading (Nat × Option Nat) := do
  skipSpaced
  let min ← decimal
  if (← peek) = ',' then
    skipSpaced
    if (← peek) = '\x7d' then
      skipSpaced
      return (min, none)
    else
      let max ← decimal
      expect '\x7d'
      skipIgnored
      require (min ≤ max)
      return (min, some max)
  else
    expect '\x7d'
    skipIgnored
    return (min, some min)

/-- Reads how often the part in front is repeated; the cursor stands at the operator. -/
def repetition (operator : Char) : Reading (Nat × Option Nat × Bool) := do
  let (min, max) ← match operator with
    | '?' => do skip; pure (0, some 1)
    | '*' => do skip; pure (0, none)
    | '+' => do skip; pure (1, none)
    | _ => bounds
  return (min, max, ← greediness)

/-! ## Single parts -/

/-- The pattern of one character, in both cases when case is ignored. -/
def literalNode (c : Char) : Reading Node := do
  let rule ← caseRule
  if (← modes).caseless && (rule.variants c).any (· != c) then
    return .chars (.ignoringCase rule (.single c))
  else
    return .chars (.single c)

/-- Reads a part that no bracket, parenthesis or repetition begins. -/
def simpleNode : Reading Node := do
  let modes ← modes
  match ← peek with
  | '\\' =>
    match ← escape with
    | .literal c => literalNode c
    | .set s => return .chars s
    | .look l => return .look l
  | '.' =>
    skip
    require modes.unicode
    return .chars <|
      if modes.dotAll then .all
      else if modes.crlf then .compl .lineBreaks
      else .compl .lineFeed
  | '^' =>
    skip
    return .look <|
      if !modes.multiLine then .textStart else if modes.crlf then .breakStart else .lineStart
  | '$' =>
    skip
    return .look <|
      if !modes.multiLine then .textEnd else if modes.crlf then .breakEnd else .lineEnd
  | c =>
    skip
    literalNode c

/-! ## The whole -/

/-- Reads alternatives up to the end of the pattern or an unread closing parenthesis.  `branches`
are the alternatives finished before and `parts` the parts of the current one, the last one first
in both; `fuel` bounds the number of parts. -/
def alternatives (fuel : Nat) (branches : List Part) (parts : List Part) : Reading Part :=
  match fuel with
  | 0 => failure
  | fuel + 1 => do
    skipIgnored
    match ← peek? with
    | none | some ')' =>
      return Part.join Node.alts (Part.join Node.seqs parts.reverse :: branches).reverse
    | some '|' =>
      skip
      alternatives fuel (Part.join Node.seqs parts.reverse :: branches) []
    | some '(' =>
      let outer ← modes
      match ← opening with
      | .directive => alternatives fuel branches (⟨none, 0⟩ :: parts)
      | group =>
        let body ← alternatives fuel [] []
        expect ')'
        -- the modes switched inside the group end with it
        modify fun cursor => { cursor with modes := outer }
        let node := match group with
          | .numbered index => .group index body.tree
          | _ => body.tree
        alternatives fuel branches (⟨some node, body.depth + 1⟩ :: parts)
    | some '[' =>
      let part ← bracket
      alternatives fuel branches (⟨some (.chars part.set), part.depth⟩ :: parts)
    | some c =>
      if c = '?' || c = '*' || c = '+' || c = '\x7b' then
        -- neither a directive nor the beginning of an alternative can be repeated
        match parts with
        | ⟨some body, depth⟩ :: parts =>
          let (min, max, greedy) ← repetition c
          let part := ⟨some (.repeated min max greedy body), depth + 1⟩
          alternatives fuel branches (part :: parts)
        | _ => failure
      else
        let node ← simpleNode
        alternatives fuel branches (⟨some node, 0⟩ :: parts)

end Reading

namespace Node

def depthLimit : Nat := 250

/-- The tree of a pattern, or nothing if the text is not a pattern. -/
def read? (text : List Char) : Option Node := do
  let (part, cursor) ← (Reading.alternatives (text.length + 1) [] []).run ⟨text, .initial, 0, []⟩
  if cursor.rest.isEmpty && part.depth ≤ depthLimit then some part.tree else none

end Node

end Linewise
