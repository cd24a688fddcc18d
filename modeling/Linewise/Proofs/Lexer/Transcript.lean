import Linewise.Proofs.Lexer.Request
import Mathlib.Algebra.GroupWithZero.Nat

/-!
# Transcripts — what a lexer answers to a sequence of actions

An action is any operation that may change a lexer.  A transcript records the responses and what
the lexer went through: the tokens that left its lookahead, the events, and what happened on the
current line.  It ends at a match that splits a character, behind which no lexer is left to ask.
-/

namespace Linewise

/-- An operation that may change a lexer. -/
inductive Action (κ : Type) where
  | request (request : Request κ)
  | tokens (count : Nat)
  | skipLine
  | addRules (rules : List (Rule κ))
  | define (kind : κ) (pattern : String) (ignored : Bool)

inductive Response (κ : Type) where
  | answered (result : Except (LexError κ) (Answer κ))
  | items (items : List (Option (StreamItem κ)))
  | done
  | refused (error : RuleError)

variable {κ : Type}

/-! ## 1. Actions -/

/-- The number of lines that an error costs: one if it is a failure of the source. -/
def LexError.lostLines (error : LexError κ) : Nat :=
  match error.cause with
  | .device _ => 1
  | .unmatched _ | .unexpected _ _ _ | .splitCharacter => 0

/-- The number of lines that a result reports as lost. -/
def lostLines {α : Type} : Except (LexError κ) α → Nat
  | .ok _ => 0
  | .error error => error.lostLines

@[simp] theorem lostLines_ok {α : Type} (value : α) :
    lostLines (.ok value : Except (LexError κ) α) = 0 := rfl

@[simp] theorem lostLines_error {α : Type} (error : LexError κ) :
    lostLines (.error error : Except (LexError κ) α) = error.lostLines := rfl

/-- The token that an item of a stream brings, if it brings one. -/
def StreamItem.token? : Option (StreamItem κ) → Option (Token κ)
  | some (.ok t) => some t
  | _ => none

namespace Response

/-- Whether the response reports a match that splits a character. -/
def isSplit : Response κ → Bool
  | .answered (.error ⟨_, .splitCharacter⟩) => true
  | .items list => list.any fun
    | some (.error ⟨_, .splitCharacter⟩) => true
    | _ => false
  | _ => false

/-- The number of failures of the source that the response reports. -/
def failures : Response κ → Nat
  | .answered result => lostLines result
  | .items list => (list.map fun item => item.elim 0 lostLines).sum
  | .done | .refused _ => 0

end Response

/-- The response to an action, the lexer afterwards, the tokens that left its lookahead and the
events meanwhile. -/
structure Reaction (κ : Type) where
  response : Response κ
  lexer : Lexer κ
  removed : List (Token κ)
  events : List (LexEvent κ)

namespace Action

/-- The rules that an action registers. -/
def added : Action κ → List (Rule κ)
  | .addRules rules => rules
  | .define kind pattern ignored => (Rule.make kind pattern ignored).toOption.toList
  | .request _ | .tokens _ | .skipLine => []

variable [DecidableEq κ]

def perform (action : Action κ) (lexer : Lexer κ) : Reaction κ :=
  match action with
  | .request asked =>
    let outcome := asked.ask lexer
    -- the next token is what `peek` shows
    let removed := lexer.prime.state.lookahead.token?.toList.filter asked.takes
    ⟨.answered outcome.result, outcome.state, removed, outcome.events⟩
  | .tokens count =>
    let (items, stream, events) := (TokenStream.ofLexer lexer).nextMany count
    ⟨.items items, stream.lexer, items.filterMap StreamItem.token?, events⟩
  | .skipLine =>
    let (skipped, events) := lexer.skipLine
    ⟨.done, skipped, lexer.lookahead.token?.toList, events⟩
  | .addRules rules => ⟨.done, lexer.addRules rules, [], []⟩
  | .define kind pattern ignored =>
    match lexer.define kind pattern ignored with
    | .ok defined => ⟨.done, defined, [], []⟩
    | .error error => ⟨.refused error, lexer, [], []⟩

end Action

/-! ## 2. The current line -/

/-- What is on record of the current line: the tokens found on it, and whether `skipLine` was called
on it. -/
structure LineRecord (κ : Type) where
  tokens : List (Token κ)
  isSkipped : Bool
deriving DecidableEq

namespace LineRecord

def blank : LineRecord κ := ⟨[], false⟩

def note (record : LineRecord κ) : LexEvent κ → LineRecord κ
  | .lineRead _ _ => blank
  | .tokenFound t => { record with tokens := record.tokens ++ [t] }
  | _ => record

/-- The record after some events, at the end of which so many lines were lost.  Behind a lost line
nothing has happened yet. -/
def after (record : LineRecord κ) (events : List (LexEvent κ)) (lost : Nat) : LineRecord κ :=
  if lost = 0 then events.foldl note record else blank

@[simp] theorem after_nil_zero (record : LineRecord κ) : record.after [] 0 = record := rfl

theorem after_append (record : LineRecord κ) (events later : List (LexEvent κ)) (lost : Nat) :
    record.after (events ++ later) lost = (record.after events 0).after later lost := by
  simp only [after, List.foldl_append, if_true]

/-- Nothing more happens behind a failure, or what happens there counts from the lost line on. -/
theorem after_after_nil (record : LineRecord κ) (events : List (LexEvent κ)) (lost : Nat) :
    (record.after events lost).after [] lost = record.after events lost := by
  simp only [after, List.foldl_nil]
  split <;> rfl

end LineRecord

/-- The record of the current line after an action. -/
def Action.note (action : Action κ) (reaction : Reaction κ) (record : LineRecord κ) :
    LineRecord κ :=
  match action with
  | .skipLine => { record with isSkipped := true }
  | _ => record.after reaction.events reaction.response.failures

/-! ## 3. Transcripts -/

/-- What is on record after some actions: the lexer, the responses, the tokens that left the
lookahead, the events, and what happened on the current line. -/
structure Transcript (κ : Type) where
  lexer : Lexer κ
  responses : List (Response κ)
  removed : List (Token κ)
  events : List (LexEvent κ)
  lineRecord : LineRecord κ

namespace Transcript

def ofLexer (lexer : Lexer κ) : Transcript κ := ⟨lexer, [], [], [], .blank⟩

/-- Whether a match has split a character. -/
def isOver (transcript : Transcript κ) : Bool := transcript.responses.any Response.isSplit

/-- The number of failures of the source reported so far. -/
def failures (transcript : Transcript κ) : Nat := (transcript.responses.map Response.failures).sum

variable [DecidableEq κ]

def perform (transcript : Transcript κ) (action : Action κ) : Transcript κ :=
  if transcript.isOver then transcript
  else
    let reaction := action.perform transcript.lexer
    ⟨reaction.lexer, transcript.responses ++ [reaction.response],
      transcript.removed ++ reaction.removed, transcript.events ++ reaction.events,
      action.note reaction transcript.lineRecord⟩

theorem perform_of_isOver {transcript : Transcript κ} (hover : transcript.isOver = true)
    (action : Action κ) : transcript.perform action = transcript := by
  rw [perform, if_pos hover]

theorem perform_of_not_isOver {transcript : Transcript κ} (hgoing : transcript.isOver = false)
    (action : Action κ) :
    transcript.perform action =
      ⟨(action.perform transcript.lexer).lexer,
        transcript.responses ++ [(action.perform transcript.lexer).response],
        transcript.removed ++ (action.perform transcript.lexer).removed,
        transcript.events ++ (action.perform transcript.lexer).events,
        action.note (action.perform transcript.lexer) transcript.lineRecord⟩ := by
  rw [perform, if_neg (by simp [hgoing])]

end Transcript

namespace Lexer

variable [DecidableEq κ]

/-- The transcript of actions on a lexer, one after another. -/
def transcript (lexer : Lexer κ) (actions : List (Action κ)) : Transcript κ :=
  actions.foldl Transcript.perform (.ofLexer lexer)

theorem transcript_concat (lexer : Lexer κ) (actions : List (Action κ)) (action : Action κ) :
    lexer.transcript (actions ++ [action]) = (lexer.transcript actions).perform action := by
  rw [transcript, List.foldl_append]
  rfl

end Lexer

end Linewise
