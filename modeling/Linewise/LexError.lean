import Linewise.Failure
import Linewise.Token

/-!
# Lexer errors — what can go wrong at a position

Text that no rule matches stays in front of the lexer until the rest of its line is skipped.  An
unexpected token stays in front of the lexer too, but can be discarded.  A failure of the source
costs the line being read.  A match that begins behind the beginning of the text may end inside a
character of it; the lexer then cannot go on.
-/

namespace Linewise

inductive LexCause (κ : Type) where
  | unmatched (remainder : String)
  | unexpected (expected : κ) (text : Option String) (found : Option (Token κ))
  | device (failure : Failure)
  | splitCharacter
deriving DecidableEq, Repr

structure LexError (κ : Type) where
  position : Position
  cause : LexCause κ
deriving DecidableEq, Repr

namespace LexCause

variable {κ : Type}

def message [TokenKind κ] : LexCause κ → String
  | .unmatched remainder => "no token definition matches \x60" ++ remainder ++ "\x60"
  | .unexpected expected text found =>
    let foundText := match found with
      | some token => token.describe
      | none => "end of input"
    "expected " ++ Token.describeKind expected text ++ ", found " ++ foundText
  | .device _ => "failed to read source line"
  | .splitCharacter => "match ends inside a character"

/-- The messages of what lies behind the cause. -/
def reasons : LexCause κ → List String
  | .device failure => [failure.message]
  | _ => []

def isUnmatched : LexCause κ → Bool
  | .unmatched _ => true
  | _ => false

/-- Whether a token was there, or none was, where another was required. -/
def isUnexpected : LexCause κ → Bool
  | .unexpected _ _ _ => true
  | _ => false

end LexCause

namespace LexError

variable {κ : Type} [TokenKind κ]

def message (error : LexError κ) : String :=
  error.position.describe ++ ": " ++ error.cause.message

end LexError

end Linewise
