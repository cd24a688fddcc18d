import Linewise.Position
import Linewise.Text.Quoted

/-!
# Tokens — classified pieces of text

A token has a kind, chosen by whoever sets up the lexer, the text that its rule captured, and the
position of its first character.  The lexer compares kinds and shows their names; it asks nothing
else of them.
-/

namespace Linewise

/-- Kinds of tokens, each with the name that messages show. -/
class TokenKind (κ : Type) where
  name : κ → String

instance : TokenKind String where
  name kind := kind

structure Token (κ : Type) where
  kind : κ
  text : String
  position : Position
deriving DecidableEq, Repr

namespace Token

variable {κ : Type} [TokenKind κ]

/-- A kind and, if it matters, a text, in the words of a diagnostic. -/
def describeKind (kind : κ) (text : Option String) : String :=
  match text with
  | none => TokenKind.name kind
  | some text => TokenKind.name kind ++ " \x60" ++ text ++ "\x60"

def describe (token : Token κ) : String := describeKind token.kind (some token.text)

def inspect (token : Token κ) : String :=
  recordText "Token" [("kind", TokenKind.name token.kind), ("text", Quoted.encode token.text),
    ("position", token.position.inspect)] false

end Token

/-- What is known of the token in front of the lexer: nothing yet, the token, or that there is
none. -/
inductive Lookahead (κ : Type) where
  | unprimed
  | token (token : Token κ)
  | endOfInput
deriving DecidableEq, Repr

namespace Lookahead

variable {κ : Type}

/-- The token in front of the lexer, if it is known and there is one. -/
def token? : Lookahead κ → Option (Token κ)
  | .token t => some t
  | .unprimed | .endOfInput => none

def inspect [TokenKind κ] : Lookahead κ → String
  | .unprimed => "Unprimed"
  | .token t => "Token(" ++ t.inspect ++ ")"
  | .endOfInput => "EndOfInput"

end Lookahead

end Linewise
