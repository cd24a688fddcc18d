import Linewise.LexError
import Linewise.Number.Reading
import Linewise.Rule

/-!
# Calculator errors — what can go wrong in a session

Errors in the text of an expression are reported and passed over.  A session ends when its input
or its output fails, and cannot begin when its token rules are unfit.
-/

namespace Linewise

namespace Calculator

inductive Kind where
  | decimal
  | operator
  | reserved
deriving DecidableEq, Repr

/-- The names of the kinds in messages. -/
instance : TokenKind Kind where
  name
    | .decimal => "Decimal"
    | .operator => "Operator"
    | .reserved => "Reserved"

end Calculator

open Calculator in
inductive CalcError where
  | lex (error : LexError Kind)
  | rule (error : RuleError)
  | invalidNumber (text : String) (fault : NumberFault)
  | unknownOperator (text : String)
  | divisionByZero
  | output (failure : Failure)
deriving DecidableEq, Repr

namespace CalcError

def message : CalcError → String
  | .lex error => error.message
  | .rule error => error.message
  | .invalidNumber text _ => "\x60" ++ text ++ "\x60 is not a number"
  | .unknownOperator text => "unknown operator \x60" ++ text ++ "\x60"
  | .divisionByZero => "division by zero"
  | .output _ => "failed to write output"

/-- The messages of what lies behind the error. -/
def reasons : CalcError → List String
  | .lex error => error.cause.reasons
  | .invalidNumber _ fault => [fault.message]
  | .output failure => [failure.message]
  | .rule _ | .unknownOperator _ | .divisionByZero => []

/-- Whether a session can go on after the error. -/
def isRecoverable : CalcError → Bool
  | .lex error =>
    match error.cause with
    | .unmatched _ | .unexpected _ _ _ => true
    | .device _ | .splitCharacter => false
  | .invalidNumber _ _ | .unknownOperator _ | .divisionByZero => true
  | .rule _ | .output _ => false

end CalcError

end Linewise
