/-!
# Operators — the four arithmetic operations
-/

namespace Linewise

namespace Calculator

inductive Operator where
  | add
  | sub
  | mul
  | div
deriving DecidableEq, Repr

namespace Operator

def symbol : Operator → String
  | .add => "+"
  | .sub => "-"
  | .mul => "*"
  | .div => "/"

def name : Operator → String
  | .add => "Add"
  | .sub => "Sub"
  | .mul => "Mul"
  | .div => "Div"

def ofSymbol? : String → Option Operator
  | "+" => some .add
  | "-" => some .sub
  | "*" => some .mul
  | "/" => some .div
  | _ => none

@[simp] theorem ofSymbol?_symbol (op : Operator) : ofSymbol? op.symbol = some op := by
  cases op <;> rfl

end Operator

/-- The value of an operation, or nothing when it divides by zero. -/
def evaluate? (lhs : Float) (op : Operator) (rhs : Float) : Option Float :=
  match op with
  | .add => some (lhs + rhs)
  | .sub => some (lhs - rhs)
  | .mul => some (lhs * rhs)
  | .div => if rhs == 0.0 then none else some (lhs / rhs)

end Calculator

end Linewise
