/-!
# Faults of expressions

Why an expression has no value on a row, and how that is worded.
-/

namespace DocumentQuery.Expression

/-- What an operator takes. -/
inductive Operands where
  | number
  | numbers
  | text
  | texts
  | positions
  | date
  | two
  | three
  | branches
  deriving DecidableEq, Repr

/-- The wording of what an operator takes. -/
def Operands.words : Operands → String
  | .number => "a number"
  | .numbers => "numbers"
  | .text => "a string"
  | .texts => "strings"
  | .positions => "non-negative integer positions"
  | .date => "a date"
  | .two => "two arguments"
  | .three => "three arguments"
  | .branches => "if/then/else"

/-- Why an expression has no value. -/
inductive Fault where
  | expects (operator : String) (operands : Operands)
  | divisionByZero
  | unsupported (operator : String)
  deriving DecidableEq, Repr

/-- The wording of a fault. -/
def Fault.message : Fault → String
  | .expects operator operands => operator ++ " expects " ++ operands.words
  | .divisionByZero => "$divide by zero"
  | .unsupported operator => "unsupported expression operator " ++ operator

end DocumentQuery.Expression
