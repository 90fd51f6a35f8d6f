/-!
# Faults in filter texts

What can be wrong with a filter text, where, and how that is worded. A place is the number of
UTF-8 octets before it.
-/

namespace DocumentQuery.Filter

/-- What may stand at a place of a filter where something else stands. -/
inductive Expected where
  | propertyOrFunction
  | operator
  | property
  | literal
  | text
  | boolean
  | openingMark
  | closingMark
  | comma
  | commaOrClosingMark
  deriving DecidableEq, Repr

/-- The wording of what may stand at a place. -/
def Expected.words : Expected → String
  | .propertyOrFunction => "a property or function"
  | .operator => "an operator"
  | .property => "a property"
  | .literal => "a literal"
  | .text => "a string literal"
  | .boolean => "a boolean"
  | .openingMark => "'('"
  | .closingMark => "')'"
  | .comma => "','"
  | .commaOrClosingMark => "',' or ')'"

/-- What is wrong with a filter text, apart from the place where it is. -/
inductive Problem where
  | unterminatedText
  | invalidNumber
  | unexpectedChar (char : Char)
  | expected (what : Expected)
  | unsupportedFunction (name : String)
  | unsupportedOperator (name : String)
  | tooDeep
  | unexpectedEnd
  | trailingInput
  deriving DecidableEq, Repr

/-- The wording of a problem. -/
def Problem.message : Problem → String
  | .unterminatedText => "unterminated string literal"
  | .invalidNumber => "invalid number"
  | .unexpectedChar char => "unexpected character '" ++ String.singleton char ++ "'"
  | .expected what => "expected " ++ what.words
  | .unsupportedFunction name => "unsupported function '" ++ name ++ "'"
  | .unsupportedOperator name => "unsupported operator '" ++ name ++ "'"
  | .tooDeep => "filter nested too deeply"
  | .unexpectedEnd => "unexpected end of filter"
  | .trailingInput => "unexpected trailing input"

/-- A problem and the octet at which it stands. -/
structure Fault where
  position : Nat
  problem : Problem
  deriving DecidableEq, Repr

/-- The wording of a fault. -/
def Fault.message (fault : Fault) : String :=
  fault.problem.message ++ " at position " ++ Nat.repr fault.position

end DocumentQuery.Filter
