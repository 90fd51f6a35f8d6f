import DocumentQuery.Json.Basic
import DocumentQuery.Text.Case

/-!
# Formulas of computed fields

A formula is a field, a literal, or a function applied to formulas; a clause gives its value a
name. Which functions there are, how they are written and what operands they take is data.
-/

namespace DocumentQuery.Compute

/-- The functions of formulas: arithmetic, functions of texts, parts of dates, and rounding. -/
inductive Function where
  | add
  | sub
  | mul
  | div
  | concat
  | toLower
  | toUpper
  | substring
  | trim
  | length
  | indexOf
  | replace
  | replaceAll
  | startsWith
  | endsWith
  | year
  | month
  | day
  | round
  | floor
  | ceiling
  deriving DecidableEq, Repr, Inhabited

/-- A formula. Field paths are dotted. -/
inductive Formula where
  | field (path : String)
  | literal (value : Json)
  | call (function : Function) (operands : List Formula)
  deriving Inhabited

/-- A formula and the name its value is given. -/
structure Clause where
  formula : Formula
  name : String
  deriving Inhabited

/-- What an operand may be. -/
inductive Kind where
  /-- A field or a call. -/
  | expression
  /-- A quoted text. -/
  | text
  /-- An integer that is not negative. -/
  | count
  /-- A numeral. -/
  | number
  /-- Any formula. -/
  | anything
  deriving DecidableEq, Repr

/-- Whether a formula is of a kind. A text, a count or a numeral has to be written as a literal, and
fields and calls are told from literals. -/
def Kind.accepts : Kind → Formula → Bool
  | .anything, _ => true
  | .expression, .field _ => true
  | .expression, .call _ _ => true
  | .text, .literal (.string _) => true
  | .count, .literal (.number value) => value.unsigned?.isSome
  | .number, .literal (.number _) => true
  | _, _ => false

namespace Function

/-- Every function. -/
def all : List Function :=
  [.add, .sub, .mul, .div, .concat, .toLower, .toUpper, .substring, .trim, .length, .indexOf,
    .replace, .replaceAll, .startsWith, .endsWith, .year, .month, .day, .round, .floor, .ceiling]

/-- The written name. -/
def name : Function → String
  | .add => "add"
  | .sub => "sub"
  | .mul => "mul"
  | .div => "div"
  | .concat => "concat"
  | .toLower => "tolower"
  | .toUpper => "toupper"
  | .substring => "substring"
  | .trim => "trim"
  | .length => "length"
  | .indexOf => "indexof"
  | .replace => "replace"
  | .replaceAll => "replaceall"
  | .startsWith => "startswith"
  | .endsWith => "endswith"
  | .year => "year"
  | .month => "month"
  | .day => "day"
  | .round => "round"
  | .floor => "floor"
  | .ceiling => "ceiling"

/-- Whether the name is written between the two operands. -/
def isBetween : Function → Bool
  | .add | .sub | .mul | .div => true
  | _ => false

/-- The kinds of the operands; those behind the required ones may be left out. -/
def operands : Function → List Kind
  | .add | .sub | .mul | .div => [.expression, .number]
  | .concat => [.anything, .anything]
  | .substring => [.expression, .count, .count]
  | .indexOf | .startsWith | .endsWith => [.expression, .text]
  | .replace | .replaceAll => [.expression, .text, .text]
  | .toLower | .toUpper | .trim | .length | .year | .month | .day | .round | .floor | .ceiling =>
    [.expression]

/-- How many operands are required. -/
def required : Function → Nat
  | .substring => 2
  | function => function.operands.length

/-- The function of a written name, in any letter case. -/
def find? (isBetween : Bool) (name : String) : Option Function :=
  all.find? fun function =>
    function.isBetween == isBetween && Text.equalIgnoringCase function.name.toList name.toList

/-- Whether a function takes formulas as its operands. -/
def accepts (function : Function) (formulas : List Formula) : Bool :=
  decide (function.required ≤ formulas.length ∧ formulas.length ≤ function.operands.length)
    && (formulas.zip function.operands).all fun (formula, kind) => kind.accepts formula

/-- The call of a function, if it takes the operands. -/
def call? (function : Function) (formulas : List Formula) : Option Formula :=
  if function.accepts formulas then some (.call function formulas) else none

end Function

end DocumentQuery.Compute
