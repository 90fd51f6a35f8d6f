import DocumentQuery.Compute.Lowering
import DocumentQuery.Expression.Evaluation
import DocumentQuery.Json.Path

/-!
# The value of a formula

A formula has a value on a row by itself: a field is read, a literal stands for itself, and a
function is applied to the values of its operands. Clauses set their names to such values in
turn, each on the row as the clauses before it have left it.
-/

namespace DocumentQuery.Compute

open Expression (Fault)

namespace Function

/-- The value of a function on the values of its operands. A part at the start of a text is
compared with as many characters as the part has, and one at the end with as many behind it. -/
def apply : Function → List Json → Except Fault Json
  | .add, [left, right] => Expression.add [left, right]
  | .sub, [left, right] => Expression.subtract [left, right]
  | .mul, [left, right] => Expression.multiply [left, right]
  | .div, [left, right] => Expression.divide [left, right]
  | .concat, texts => Expression.concat texts
  | .toLower, [text] => Expression.toLower text
  | .toUpper, [text] => Expression.toUpper text
  | .substring, [text, start] => do
    Expression.substring [text, start, ← Expression.length text]
  | .substring, [text, start, count] => Expression.substring [text, start, count]
  | .trim, [text] => Expression.trim [text]
  | .length, [text] => Expression.length text
  | .indexOf, [text, part] => Expression.indexOf [text, part]
  | .replace, [text, part, other] =>
    Expression.replace "$replaceOne" Text.replaceFirst [text, part, other]
  | .replaceAll, [text, part, other] =>
    Expression.replace "$replaceAll" Text.replaceAll [text, part, other]
  | .startsWith, [text, part] => do
    let start ← Expression.substring [text, .ofNat 0, ← Expression.length part]
    return .bool (start.equal part)
  | .endsWith, [text, part] => do
    let size ← Expression.length part
    let passed ← Expression.subtract [← Expression.length text, size]
    let ending ← Expression.substring [text, passed, size]
    return .bool (ending.equal part)
  | .year, [date] => do Expression.year (← Expression.toDate date)
  | .month, [date] => do Expression.month (← Expression.toDate date)
  | .day, [date] => do Expression.day (← Expression.toDate date)
  | .round, [number] => Expression.round [number, .ofNat 0]
  | .floor, [number] => Expression.floor number
  | .ceiling, [number] => Expression.ceil number
  | function, _ => .error (.unsupported function.name)

end Function

namespace Formula

mutual

/-- The value of a formula on a row. A field that the row does not have is null. -/
def value (row : Json) : Formula → Except Fault Json
  | .field path => .ok ((row.valueAt? path).getD .null)
  | .literal value => .ok value
  | .call function operands => do function.apply (← values row operands)
termination_by structural formula => formula

/-- The values of formulas in turn, with the first fault among them. -/
def values (row : Json) : List Formula → Except Fault (List Json)
  | [] => .ok []
  | formula :: formulas => do
    let value ← value row formula
    return value :: (← values row formulas)
termination_by structural formulas => formulas

end

mutual

/-- A formula is accepted if its literals are texts and numbers and its functions take their
operands. -/
def Accepted : Formula → Prop
  | .field _ => True
  | .literal value => (∃ text, value = .string text) ∨ ∃ number, value = .number number
  | .call function operands => function.accepts operands = true ∧ AllAccepted operands
termination_by structural formula => formula

/-- Whether all of the formulas are accepted. -/
def AllAccepted : List Formula → Prop
  | [] => True
  | formula :: formulas => Accepted formula ∧ AllAccepted formulas
termination_by structural formulas => formulas

end

mutual

/-- The field paths of a formula, at any depth and in their order. -/
def paths : Formula → List String
  | .field path => [path]
  | .literal _ => []
  | .call _ operands => pathsOf operands
termination_by structural formula => formula

/-- The field paths of formulas, one formula after the other. -/
def pathsOf : List Formula → List String
  | [] => []
  | formula :: formulas => paths formula ++ pathsOf formulas
termination_by structural formulas => formulas

end

end Formula

/-- A row with the name of a clause set to the value of its formula. -/
def Clause.set (clause : Clause) (row : Members Json) : Except Fault (Members Json) := do
  return row.insert clause.name (← clause.formula.value (.object row))

/-- A row behind clauses in turn: each finds the names that those before it have set. -/
def setAll : List Clause → Members Json → Except Fault (Members Json)
  | [], row => .ok row
  | clause :: clauses, row => do setAll clauses (← clause.set row)

end DocumentQuery.Compute
