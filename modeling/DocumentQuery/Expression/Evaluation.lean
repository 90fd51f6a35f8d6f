import DocumentQuery.Expression.Arithmetic
import DocumentQuery.Expression.Dates
import DocumentQuery.Expression.Texts
import DocumentQuery.Json.Order
import DocumentQuery.Json.Path
import DocumentQuery.Predicate

/-!
# Evaluating expressions

An expression is a document. A text that begins with `$` reads a field path, an object with one
operator applies it, other arrays and objects are built of their parts, and all else stands for
itself. The operators are told apart by how they take their operands; what they do with the
operands' values is a function each.
-/

namespace DocumentQuery.Expression

/-- An operator, by how it takes its operands. -/
inductive Operator where
  /-- The operand is not evaluated. -/
  | literal
  /-- A list of operands, or a single one. -/
  | positional (apply : List Json → Except Fault Json)
  /-- One operand, alone or in a list. -/
  | unary (apply : Json → Except Fault Json)
  /-- Operands by name, null where a name is absent. -/
  | named (names : List String) (apply : List Json → Except Fault Json)
  /-- A condition and two branches, of which one is evaluated. -/
  | choice

/-- Equality by value of the first two operands. -/
def equal : List Json → Except Fault Json
  | left :: right :: _ => .ok (.bool (left.equal right))
  | _ => .error (.expects "$eq" .two)

/-- The operator of a name, with the way in which it takes its operands. All names begin with a
dollar sign, so that no field is taken for one. -/
def operator? : String → Option Operator
  | "$literal" => some .literal
  | "$add" => some (.positional add)
  | "$subtract" => some (.positional subtract)
  | "$multiply" => some (.positional multiply)
  | "$divide" => some (.positional divide)
  | "$concat" => some (.positional concat)
  | "$toLower" => some (.unary toLower)
  | "$toUpper" => some (.unary toUpper)
  | "$substrCP" => some (.positional substring)
  | "$strLenCP" => some (.unary length)
  | "$trim" => some (.named ["input"] trim)
  | "$indexOfCP" => some (.positional indexOf)
  | "$replaceOne" =>
    some (.named ["input", "find", "replacement"] (replace "$replaceOne" Text.replaceFirst))
  | "$replaceAll" =>
    some (.named ["input", "find", "replacement"] (replace "$replaceAll" Text.replaceAll))
  | "$cond" => some .choice
  | "$eq" => some (.positional equal)
  | "$toDate" => some (.unary toDate)
  | "$year" => some (.unary year)
  | "$month" => some (.unary month)
  | "$dayOfMonth" => some (.unary day)
  | "$round" => some (.positional round)
  | "$floor" => some (.unary floor)
  | "$ceil" => some (.unary ceil)
  | _ => none

/-- Whether a condition's value selects the first branch: false, null and zero do not. -/
def isTrue : Json → Bool
  | .null => false
  | .bool value => value
  | .number value => !value.toBinary64.isZero
  | _ => true

/-- The field path that a text reads, if it reads one. -/
def fieldOf? (text : String) : Option String :=
  match text.toList with
  | '$' :: path => some (String.ofList path)
  | _ => none

mutual

/-- The value of an expression on a row. A text with a dollar sign is a field and null where the row
does not have it; an object with one such name applies an operator, and any other is evaluated
member by member. -/
def evaluate (row : Json) : Json → Except Fault Json
  | .string text => match fieldOf? text with
    | some path => .ok ((row.valueAt? path).getD .null)
    | none => .ok (.string text)
  | .array items => do return .array (← evaluateItems row items)
  | .object [(name, operand)] =>
    if Predicate.isOperator name then
      match operator? name with
      | none => .error (.unsupported name)
      | some .literal => .ok operand
      | some (.positional apply) => match operand with
        | .array items => do apply (← evaluateItems row items)
        | single => do apply [← evaluate row single]
      | some (.unary apply) => match operand with
        | .array [single] => do apply (← evaluate row single)
        | single => do apply (← evaluate row single)
      | some (.named names apply) => match operand with
        | .object members => do apply (← names.mapM fun name => evaluateNamed row name members)
        | _ => apply (names.map fun _ => .null)
      | some .choice => match operand with
        | .array [condition, first, second] => do
          if isTrue (← evaluate row condition) then evaluate row first else evaluate row second
        | .object members =>
          if ["if", "then", "else"].all fun name => Members.has name members then do
            let condition ← evaluateNamed row "if" members
            evaluateNamed row (if isTrue condition then "then" else "else") members
          else .error (.expects name .branches)
        | _ => .error (.expects name .three)
    else do return .object [(name, ← evaluate row operand)]
  | .object members => do return .object (← evaluateMembers row members)
  | value => .ok value
termination_by structural expression => expression

/-- The values of expressions in turn. -/
def evaluateItems (row : Json) : List Json → Except Fault (List Json)
  | [] => .ok []
  | item :: items => do
    let value ← evaluate row item
    return value :: (← evaluateItems row items)
termination_by structural items => items

/-- The members of an object with their expressions' values. -/
def evaluateMembers (row : Json) : List (String × Json) → Except Fault (List (String × Json))
  | [] => .ok []
  | (name, expression) :: members => do
    let value ← evaluate row expression
    return (name, value) :: (← evaluateMembers row members)
termination_by structural members => members

/-- The value of a named operand, null where the name is absent. -/
def evaluateNamed (row : Json) (wanted : String) : List (String × Json) → Except Fault Json
  | [] => .ok .null
  | (name, expression) :: members =>
    if name = wanted then evaluate row expression else evaluateNamed row wanted members
termination_by structural members => members

end

/-- A number stands for itself. -/
theorem evaluate_number (row : Json) (number : Number) :
    evaluate row (.number number) = .ok (.number number) := by
  simp [evaluate]

end DocumentQuery.Expression
