import DocumentQuery.Json.Order
import DocumentQuery.Json.Path
import DocumentQuery.Json.Printer
import DocumentQuery.Pattern.Reader

/-!
# Predicates on documents

A predicate is itself a document. Its members are clauses that must all hold: a combinator with
a list of predicates, or a field path with a condition. A condition is a value to be equal to,
or an object of operators. An array also meets a condition through any one of its items, and a
missing field equals null.

The terms of a combinator are all decided before they are combined, so that a fault in any of
them is found; clauses and operators are decided in turn until one does not hold.
-/

namespace DocumentQuery

namespace Predicate

/-- Why a predicate cannot be decided. A fault arises on a document, where the part of the predicate
that is at fault is looked at. -/
inductive Fault where
  | notAnObject (value : Json)
  | unknownCombinator (name : String)
  | unknownOperator (name : String)
  | termsNotAnArray
  | choicesNotAnArray
  | patternNotText
  | invalidPattern
  deriving Inhabited

/-- The wording of a fault. -/
def Fault.message : Fault → String
  | .notAnObject value => "predicate must be an object, got " ++ value.toText
  | .unknownCombinator name => "unknown top-level operator " ++ name
  | .unknownOperator name => "unknown operator " ++ name
  | .termsNotAnArray => "combinator expects an array"
  | .choicesNotAnArray => "$in/$nin expects an array"
  | .patternNotText => "$regex expects a string"
  | .invalidPattern => "invalid $regex"

/-- Whether a member name is an operator's. -/
def isOperator (name : String) : Bool := name.toList.head? == some '$'

/-- Whether an object holds operators: at least one member, and no others. -/
def holdsOperators (members : Members Json) : Bool :=
  !members.isEmpty && members.all fun member => isOperator member.1

/-- Whether the value of a field equals a value, itself or through an item. A missing field equals
null. -/
def equals (actual : Option Json) (expected : Json) : Bool :=
  match actual with
  | none => expected.isNull
  | some value =>
    value.equal expected
      || match value with
        | .array items => items.any fun item => item.equal expected
        | _ => false

/-- Whether the value of a field, itself or through an item, stands in an accepted order to a bound.
Only two numbers and two strings have an order here. -/
def compares (actual : Option Json) (bound : Json) (accept : Ordering → Bool) : Bool :=
  let check (value : Json) : Bool := (value.compareLike? bound).any accept
  match actual with
  | none => false
  | some (.array items) => items.any check
  | some value => check value

/-- Whether the value of a field, itself or through an item, is a text that a pattern is
found in. -/
def matchesPattern (actual : Option Json) (operand : Json) (options : String) :
    Except Fault Bool := do
  let .string written := operand | throw .patternNotText
  let some pattern := Pattern.ofText? written | throw .invalidPattern
  let letters := options.toList
  let options : Pattern.Options :=
    { ignoreCase := letters.contains 'i', multiline := letters.contains 'm' }
  let check (value : Json) : Bool := value.string?.any (Pattern.found options pattern)
  match actual with
  | some (.array items) => return items.any check
  | some value => return check value
  | none => return false

/-- Whether the value of a field equals one of the listed values. -/
def equalsAny (actual : Option Json) (operand : Json) : Except Fault Bool :=
  match operand with
  | .array choices => .ok (choices.any (equals actual))
  | _ => .error .choicesNotAnArray

/-- The letters that the pattern operator's sibling gives it. -/
def patternOptions (siblings : Members Json) : String :=
  ((siblings.get? "$options").bind Json.string?).getD ""

mutual

/-- Whether a field's value meets a condition. -/
def meets (actual : Option Json) : Json → Except Fault Bool
  | .object operators =>
    if holdsOperators operators then meetsAll actual operators operators
    else .ok (equals actual (.object operators))
  | expected => .ok (equals actual expected)
termination_by structural condition => condition

/-- Whether a field's value meets every operator; `siblings` are all operators of the object, among
which a pattern finds its options. Operators behind the first that fails are not looked at. -/
def meetsAll (actual : Option Json) (siblings : Members Json) :
    List (String × Json) → Except Fault Bool
  | [] => .ok true
  | (name, operand) :: operators => do
    let holds ← match name with
      | "$eq" => .ok (equals actual operand)
      | "$ne" => .ok (!equals actual operand)
      | "$gt" => .ok (compares actual operand (· == .gt))
      | "$gte" => .ok (compares actual operand (· != .lt))
      | "$lt" => .ok (compares actual operand (· == .lt))
      | "$lte" => .ok (compares actual operand (· != .gt))
      | "$in" => equalsAny actual operand
      | "$nin" => (equalsAny actual operand).map (!·)
      | "$exists" => .ok (actual.isSome == operand.bool?.getD true)
      | "$regex" => matchesPattern actual operand (patternOptions siblings)
      | "$options" => .ok true
      | "$not" => (meets actual operand).map (!·)
      | other => .error (.unknownOperator other)
    if holds then meetsAll actual siblings operators else .ok false
termination_by structural operators => operators

end

mutual

/-- Whether a document meets a predicate; null is the predicate that all meet. -/
def holds (document : Json) : Json → Except Fault Bool
  | .object clauses => holdsAll document clauses
  | .null => .ok true
  | other => .error (.notAnObject other)
termination_by structural predicate => predicate

/-- Whether every clause holds of a document. Clauses behind the first that fails are not looked at,
so that a fault in one of them does not show. -/
def holdsAll (document : Json) : List (String × Json) → Except Fault Bool
  | [] => .ok true
  | (name, condition) :: clauses => do
    let clause ← match name with
      | "$and" => (decideTerms document condition).map fun terms => terms.all id
      | "$or" => (decideTerms document condition).map fun terms => terms.any id
      | "$nor" => (decideTerms document condition).map fun terms => !terms.any id
      | name =>
        if isOperator name then .error (.unknownCombinator name)
        else meets (document.valueAt? name) condition
    if clause then holdsAll document clauses else .ok false
termination_by structural clauses => clauses

/-- The answers of a combinator's terms. -/
def decideTerms (document : Json) : Json → Except Fault (List Bool)
  | .array terms => decideEach document terms
  | _ => .error .termsNotAnArray
termination_by structural terms => terms

/-- The answers of predicates in turn. -/
def decideEach (document : Json) : List Json → Except Fault (List Bool)
  | [] => .ok []
  | term :: terms => do
    let answer ← holds document term
    let answers ← decideEach document terms
    return answer :: answers
termination_by structural terms => terms

end

/-- The predicate that every document meets. -/
def always : Json := .object []

/-- The predicate with one clause. -/
def clause (name : String) (condition : Json) : Json := .object [(name, condition)]

/-- The predicate that two predicates hold; nothing is added to `always`. -/
def both (left right : Json) : Json :=
  match left with
  | .object [] => right
  | left => clause "$and" (.array [left, right])

/-- The rows that meet a predicate, in order. -/
def select (predicate : Json) : List Json → Except Fault (List Json)
  | [] => .ok []
  | row :: rows => do
    let kept ← holds row predicate
    let others ← select predicate rows
    return if kept then row :: others else others

end Predicate

end DocumentQuery
