import DocumentQuery.Expression.Evaluation
import DocumentQuery.Pipeline.Stage

/-!
# Grouping rows

Rows belong together when their keys are equal by value, a missing key being null. Groups stand
in the order in which their keys first appear, and each keeps its rows in order.
-/

namespace DocumentQuery

/-- A group of rows and the object of their keys. -/
structure RowGroup where
  key : Json
  rows : List Json
  deriving Inhabited

/-- The object of a row's keys. -/
def groupKey (keys : List String) (row : Json) : Json :=
  .object (Members.ofList (keys.map fun key => (key, (row.valueAt? key).getD .null)))

/-- Adds a row to the first group with an equal key, or makes a new group of it. -/
def addToGroup (key row : Json) : List RowGroup → List RowGroup
  | [] => [⟨key, [row]⟩]
  | group :: groups =>
    if group.key.equal key then { group with rows := group.rows ++ [row] } :: groups
    else group :: addToGroup key row groups

/-- The groups of rows. -/
def groupRows (keys : List String) (rows : List Json) : List RowGroup :=
  rows.foldl (fun groups row => addToGroup (groupKey keys row) row groups) []

/-- The least of values, the first of several. -/
def least? : List Json → Option Json
  | [] => none
  | value :: values =>
    some (values.foldl (fun least value => if least.compare value = .gt then value else least)
      value)

/-- The greatest of values, the last of several. -/
def greatest? : List Json → Option Json
  | [] => none
  | value :: values =>
    some (values.foldl
      (fun greatest value => if greatest.compare value = .gt then greatest else value) value)

/-- What a native operator makes of a group's values. Sums and averages are taken over the numbers
among them, extremes over all but null; an operator that is not known gives null. -/
def accumulate (operator : String) (values : List Json) : Json :=
  let numbers := values.filterMap Json.binary64?
  let present := values.filter fun value => !value.isNull
  match operator with
  | "$sum" => .ofArithmetic (Expression.total numbers)
  | "$avg" =>
    if numbers.isEmpty then .null
    else .ofArithmetic ((Expression.total numbers).bind fun total =>
      total.div (.ofNat numbers.length))
  | "$min" => (least? present).getD .null
  | "$max" => (greatest? present).getD .null
  | _ => .null

/-- The members that accumulators make of a group's rows. -/
def accumulateAll (rows : List Json) :
    List Accumulator → Except Expression.Fault (List (String × Json))
  | [] => .ok []
  | accumulator :: accumulators => do
    let values ← rows.mapM fun row => Expression.evaluate row accumulator.input
    let others ← accumulateAll rows accumulators
    return (accumulator.name, accumulate accumulator.operator values) :: others

/-- The row of a group: its keys under the identity field, and what is computed of it. -/
def RowGroup.row (accumulators : List Accumulator) (group : RowGroup) :
    Except Expression.Fault Json := do
  let computed ← accumulateAll group.rows accumulators
  return .object (Members.ofList ((identityField, group.key) :: computed))

end DocumentQuery
