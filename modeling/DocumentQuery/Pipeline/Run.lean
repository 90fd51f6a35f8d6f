import DocumentQuery.Pipeline.Group
import DocumentQuery.Pipeline.Sort

/-!
# Running pipelines

Rows pass through the stages in turn, all of them through one stage before any goes through the
next. The rows of other collections are read through a function, so a pipeline is run against
one state of the database.
-/

namespace DocumentQuery

namespace Pipeline

/-- Why a pipeline has no rows: one of its predicates or expressions has a fault. -/
inductive Fault where
  | predicate (fault : Predicate.Fault)
  | expression (fault : Expression.Fault)
  deriving Inhabited

/-- The wording of a fault. -/
def Fault.message : Fault → String
  | .predicate fault => fault.message
  | .expression fault => fault.message

/-- An answer of an expression as an answer of the pipeline. -/
def ofExpression {Part : Type} (answer : Except Expression.Fault Part) : Except Fault Part :=
  answer.mapError Fault.expression

/-- An answer of a predicate as an answer of the pipeline. -/
def ofPredicate {Part : Type} (answer : Except Predicate.Fault Part) : Except Fault Part :=
  answer.mapError Fault.predicate

/-- The rows of collections by their names. -/
abbrev Source := String → List Json

end Pipeline

namespace Shape

/-- Whether a field with this shape asks for the projection to list what is kept. -/
def isKept : Shape → Bool
  | .dropped => false
  | _ => true

end Shape

/-- A document with one more field of a row in its shape. A field that the row does not have is left
out. -/
def keepField (row kept : Json) (field : String) : Shape → Except Expression.Fault Json
  | .kept => .ok ((row.valueAt? field).elim kept fun value => kept.setAt field value)
  | .computed expression =>
    (Expression.evaluate row expression).map fun value => kept.setAt field value
  | .dropped => .ok kept

/-- A document with the fields that a projection lists. -/
def keepFields (row : Json) : Projection → Json → Except Expression.Fault Json
  | [], kept => .ok kept
  | (field, shape) :: fields, kept => do keepFields row fields (← keepField row kept field shape)

/-- A row in the shape of a projection. One that keeps or computes a field lists what the row has in
the end, to which the identity is added unless it is dropped by name; one that only drops fields
leaves the others. -/
def projectRow (projection : Projection) (row : Json) : Except Expression.Fault Json :=
  if projection.any fun (_, shape) => shape.isKept then
    let dropsIdentity := projection.any fun (field, shape) =>
      field == identityField && !shape.isKept
    let start := match row.member? identityField with
      | some identity =>
        if dropsIdentity then Json.object [] else .object [(identityField, identity)]
      | none => .object []
    keepFields row projection start
  else .ok (projection.foldl (fun left (field, _) => left.eraseAt field) row)

/-- A row with fields set to the values that expressions have on it as it was. -/
def computeRow (fields : List (String × Json)) (row : Json) : Except Expression.Fault Json := do
  let values ← fields.mapM fun (name, expression) => do
    return (name, ← Expression.evaluate row expression)
  return values.foldl (fun row (name, value) => row.setAt name value) row

/-- Whether a foreign value joins a local one. Missing values are null, and a local array joins
through any of its items. -/
def Join.matches (localValue foreignValue : Option Json) : Bool :=
  let foreign := foreignValue.getD .null
  match localValue with
  | none | some .null => foreign.isNull
  | some (.array items) => items.any fun item => item.equal foreign
  | some value => value.equal foreign

/-- A row with the list of the foreign rows that join it. -/
def Join.row (join : Join) (foreign : List Json) (row : Json) : Json :=
  let localValue := row.valueAt? join.localField
  let joined := foreign.filter fun other =>
    Join.matches localValue (other.valueAt? join.foreignField)
  row.setAt join.output (.array joined)

/-- The rows that a row becomes when the array at a path is taken apart. -/
def unwindRow (path : String) (preserve : Bool) (row : Json) : List Json :=
  match row.valueAt? path with
  | some (.array (item :: items)) => (item :: items).map fun item => row.setAt path item
  | some (.array []) | some .null | none => if preserve then [row.eraseAt path] else []
  | some _ => [row]

/-- The rows behind a stage. A stage fails if it fails on any of the rows, and says in which way;
other collections are read by joins only. -/
def Stage.run (source : Pipeline.Source) (rows : List Json) :
    Stage → Except Pipeline.Fault (List Json)
  | .matching predicate => Pipeline.ofPredicate (Predicate.select predicate rows)
  | .group keys accumulators =>
    Pipeline.ofExpression ((groupRows keys rows).mapM (RowGroup.row accumulators))
  | .project projection => Pipeline.ofExpression (rows.mapM (projectRow projection))
  | .compute fields => Pipeline.ofExpression (rows.mapM (computeRow fields))
  | .unset fields =>
    .ok (rows.map fun row => fields.foldl (fun row field => row.eraseAt field) row)
  | .sort keys => .ok (sortRows keys rows)
  | .skip count => .ok (rows.drop count)
  | .limit count => .ok (rows.take count)
  | .lookup join => .ok (rows.map (join.row (source join.collection)))
  | .unwind path preserve => .ok (rows.flatMap (unwindRow path preserve))

/-- The rows behind all stages. -/
def Pipeline.run (source : Pipeline.Source) :
    List Stage → List Json → Except Pipeline.Fault (List Json)
  | [], rows => .ok rows
  | stage :: stages, rows => do Pipeline.run source stages (← stage.run source rows)

end DocumentQuery
