import DocumentQuery.Query.Basic

/-!
# Stages of pipelines

A pipeline is a sequence of stages through which the rows of a collection pass. Each stage has
a native document, an object with one operator, which is what plans show and what a document
store would be sent. A document keeps a name once, where a stage may hold it repeatedly.
-/

namespace DocumentQuery

/-- The field that identifies a row in its collection. -/
def identityField : String := "_id"

/-- What a projection does with a field. -/
inductive Shape where
  | kept
  | dropped
  | computed (expression : Json)
  deriving Inhabited

/-- Fields in order and what is done with each. -/
abbrev Projection := List (String × Shape)

/-- What is computed of a group's rows, by a native operator, and the name of the result. -/
structure Accumulator where
  name : String
  operator : String
  input : Json
  deriving Inhabited

/-- Rows of another collection, joined where a field of theirs has a local field's value. -/
structure Join where
  collection : String
  localField : String
  foreignField : String
  output : String
  deriving DecidableEq, Repr, Inhabited

/-- One stage of a pipeline. -/
inductive Stage where
  /-- Keeps the rows that meet a predicate. -/
  | matching (predicate : Json)
  /-- Makes one row of each group of rows with equal keys. -/
  | group (keys : List String) (accumulators : List Accumulator)
  /-- Gives every row a new shape. -/
  | project (projection : Projection)
  /-- Sets fields to the values of expressions. -/
  | compute (fields : List (String × Json))
  /-- Removes fields. -/
  | unset (fields : List String)
  | sort (keys : List SortKey)
  | skip (count : Nat)
  | limit (count : Nat)
  /-- Sets a field to the list of joined rows. -/
  | lookup (join : Join)
  /-- Makes one row of each item of an array; rows without items stay, less the field, only if
      they are preserved. -/
  | unwind (path : String) (preserve : Bool)
  deriving Inhabited

/-- The document of a field's shape. -/
def Shape.document : Shape → Json
  | .kept => .ofNat 1
  | .dropped => .ofNat 0
  | .computed expression => expression

/-- The document of a projection. -/
def Projection.document (projection : Projection) : Json :=
  .object (Members.ofList (projection.map fun (field, shape) => (field, shape.document)))

/-- The document of sort keys: 1 for ascending and -1 for descending. -/
def sortDocument (keys : List SortKey) : Json :=
  .object (Members.ofList (keys.map fun key =>
    (key.field, .ofInt (match key.direction with
      | .ascending => 1
      | .descending => -1))))

/-- The expression that reads a field path. -/
def fieldReference (path : String) : Json := .string ("$" ++ path)

namespace Stage

/-- The native operator. -/
def operator : Stage → String
  | .matching _ => "$match"
  | .group _ _ => "$group"
  | .project _ => "$project"
  | .compute _ => "$addFields"
  | .unset _ => "$unset"
  | .sort _ => "$sort"
  | .skip _ => "$skip"
  | .limit _ => "$limit"
  | .lookup _ => "$lookup"
  | .unwind _ _ => "$unwind"

/-- The document of a group stage: the keys under the identity field, then the accumulators. -/
def groupDocument (keys : List String) (accumulators : List Accumulator) : Json :=
  let identity := Json.object (Members.ofList (keys.map fun key => (key, fieldReference key)))
  let entries := accumulators.map fun accumulator =>
    (accumulator.name, Json.object [(accumulator.operator, accumulator.input)])
  .object (Members.ofList ((identityField, identity) :: entries))

/-- What stands under the operator in a stage's document. Lists that a stage may repeat names in
become tables, in which a name occurs once. -/
def body : Stage → Json
  | .matching predicate => predicate
  | .group keys accumulators => groupDocument keys accumulators
  | .project projection => projection.document
  | .compute fields => .object (Members.ofList fields)
  | .unset [field] => .string field
  | .unset fields => .array (fields.map Json.string)
  | .sort keys => sortDocument keys
  | .skip count | .limit count => .ofNat count
  | .lookup join => .object [("from", .string join.collection),
      ("localField", .string join.localField), ("foreignField", .string join.foreignField),
      ("as", .string join.output)]
  | .unwind path preserve => .object [("path", fieldReference path),
      ("preserveNullAndEmptyArrays", .bool preserve)]

/-- The native document of a stage. -/
def document (stage : Stage) : Json := .object [(stage.operator, stage.body)]

end Stage

end DocumentQuery
