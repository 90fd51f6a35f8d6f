import DocumentQuery.Compute.Formula
import DocumentQuery.Filter.Policy

/-!
# Queries

What a request asks of a collection: which rows, in which order, how many, and in what shape.
Every part may be absent.
-/

namespace DocumentQuery

/-- The direction of a sort key. -/
inductive Direction where
  | ascending
  | descending
  deriving DecidableEq, Repr, Inhabited

/-- The written name of a direction. -/
def Direction.name : Direction → String
  | .ascending => "asc"
  | .descending => "desc"

/-- A field to sort by. -/
structure SortKey where
  field : String
  direction : Direction
  deriving DecidableEq, Repr, Inhabited

/-- What is computed of a group's values. -/
inductive Aggregation where
  | sum
  | average
  | minimum
  | maximum
  | count
  deriving DecidableEq, Repr, Inhabited

/-- The written name of an aggregation. -/
def Aggregation.name : Aggregation → String
  | .sum => "sum"
  | .average => "avg"
  | .minimum => "min"
  | .maximum => "max"
  | .count => "count"

/-- The aggregation of a written name. -/
def Aggregation.find? (name : String) : Option Aggregation :=
  [sum, average, minimum, maximum, count].find? fun aggregation => aggregation.name == name

/-- An aggregation of a source field, with the name of its result. -/
structure Aggregate where
  source : String
  aggregation : Aggregation
  name : String
  deriving DecidableEq, Repr, Inhabited

/-- Keys to group by and what is computed of each group. -/
structure Grouping where
  keys : List String
  aggregates : List Aggregate
  deriving DecidableEq, Repr, Inhabited

/-- A grouping is of use with one key and one aggregate at least. -/
def Grouping.isUsable (grouping : Grouping) : Bool :=
  !grouping.keys.isEmpty && !grouping.aggregates.isEmpty

/-- What a request asks of a collection. An option that is not given, or not readable, is absent. -/
structure Query where
  top : Option Nat := none
  skip : Option Nat := none
  filter : Option Filter.Source := none
  orderBy : List SortKey := []
  select : List String := []
  expand : List String := []
  count : Option Bool := none
  search : Option String := none
  apply : Option Grouping := none
  compute : List Compute.Clause := []
  /-- Functions named in the filter's text that are not fully supported. -/
  unsupported : List String := []
  deriving Inhabited

namespace Query

/-- The text of the filter, if it is written as text. -/
def filterText? (query : Query) : Option String :=
  match query.filter with
  | some (.text text) => some text
  | _ => none

/-- The grouping, if it is of use. -/
def grouping? (query : Query) : Option Grouping := query.apply.filter Grouping.isUsable

end Query

end DocumentQuery
