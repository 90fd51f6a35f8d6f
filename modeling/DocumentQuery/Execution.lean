import DocumentQuery.Store.Basic

/-!
# Executing queries

A query is planned, the plan is run on a collection, and the answer is put into an envelope
with the count that was asked for and the link to the next page. The count is taken over all
rows that the query keeps and not over the page.
-/

namespace DocumentQuery

/-- The rows that answer a query, with their total and the link to the next page. -/
structure Envelope where
  rows : List Json
  count : Option Nat := none
  nextLink : Option String := none
  deriving Inhabited

/-- The document of an envelope. -/
def Envelope.document (envelope : Envelope) : Json :=
  .object ([("value", .array envelope.rows)]
    ++ (envelope.count.map fun count => ("@odata.count", Json.ofNat count)).toList
    ++ (envelope.nextLink.map fun link => ("@odata.nextLink", Json.string link)).toList)

/-- The rows that a plan gives on a collection. -/
def Plan.run (plan : Plan) (store : Store) (collection : Collection) :
    Except Failure (List Json) :=
  match plan.form with
  | .direct options => store.find collection plan.predicate options
  | .pipeline stages => store.aggregate collection stages

/-- The envelope that answers a query on a collection. The count is taken of the rows that meet the
count predicate and not of the page, and the link depends on the number of rows that are shown. -/
def execute (store : Store) (collection : Collection) (settings : Settings) (query : Query) :
    Except Failure Envelope := do
  let plan ← (Plan.ofQuery settings collection.canAggregate query).mapError Failure.filter
  let rows ← plan.run store collection
  let count ←
    if query.count = some true then
      (store.count collection.name plan.countPredicate).map some
    else pure none
  return { rows, count, nextLink := query.nextLink? settings.base rows.length }

/-- What an observer of executions is told. -/
inductive Notice where
  | parsed (query : Query)
  | executed (rows : Nat)
  | refused (failure : Failure)

/-- What an observer is told of an execution in turn: the query, and then the number of rows, or the
refusal of the filter. Other failures are not reported. -/
def notices (query : Query) : Except Failure Envelope → List Notice
  | .ok envelope => [.parsed query, .executed envelope.rows.length]
  | .error (.filter refusal) => [.parsed query, .refused (.filter refusal)]
  | .error _ => [.parsed query]

end DocumentQuery
