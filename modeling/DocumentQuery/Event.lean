/-!
# Events

What a server reports on while it works. Every event has a name that readers of its reports can
rely on.
-/

namespace DocumentQuery

/-- Something that a server reports on while it answers requests. -/
inductive Event where
  | queryParsed
  | queryExecuted
  | filterRejected
  /-- A collection cannot aggregate, and a query is reduced to a find. -/
  | aggregateFallback
  | dateCoercionFailed
  | deltaInitiated
  | deltaResolved
  | batchProcessed
  | changesetApplied
  | changesetAborted
  | serverStarted
  deriving DecidableEq, Repr

namespace Event

/-- The name of an event. -/
def name : Event → String
  | queryParsed => "query_parsed"
  | queryExecuted => "query_executed"
  | filterRejected => "filter_rejected"
  | aggregateFallback => "aggregate_fallback"
  | dateCoercionFailed => "date_coercion_failed"
  | deltaInitiated => "delta_initiated"
  | deltaResolved => "delta_resolved"
  | batchProcessed => "batch_processed"
  | changesetApplied => "changeset_applied"
  | changesetAborted => "changeset_aborted"
  | serverStarted => "server_started"

/-- All events. -/
def all : List Event :=
  [queryParsed, queryExecuted, filterRejected, aggregateFallback, dateCoercionFailed,
    deltaInitiated, deltaResolved, batchProcessed, changesetApplied, changesetAborted,
    serverStarted]

end Event

end DocumentQuery
