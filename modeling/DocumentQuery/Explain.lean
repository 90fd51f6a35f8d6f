import DocumentQuery.Query.Document
import DocumentQuery.Query.Reader
import DocumentQuery.Server.Settings

/-!
# Explaining requests

A URL is read and planned without being carried out, and the query and its plan are reported as
a document. The settings are those of the entity set that is named, or else of the one that the
URL's path ends with. A set that is named has to be laid down; one that is only read off the
URL need not be.
-/

namespace DocumentQuery

/-- Why a request cannot be explained. -/
inductive Explain.Fault where
  | unknownEntitySet (name : String)
  | refused (refusal : Filter.Refusal)
  deriving Inhabited

namespace Explain

/-- The code of a fault. -/
def Fault.code : Fault → String
  | .unknownEntitySet _ => "ODATA_CLI_CONFIG_ERROR"
  | .refused _ => "ODATA_CLI_INVALID_QUERY"

/-- The wording of a fault. -/
def Fault.message : Fault → String
  | .unknownEntitySet name => "Unknown entity set: " ++ name
  | .refused refusal => refusal.message

/-- The last segment of a URL's path that is not empty. -/
def lastSegment? (url : String) : Option String :=
  ((Text.split '/' (Text.before '?' url.toList)).reverse.find? fun segment =>
    !segment.isEmpty).map String.ofList

/-- The settings of the queries that a name or a URL points to. Without settings of a server, and
for a set that is only read off the URL and not laid down, nothing is laid down. -/
def settings (server : Option ServerSettings) (named found : Option String) :
    Except Fault Settings :=
  match server, named <|> found with
  | some server, some name =>
    match server.entitySet? name with
    | some entitySet => .ok (entitySet.settings none)
    | none => if named.isSome then .error (.unknownEntitySet name) else .ok {}
  | _, _ => .ok {}

/-- The report on a URL: the entity set, the query that is read from it, and the plan for a
collection that aggregates. -/
def report (url : String) (server : Option ServerSettings) (named : Option String) :
    Except Fault Json := do
  let found := lastSegment? url
  let settings ← settings server named found
  let query := Query.ofUrl url
  let plan ← (Plan.ofQuery settings true query).mapError Fault.refused
  let name : Json := match named <|> found with
    | some name => .string name
    | none => .null
  return .object [("entitySet", name), ("query", query.document), ("plan", plan.document)]

end Explain

end DocumentQuery
