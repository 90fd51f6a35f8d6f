import DocumentQuery.Text.Percent
import DocumentQuery.Text.Split

/-!
# Routes

The resources of a server by their paths. A path is compared as it is written; only the
segments that hold a name or a key are decoded, and not before a resource has been found. The
last segment of a path is never empty.
-/

namespace DocumentQuery

/-- A resource, with the segments that name it as they are written. -/
inductive Route where
  | metadata
  | batch
  | rows (entitySet : List Char)
  | count (entitySet : List Char)
  | row (entitySet key : List Char)
  deriving DecidableEq, Repr

/-- What is done with a resource, with the segments of the path that name it as they are written. -/
inductive Route.Action where
  | describe
  | process
  | query (entitySet : List Char)
  | create (entitySet : List Char)
  | count (entitySet : List Char)
  | update (entitySet key : List Char)
  deriving DecidableEq, Repr

namespace Route

/-- The resource at a path behind the base and its slash. The words that stand for other resources
are looked for before names of entity sets. -/
def ofSegments? (path : List Char) : Option Route :=
  if path = "$metadata".toList then some .metadata
  else if path = "$batch".toList then some .batch
  else match Text.split '/' path with
    | [entitySet] => if entitySet.isEmpty then none else some (.rows entitySet)
    | [entitySet, final] =>
      if final.isEmpty then none
      else if final = "$count".toList then some (.count entitySet)
      else some (.row entitySet final)
    | _ => none

/-- The resource at a path. -/
def ofPath? (base path : List Char) : Option Route :=
  (Text.dropStem? (base ++ ['/']) path).bind ofSegments?

/-- What a method does with a resource. A request for the headers alone is one that reads. -/
def action? (route : Route) (method : String) : Option Action :=
  let reads := method == "GET" || method == "HEAD"
  match route with
  | .metadata => if reads then some .describe else none
  | .batch => if method == "POST" then some .process else none
  | .rows entitySet =>
    if reads then some (.query entitySet)
    else if method == "POST" then some (.create entitySet)
    else none
  | .count entitySet => if reads then some (.count entitySet) else none
  | .row entitySet key => if method == "PATCH" then some (.update entitySet key) else none

end Route

end DocumentQuery
