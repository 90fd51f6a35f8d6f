import DocumentQuery.Failure
import DocumentQuery.Plan.Basic
import DocumentQuery.Store.Clock
import DocumentQuery.Store.Identifiers

/-!
# The store

All state that requests see and change: the rows of named collections, the checkpoints of
change tracking, the clock, the source of identifiers and how many of them have been issued.
Every operation is a function from a store to an answer and the store after it. An operation
that fails changes no row, but a clock that it read stays read, and an identifier that it drew
stays drawn.
-/

namespace DocumentQuery

/-- A point in the history of changes, named by a token. -/
structure Checkpoint where
  token : String
  /-- The reading of the clock at which the point was set. -/
  since : Nat
  /-- A mark of the caller's that is kept with the point. -/
  resume : Option Json := none
  deriving Inhabited

/-- The state that requests see and change. -/
structure Store where
  collections : Members (List Json) := []
  checkpoints : List Checkpoint := []
  clock : Clock := {}
  identifiers : Identifiers := .counted
  issued : Nat := 0
  deriving Inhabited

/-- Why an operation is refused, and the store behind it. What was read of the clock and drawn
from the source of identifiers before the refusal is not taken back. -/
structure Setback (Reason : Type) where
  reason : Reason
  store : Store

/-- A setback with its reason put in other terms. -/
def Setback.map {Reason Other : Type} (change : Reason → Other) (setback : Setback Reason) :
    Setback Other :=
  ⟨change setback.reason, setback.store⟩

/-- A collection by its name, and whether pipelines can be run on it. -/
structure Collection where
  name : String
  canAggregate : Bool := true
  deriving DecidableEq, Repr, Inhabited

namespace Store

/-- The identifier that is issued next. -/
def fresh (store : Store) : String := store.identifiers.text store.issued

/-- An answer that leaves the store behind it where it is a refusal. -/
def behind {Reason Answer : Type} (store : Store) (answer : Except Reason Answer) :
    Except (Setback Reason) Answer :=
  answer.mapError fun reason => ⟨reason, store⟩

/-- The rows of a collection; one that does not exist has none. -/
def rows (store : Store) (collection : String) : List Json :=
  (store.collections.get? collection).getD []

/-- The store with other rows in a collection. -/
def setRows (store : Store) (collection : String) (rows : List Json) : Store :=
  { store with collections := store.collections.insert collection rows }

/-- The store in which a collection exists. -/
def withCollection (store : Store) (collection : String) : Store :=
  if store.collections.has collection then store else store.setRows collection []

/-- The rows of a collection that a find keeps. -/
def find (store : Store) (collection : Collection) (predicate : Json) (options : FindOptions) :
    Except Failure (List Json) :=
  (Pipeline.run store.rows (options.stages predicate) (store.rows collection.name)).mapError
    Failure.pipeline

/-- The rows that a pipeline makes of a collection. -/
def aggregate (store : Store) (collection : Collection) (stages : List Stage) :
    Except Failure (List Json) :=
  if collection.canAggregate then
    (Pipeline.run store.rows stages (store.rows collection.name)).mapError Failure.pipeline
  else .error (.noAggregation collection.name)

/-- How many rows of a collection meet a predicate. -/
def count (store : Store) (collection : String) (predicate : Json) : Except Failure Nat :=
  match Predicate.select predicate (store.rows collection) with
  | .ok rows => .ok rows.length
  | .error fault => .error (.pipeline (.predicate fault))

/-- Whether some row has an identity that is equal by value. -/
def hasIdentity (rows : List Json) (identity : Json) : Bool :=
  rows.any fun row => (row.member? identityField).any fun existing => existing.equal identity

/-- Adds a document to a collection and answers with it as it is stored. A document without an
identity gets one at its end; an identity that some row has already is refused. -/
def insert (store : Store) (collection : String) (document : Json) :
    Except Failure (Json × Store) := do
  let .object members := document | throw .notADocument
  let given := Members.get? identityField members
  let identity := given.getD (.string store.fresh)
  let stored := Json.object
    (if given.isSome then members else members ++ [(identityField, identity)])
  let rows := store.rows collection
  if hasIdentity rows identity then throw (.duplicateKey identity collection)
  let issued := if given.isSome then store.issued else store.issued + 1
  return (stored, { store.setRows collection (rows ++ [stored]) with issued })

/-- The store behind an attempt to add a document. For a document without an identity one has been
drawn, whether it is added or not. -/
def attempted (store : Store) : Json → Store
  | .object members =>
    if (Members.get? identityField members).isSome then store
    else { store with issued := store.issued + 1 }
  | _ => store

/-- Adds a document, and keeps the store behind the attempt where it is refused. -/
def add (store : Store) (collection : String) (document : Json) :
    Except (Setback Failure) (Json × Store) :=
  (store.attempted document).behind (store.insert collection document)

/-- Adds documents in turn up to the first that is refused, and answers with their number. -/
def insertMany (store : Store) (collection : String) :
    List Json → Nat → Except Failure Nat × Store
  | [], inserted => (.ok inserted, store)
  | document :: documents, inserted =>
    match store.add collection document with
    | .ok (_, store) => store.insertMany collection documents (inserted + 1)
    | .error setback => (.error setback.reason, setback.store)

/-- The place of the first row that meets a predicate. Rows behind it are not looked at. -/
def position? (predicate : Json) : List Json → Except Failure (Option Nat)
  | [] => .ok none
  | row :: rows =>
    match Predicate.holds row predicate with
    | .error fault => .error (.pipeline (.predicate fault))
    | .ok true => .ok (some 0)
    | .ok false => do return (← position? predicate rows).map (· + 1)

/-- A row with the values at some paths set in turn. -/
def setPaths (values : Members Json) (row : Json) : Json :=
  values.foldl (fun row (path, value) => row.setAt path value) row

/-- Sets paths of the first row that meets a predicate, and answers with the number of
rows found. -/
def update (store : Store) (collection : String) (predicate : Json) (values : Members Json) :
    Except Failure (Nat × Store) := do
  let rows := store.rows collection
  match ← position? predicate rows with
  | none => return (0, store)
  | some place => return (1, store.setRows collection (rows.modify place (setPaths values)))

/-- Removes the first row that meets a predicate, and answers with the number of rows removed. -/
def delete (store : Store) (collection : String) (predicate : Json) :
    Except Failure (Nat × Store) := do
  let rows := store.rows collection
  match ← position? predicate rows with
  | none => return (0, store)
  | some place => return (1, store.setRows collection (rows.eraseIdx place))

end Store

end DocumentQuery
