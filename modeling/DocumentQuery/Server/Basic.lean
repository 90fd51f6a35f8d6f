import DocumentQuery.Metadata.Printer
import DocumentQuery.Server.Request
import DocumentQuery.Server.Route
import DocumentQuery.Server.Settings

/-!
# The server

A server answers requests from a store and changes the store as they ask. Rows are queried,
counted, created and changed; changes are tracked; batches are processed; and the entity sets
are described. A request that fails changes no row, a batch apart, whose operations stand for
themselves; it may have read the clock.
-/

namespace DocumentQuery

namespace EntitySet

/-- The collection of the set. -/
def source (entitySet : EntitySet) : Collection := { name := entitySet.collectionName }

/-- The set as batches address it. -/
def target (entitySet : EntitySet) : Batch.Target :=
  { name := entitySet.name
    collection := entitySet.source
    settings := entitySet.settings none
    keyField := entitySet.keyField }

/-- The rows of an answer with their dates coerced, if the set lays that down. -/
def coerced (entitySet : EntitySet) (rows : List Json) : List Json :=
  match entitySet.coercion with
  | some coercion => (coercion.coerce rows).rows
  | none => rows

end EntitySet

namespace ServerSettings

/-- The entity set that requests address by a name: the last that is laid down under it. -/
def exposed (settings : ServerSettings) (name : String) : Except Failure EntitySet :=
  match settings.entitySets.reverse.find? fun entitySet => entitySet.name == name with
  | some entitySet => .ok entitySet
  | none => .error (.unknownEntitySet name)

/-- The coordinator of batches. -/
def coordinator (settings : ServerSettings) : Batch.Coordinator :=
  { base := settings.base
    targets := settings.entitySets.map EntitySet.target
    changeField := settings.changeField }

end ServerSettings

namespace Server

/-- The store in which an entity set has its collection and its first rows. -/
def withEntitySet (store : Store) (entitySet : EntitySet) : Except Failure Store :=
  let collection := entitySet.collectionName
  match (store.withCollection collection).insertMany collection entitySet.seed 0 with
  | (.ok _, store) => .ok store
  | (.error failure, _) => .error failure

/-- The store that a server begins with, if identifiers come from a source. -/
def startFrom (identifiers : Identifiers) (settings : ServerSettings) (clock : Clock) :
    Except Failure Store :=
  settings.entitySets.foldlM withEntitySet { clock, identifiers }

/-- The store that a server begins with, if identifiers are counted. -/
def start (settings : ServerSettings) (clock : Clock) : Except Failure Store :=
  startFrom .counted settings clock

/-- Why a request is not carried out. -/
inductive Refusal where
  | failure (cause : Failure)
  /-- A segment of the path has no decoding. -/
  | undecodable (segment : String)

instance : Coe Failure Refusal := ⟨.failure⟩

/-- The answer to a request that is not carried out. -/
def Refusal.answer : Refusal → Answer
  | .failure cause => .ofFailure cause
  | .undecodable segment =>
    .ofText 400 "text/plain; charset=utf-8"
      ("Invalid URL: Invalid UTF-8 in \x60" ++ segment ++ "\x60")

/-- The text of a segment, whose place in the path has the given name. -/
def decoded (place : String) (segment : List Char) : Except Refusal String :=
  match Text.percentDecode? segment with
  | some text => .ok (String.ofList text)
  | none => .error (.undecodable place)

/-- Sets a checkpoint and answers with the link to the changes behind it. -/
def track (settings : ServerSettings) (store : Store) (entitySet : EntitySet)
    (request : Request) : Except (Setback Failure) (Answer × Store) := do
  let (checkpoint, store) ← store.watch none
  let base := request.origin ++ settings.base ++ "/" ++ entitySet.name
  let link := changesLink base checkpoint.token
  return (.ofDocument 200 (.object [("@odata.deltaLink", .string link)]), store)

/-- Answers with the rows that were changed behind a checkpoint. -/
def changes (settings : ServerSettings) (store : Store) (entitySet : EntitySet)
    (token : String) : Except Failure Answer := do
  let rows ← store.resolve settings.changeField token entitySet.source
  return .ofDocument 200 (.object [("value", .array rows)])

/-- Answers a query. Links are based on the path of the request, and functions in the filter that
are not fully supported are told of in a header. -/
def query (store : Store) (entitySet : EntitySet) (request : Request) :
    Except Failure Answer := do
  let query := Query.ofParameters request.parameters
  let base := request.origin ++ String.ofList request.path
  let envelope ← execute store entitySet.source (entitySet.settings (some base)) query
  let answer := Answer.ofDocument 200
    { envelope with rows := entitySet.coerced envelope.rows }.document
  if query.unsupported.isEmpty then return answer
  else return answer.withHeader "x-odata-unimplemented" (",".intercalate query.unsupported)

/-- Whether a request asks to track changes. -/
def tracksChanges (request : Request) : Bool :=
  (request.parameters.get? "$delta").any fun value =>
    Text.equalIgnoringCase value.toList "true".toList

/-- Reads an entity set: a checkpoint is set, or one is resolved, or a query is answered. -/
def read (settings : ServerSettings) (store : Store) (entitySet : EntitySet)
    (request : Request) : Except (Setback Failure) (Answer × Store) := do
  if tracksChanges request then track settings store entitySet request
  else match request.parameters.nonEmpty? "$deltatoken" with
    | some token => return (← store.behind (changes settings store entitySet token), store)
    | none => return (← store.behind (query store entitySet request), store)

/-- Answers with the number of rows that a query keeps. -/
def count (store : Store) (entitySet : EntitySet) (request : Request) :
    Except Failure Answer := do
  let query := { Query.ofParameters request.parameters with count := some true }
  let envelope ← execute store entitySet.source (entitySet.settings none) query
  return .ofText 200 "text/plain; charset=utf-8" (Nat.repr (envelope.count.getD 0))

/-- The members of a request's body. -/
def bodyMembers (request : Request) : Except Failure (Members Json) := do
  let draft ← request.draft.mapError Failure.body
  match draft.json with
  | .ok (.object members) => return members
  | .ok _ => throw .bodyNotAnObject
  | .error fault => throw (.body (.unusable fault))

/-- Creates a row. -/
def create (settings : ServerSettings) (store : Store) (entitySet : EntitySet)
    (request : Request) : Except (Setback Failure) (Answer × Store) := do
  let members ← store.behind (bodyMembers request)
  let (members, store) := store.stamp settings.changeField members
  let (stored, store) ← store.add entitySet.collectionName (.object members)
  return (.ofDocument 201 stored, store)

/-- Changes the row with a key. The identity and the key itself are left as they are. -/
def update (settings : ServerSettings) (store : Store) (entitySet : EntitySet) (key : String)
    (request : Request) : Except (Setback Failure) (Answer × Store) := do
  let members ← store.behind (bodyMembers request)
  let values := (members.erase identityField).erase entitySet.keyField
  let (values, store) := store.stamp settings.changeField values
  let predicate := Batch.keyPredicate entitySet.keyField (Batch.keyOfText key.toList)
  let (found, store) ← store.behind (store.update entitySet.collectionName predicate values)
  if found = 0 then throw ⟨.noRow entitySet.name key, store⟩
  return (⟨204, [], .empty⟩, store)

/-- Processes a batch. -/
def process (settings : ServerSettings) (store : Store) (request : Request) :
    Except Failure (Answer × Store) := do
  let draft ← request.draft.mapError Failure.body
  let operations ← (Batch.form.read draft).mapError fun fault => .body (.unusable fault)
  let (responses, store) := settings.coordinator.process store operations
  return (.ofDocument 200 (Batch.responsesDocument responses), store)

/-- Carries out an action. The name and the key are decoded before the entity set is looked for, so
of several faults in an address the first one is answered. -/
def carryOut (settings : ServerSettings) (store : Store) (request : Request) :
    Route.Action → Except (Setback Refusal) (Answer × Store)
  | .describe => .ok (.ofText 200 "application/xml" settings.metadata.toText, store)
  | .process => store.behind ((process settings store request).mapError Refusal.failure)
  | .query segment => do
    let name ← store.behind (decoded "set" segment)
    let entitySet ← store.behind ((settings.exposed name).mapError Refusal.failure)
    (read settings store entitySet request).mapError (Setback.map Refusal.failure)
  | .count segment => do
    let name ← store.behind (decoded "set" segment)
    let entitySet ← store.behind ((settings.exposed name).mapError Refusal.failure)
    return (← store.behind ((count store entitySet request).mapError Refusal.failure), store)
  | .create segment => do
    let name ← store.behind (decoded "set" segment)
    let entitySet ← store.behind ((settings.exposed name).mapError Refusal.failure)
    (create settings store entitySet request).mapError (Setback.map Refusal.failure)
  | .update segment keySegment => do
    let name ← store.behind (decoded "set" segment)
    let key ← store.behind (decoded "id" keySegment)
    let entitySet ← store.behind ((settings.exposed name).mapError Refusal.failure)
    (update settings store entitySet key request).mapError (Setback.map Refusal.failure)

/-- Answers a request to some resource. An address without a resource and a method without an action
are refused before anything is read. -/
def respond (settings : ServerSettings) (store : Store) (request : Request) : Answer × Store :=
  match Route.ofPath? settings.base.toList request.path with
  | none => (.ofFailure .unknownResource, store)
  | some route => match route.action? request.method with
    | none => (⟨405, [], .empty⟩, store)
    | some action => match carryOut settings store request action with
      | .error setback => (setback.reason.answer, setback.store)
      | .ok (answer, store) => (answer, store)

/-- Answers a request. One that asks what a resource allows is answered for every path, and the
content is left out for one that wants the headers alone. -/
def answer (settings : ServerSettings) (store : Store) (request : Request) : Answer × Store :=
  if request.method = "OPTIONS" then (⟨200, [], .empty⟩, store)
  else
    let (answer, store) := respond settings store request
    let answer := if request.method = "HEAD" then answer.withoutContent else answer
    (answer.versioned, store)

end Server

end DocumentQuery
