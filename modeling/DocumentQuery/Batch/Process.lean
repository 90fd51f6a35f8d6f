import DocumentQuery.Batch.Changeset
import DocumentQuery.Execution
import DocumentQuery.Query.Reader

/-!
# Processing batches

Operations without a group are carried out first, in order, each for itself. The groups follow
in the order of their first operations, each checked and written as a whole. There is one
answer to each operation without a group and one to each group.
-/

namespace DocumentQuery.Batch

/-- An entity set that batches can address. -/
structure Target where
  name : String
  collection : Collection
  settings : Settings := {}
  /-- The field that keys are compared with. -/
  keyField : String := identityField
  deriving Inhabited

/-- What batches can address and how they mark changes. -/
structure Coordinator where
  /-- The path before the names of entity sets, without a slash at its end. -/
  base : String
  targets : List Target
  changeField : String
  deriving Inhabited

/-- A path without the slashes at its end. -/
def withoutFinalSlashes (path : String) : String :=
  String.ofList (path.toList.reverse.dropWhile (· == '/')).reverse

/-- What stands behind an entity set's name in a path, if the name ends there. -/
def Target.rest? (target : Target) (path : List Char) : Option (List Char) :=
  (Text.dropStem? target.name.toList path).filter fun rest =>
    rest.isEmpty || rest.head? == some '?' || rest.head? == some '/' || rest.head? == some '('

/-- The target with the longest name that a path begins with, and what stands behind the name. Of
several with that name the last is taken. -/
def longest? (path : List Char) (targets : List Target) : Option (Target × List Char) :=
  targets.foldl (fun best target =>
    match target.rest? path with
    | none => best
    | some rest => match best with
      | some (other, _) =>
        if other.name.utf8ByteSize ≤ target.name.utf8ByteSize then some (target, rest) else best
      | none => some (target, rest)) none

namespace Coordinator

/-- The target that a URL addresses, and what stands behind its name. -/
def route? (coordinator : Coordinator) (url : String) : Option (Target × String) := do
  let path ← Text.dropStem? coordinator.base.toList url.toList
  let path ← Text.dropStem? ['/'] path
  let (target, rest) ← longest? path coordinator.targets
  return (target, String.ofList rest)

end Coordinator

/-- The key of the row that an operation addresses, from the URL or else from the body. -/
def Target.key? (target : Target) (operation : Operation) (rest : String) : Option Json :=
  keyOfPath? rest <|> operation.bodyKey? target.keyField

/-- The values that an update sets: those of the body without the identity and the key. -/
def Target.values (target : Target) (operation : Operation) :
    Except Failure (Members Json) :=
  operation.bodyMembers.map fun members =>
    (members.erase identityField).erase target.keyField

/-- Answers an operation that reads. Links are based on the operation's own path. -/
def Target.read (target : Target) (store : Store) (operation : Operation) :
    Except Failure Response := do
  let base := String.ofList (Text.before '?' operation.url.toList)
  let settings := { target.settings with base := some base }
  let envelope ← execute store target.collection settings (.ofUrl operation.url)
  return ⟨200, envelope.document⟩

/-- Carries out one operation on a target. What the store is when the operation fails depends on
how far it has come: a body that is no object fails before the stamp is read, a missing row
behind it. -/
def Coordinator.carryOut (coordinator : Coordinator) (store : Store) (target : Target)
    (rest : String) (operation : Operation) : Except (Setback Failure) (Response × Store) := do
  match ← store.behind (Method.ofName operation.methodName) with
  | .read => return (← store.behind (target.read store operation), store)
  | .create =>
    let members ← store.behind operation.bodyMembers
    let (members, store) := store.stamp coordinator.changeField members
    let (stored, store) ← store.add target.collection.name (.object members)
    return (⟨201, stored⟩, store)
  | .update =>
    let some key := target.key? operation rest | throw ⟨.noKeyFor "PATCH", store⟩
    let values ← store.behind (target.values operation)
    let (values, store) := store.stamp coordinator.changeField values
    let (_, store) ← store.behind
      (store.update target.collection.name (keyPredicate target.keyField key) values)
    return (.noContent, store)
  | .delete =>
    let some key := target.key? operation rest | throw ⟨.noKeyFor "DELETE", store⟩
    let (_, store) ← store.behind
      (store.delete target.collection.name (keyPredicate target.keyField key))
    return (.noContent, store)

/-- Carries out one operation without a group. A failure is answered with its status, and the store
goes on as the failure leaves it. -/
def Coordinator.single (coordinator : Coordinator) (store : Store) (operation : Operation) :
    Response × Store :=
  match coordinator.route? operation.url with
  | none => (.ofFailure .unknownUrl, store)
  | some (target, rest) =>
    match coordinator.carryOut store target rest operation with
    | .ok answer => answer
    | .error setback => (.ofFailure setback.reason, setback.store)

/-- The change that an operation of a group asks for. The key stands in the URL or in the body, and
without one nothing can be updated or deleted. -/
def Target.change (target : Target) (method : Method) (rest : String) (operation : Operation) :
    Except Failure Change :=
  match method with
  | .create => operation.bodyMembers.map Change.create
  | .update => do
    let some key := target.key? operation rest | throw .missingId
    return .update key (← target.values operation)
  | _ => do
    let some key := target.key? operation rest | throw .missingId
    return .delete key

/-- The mutation that an operation of a group asks for. -/
def Coordinator.mutation (coordinator : Coordinator) (operation : Operation) :
    Except Failure Mutation := do
  let method ← Method.ofName operation.methodName
  if !method.isMutation then throw .notAMutation
  let some (target, rest) := coordinator.route? operation.url | throw .unknownUrl
  let change ← target.change method rest operation
  return ⟨target.collection.name, change, target.keyField⟩

/-- Carries out a group: all of its mutations are made out, checked, and then written. -/
def Coordinator.group (coordinator : Coordinator) (store : Store) (name : String)
    (operations : List Operation) : Response × Store :=
  let checked : Except Failure (List Mutation) := do
    let mutations ← operations.mapM coordinator.mutation
    validate store mutations
    return mutations
  match checked with
  | .error failure => (groupResponse name (some failure), store)
  | .ok mutations =>
    let written := write coordinator.changeField store mutations
    (groupResponse name written.failure, written.store)

/-- Adds an operation to its group, or makes a new group of it. -/
def addToGroup (name : String) (operation : Operation) :
    List (String × List Operation) → List (String × List Operation)
  | [] => [(name, [operation])]
  | (other, operations) :: groups =>
    if other = name then (other, operations ++ [operation]) :: groups
    else (other, operations) :: addToGroup name operation groups

/-- The operations without a group. -/
def singles (operations : List Operation) : List Operation :=
  operations.filter fun operation => operation.group?.isNone

/-- The groups in the order of their first operations. -/
def groups (operations : List Operation) : List (String × List Operation) :=
  operations.foldl (fun groups operation =>
    match operation.group? with
    | none => groups
    | some name => addToGroup name operation groups) []

/-- The answers to requests carried out in turn, each on the store behind the one before. -/
def inTurn {Request : Type} (carryOut : Store → Request → Response × Store) :
    Store → List Request → List Response × Store
  | store, [] => ([], store)
  | store, request :: requests =>
    let (response, store) := carryOut store request
    let (responses, store) := inTurn carryOut store requests
    (response :: responses, store)

/-- Carries out a batch. -/
def Coordinator.process (coordinator : Coordinator) (store : Store)
    (operations : List Operation) : List Response × Store :=
  let (first, store) := inTurn coordinator.single store (singles operations)
  let (second, store) :=
    inTurn (fun store (name, operations) => coordinator.group store name operations) store
      (groups operations)
  (first ++ second, store)

/-- The document that answers a batch. -/
def responsesDocument (responses : List Response) : Json :=
  .object [("responses", .array (responses.map Response.document))]

end DocumentQuery.Batch
