import DocumentQuery.Batch.Request
import DocumentQuery.Store.Changes

/-!
# Groups of mutations

A group is checked before it is written. The check goes through the mutations in order and
notes which rows the group itself has made and removed so far, so a later mutation can rely on
an earlier one. What is written is not checked again, and a write that fails leaves those before
it in place.
-/

namespace DocumentQuery.Batch

/-- What a mutation does to a row. -/
inductive Change where
  | create (members : Members Json)
  | update (key : Json) (values : Members Json)
  | delete (key : Json)
  deriving Inhabited

/-- A change of a row in a collection, addressed by a key field. -/
structure Mutation where
  collection : String
  change : Change
  keyField : String := identityField
  deriving Inhabited

/-- The predicate of the row with a key. -/
def keyPredicate (keyField : String) (key : Json) : Json := Predicate.clause keyField key

namespace Mutation

/-- The key of the row that a mutation is checked against. A creation may have none. -/
def key? (mutation : Mutation) : Option Json :=
  match mutation.change with
  | .create members => (members.get? mutation.keyField).filter fun key => !key.isNull
  | .update key _ | .delete key => some key

/-- The predicate of the row with a key. -/
def predicate (mutation : Mutation) (key : Json) : Json := keyPredicate mutation.keyField key

end Mutation

/-- The keys of rows that a group has made and removed so far, each with its collection. -/
structure Overlay where
  made : List (String × Json) := []
  removed : List (String × Json) := []
  deriving Inhabited

namespace Overlay

/-- Whether a key, equal by value, is listed for a collection. -/
def lists (entries : List (String × Json)) (collection : String) (key : Json) : Bool :=
  entries.any fun (other, listed) => other == collection && listed.equal key

/-- The entries without a key, equal by value, of a collection. -/
def without (entries : List (String × Json)) (collection : String) (key : Json) :
    List (String × Json) :=
  entries.filter fun (other, listed) => !(other == collection && listed.equal key)

/-- Whether the row with a key exists after the mutations that have been noted. -/
def rowExists (overlay : Overlay) (store : Store) (mutation : Mutation) (key : Json) :
    Except Failure Bool :=
  if lists overlay.made mutation.collection key then .ok true
  else if lists overlay.removed mutation.collection key then .ok false
  else do
    let found ← store.count mutation.collection (mutation.predicate key)
    return 0 < found

/-- Notes that a row was made. -/
def noteMade (overlay : Overlay) (collection : String) (key : Json) : Overlay :=
  ⟨overlay.made ++ [(collection, key)], without overlay.removed collection key⟩

/-- Notes that a row was removed. -/
def noteRemoved (overlay : Overlay) (collection : String) (key : Json) : Overlay :=
  ⟨without overlay.made collection key, overlay.removed ++ [(collection, key)]⟩

/-- Checks one mutation and notes what it does: a row to be made must not exist, and a row to be
changed or removed must. -/
def check (overlay : Overlay) (store : Store) (mutation : Mutation) : Except Failure Overlay :=
  match mutation.change with
  | .create _ =>
    match mutation.key? with
    | none => .ok overlay
    | some key => do
      if ← overlay.rowExists store mutation key then throw .duplicateId
      return overlay.noteMade mutation.collection key
  | .update key _ => do
    if !(← overlay.rowExists store mutation key) then throw .missingId
    return overlay
  | .delete key => do
    if !(← overlay.rowExists store mutation key) then throw .missingId
    return overlay.noteRemoved mutation.collection key

end Overlay

/-- Checks mutations in order, starting from what has been noted. -/
def validateFrom (store : Store) : Overlay → List Mutation → Except Failure Unit
  | _, [] => .ok ()
  | overlay, mutation :: mutations => do
    validateFrom store (← overlay.check store mutation) mutations

/-- Checks a group against a store. -/
def validate (store : Store) (mutations : List Mutation) : Except Failure Unit :=
  validateFrom store {} mutations

/-- Writes one mutation, stamping what it makes or changes. The stamp is read before the row is
looked for, so a write that is refused has moved the clock on, and leaves the store behind it. -/
def Mutation.write (mutation : Mutation) (changeField : String) (store : Store) :
    Except (Setback Failure) Store :=
  match mutation.change with
  | .create members =>
    let (members, store) := store.stamp changeField members
    (store.add mutation.collection (.object members)).map Prod.snd
  | .update key values =>
    let (values, store) := store.stamp changeField values
    store.behind ((store.update mutation.collection (mutation.predicate key) values).map Prod.snd)
  | .delete key =>
    store.behind ((store.delete mutation.collection (mutation.predicate key)).map Prod.snd)

/-- What came of writing a group: the store behind it, how many mutations were written, and the
failure that ended it, if one did. -/
structure Written where
  store : Store
  count : Nat
  failure : Option Failure
  deriving Inhabited

/-- Writes mutations in order up to the first that fails; `count` were written before. -/
def writeFrom (changeField : String) (store : Store) (count : Nat) : List Mutation → Written
  | [] => ⟨store, count, none⟩
  | mutation :: mutations =>
    match mutation.write changeField store with
    | .ok store => writeFrom changeField store (count + 1) mutations
    | .error setback => ⟨setback.store, count, some setback.reason⟩

/-- Writes a group. -/
def write (changeField : String) (store : Store) (mutations : List Mutation) : Written :=
  writeFrom changeField store 0 mutations

/-- The answer to a group that was written, or to one that failed. -/
def groupResponse (group : String) : Option Failure → Response
  | none => ⟨200, .object [("atomicGroup", .string group), ("success", .bool true)]⟩
  | some failure =>
    ⟨failure.status, .object [("atomicGroup", .string group), ("error", failure.details)]⟩

end DocumentQuery.Batch
