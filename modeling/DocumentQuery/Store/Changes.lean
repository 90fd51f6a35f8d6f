import DocumentQuery.Store.Basic
import DocumentQuery.Text.Percent

/-!
# Change tracking

Every write stamps the row with the reading of the clock. A checkpoint keeps a reading under a
token, and resolving the token answers with the rows whose stamp is later. Checkpoints are never
changed, so a token gives the same point for good.
-/

namespace DocumentQuery

open Json (Draft Form)

namespace Checkpoint

/-- The document of a checkpoint. -/
def document (checkpoint : Checkpoint) : Json :=
  .object ([("token_id", .string checkpoint.token), ("since_ms", .ofNat checkpoint.since)]
    ++ (checkpoint.resume.map fun resume => ("resume_token", resume)).toList)

/-- The document of a checkpoint, as it is read. -/
def form : Form Checkpoint :=
  Checkpoint.mk
    <$> .required "token_id" Draft.text
    <*> .required "since_ms" (Draft.natural 64)
    <*> .optional "resume_token" Draft.json

end Checkpoint

namespace Store

/-- Members with the change field set to a reading of the clock, and the store behind it. -/
def stamp (store : Store) (changeField : String) (members : Members Json) :
    Members Json × Store :=
  let (reading, clock) := store.clock.read
  (members.insert changeField (.ofNat reading), { store with clock })

/-- The checkpoint of a token. -/
def checkpoint? (store : Store) (token : String) : Option Checkpoint :=
  store.checkpoints.find? fun checkpoint => checkpoint.token == token

/-- Keeps a checkpoint, whose token must be new. -/
def keep (store : Store) (checkpoint : Checkpoint) : Except Failure Store :=
  if (store.checkpoint? checkpoint.token).isSome then .error (.tokenExists checkpoint.token)
  else .ok { store with checkpoints := store.checkpoints ++ [checkpoint] }

/-- Sets a checkpoint at a reading of the clock, under a new token. -/
def initiate (store : Store) (resume : Option Json) : Except Failure (Checkpoint × Store) := do
  let (reading, clock) := store.clock.read
  let checkpoint : Checkpoint := ⟨store.fresh, reading, resume⟩
  let store ← { store with clock, issued := store.issued + 1 }.keep checkpoint
  return (checkpoint, store)

/-- Sets a checkpoint, and keeps the clock as it was read and the token as drawn where it is
refused. -/
def watch (store : Store) (resume : Option Json) :
    Except (Setback Failure) (Checkpoint × Store) :=
  { store with clock := store.clock.read.2, issued := store.issued + 1 }.behind
    (store.initiate resume)

/-- The predicate of rows that were stamped later than a reading of the clock. -/
def changedSince (changeField : String) (since : Nat) : Json :=
  Predicate.clause changeField (Predicate.clause "$gt" (.ofNat since))

/-- The rows of a collection that were changed later than a token's checkpoint. -/
def resolve (store : Store) (changeField token : String) (collection : Collection) :
    Except Failure (List Json) :=
  match store.checkpoint? token with
  | none => .error .unknownToken
  | some checkpoint => store.find collection (changedSince changeField checkpoint.since) {}

end Store

/-- The link that resolves a token. -/
def changesLink (base token : String) : String :=
  base ++ "?$deltatoken=" ++ String.ofList (Text.percentEncode token.toList)

end DocumentQuery
