import DocumentQuery.Proofs.Json.Sameness
import DocumentQuery.Proofs.Server.Routing

/-!
# Updates by requests and by batches

A row can be changed by a request of its own or by an operation of a batch. Both take the key from
the URL, leave the identity and the key out of the body, stamp what is left, and look for the first
row with the key; so they leave the same rows. They are answered alike as well, unless no row has
the key: only the request looks at the number of rows that were found.
-/

namespace DocumentQuery

open Batch (Operation keyPredicate keyOfText)

namespace EntitySet

variable (entitySet : EntitySet) (changeField : String) (store : Store) (key : String)
  (members : Members Json)

/-- What an update by a key with a body sets, and the store in which it does so. -/
def stamped : Members Json × Store :=
  store.stamp changeField ((members.erase identityField).erase entitySet.keyField)

/-- Where the first row with a key stands, or the failure of looking for it. -/
def place : Except Failure (Option Nat) :=
  Store.position? (keyPredicate entitySet.keyField (keyOfText key.toList))
    (store.rows entitySet.collectionName)

/-- The store in which the row at a place is changed, behind the reading of the stamp. -/
def changed (place : Nat) : Store :=
  (entitySet.stamped changeField store members).2.setRows entitySet.collectionName
    ((store.rows entitySet.collectionName).modify place
      (Store.setPaths (entitySet.stamped changeField store members).1))

/-- Whether no row has a key, which is decided on each row without a fault. -/
def Lacks : Prop :=
  ∀ row ∈ store.rows entitySet.collectionName,
    Predicate.holds row (keyPredicate entitySet.keyField (keyOfText key.toList)) = .ok false

/-- The update of a row by its key, in the three ways in which it can end. -/
theorem update_keyed :
    (entitySet.stamped changeField store members).2.update entitySet.collectionName
        (keyPredicate entitySet.keyField (keyOfText key.toList))
        (entitySet.stamped changeField store members).1 =
      match entitySet.place store key with
      | .error failure => .error failure
      | .ok none => .ok (0, (entitySet.stamped changeField store members).2)
      | .ok (some place) => .ok (1, entitySet.changed changeField store members place) := by
  simp only [Store.update, place, changed, stamped, Store.rows_stamp]
  rcases Store.position? (keyPredicate entitySet.keyField (keyOfText key.toList))
    (store.rows entitySet.collectionName) with failure | _ | place <;> rfl

end EntitySet

namespace Server

variable (settings : ServerSettings) (store : Store) (entitySet : EntitySet) (name key : String)
  (request : Request) (operation : Operation) (members : Members Json)

/-- Whether a request is one to change a row, with a body. -/
structure ChangesRow : Prop where
  method : request.method = "PATCH"
  target : request.target = settings.rowUrl name key
  body : bodyMembers request = .ok members

/-- Whether an operation without a group is one to change a row, with a body. -/
structure ChangesRowAlone : Prop where
  method : operation.methodName = "PATCH"
  url : operation.url = settings.rowUrl name key
  body : operation.body = some (.object members)
  ungrouped : operation.group? = none

/-- A request to change a row is answered with what the update comes to, and a row that is not found
is a failure. -/
theorem update_place (body : bodyMembers request = .ok members) :
    update settings store entitySet key request =
      match entitySet.place store key with
      | .error failure =>
        .error ⟨failure, (entitySet.stamped settings.changeField store members).2⟩
      | .ok none =>
        .error ⟨.noRow entitySet.name key,
          (entitySet.stamped settings.changeField store members).2⟩
      | .ok (some place) => .ok (⟨204, [], .empty⟩,
          entitySet.changed settings.changeField store members place) := by
  have found := entitySet.update_keyed settings.changeField store key members
  simp only [EntitySet.stamped] at found
  simp only [update, body, Store.behind_ok, ok_bind, found]
  rcases entitySet.place store key with failure | _ | place <;> rfl

/-- An operation to change a row is answered with what the update comes to, and a row that is not
found is left out of account. -/
theorem carryOut_place (changes : ChangesRowAlone settings name key operation members)
    (keyed : Batch.keyOfPath? (String.ofList ('/' :: key.toList)) = some (keyOfText key.toList)) :
    settings.coordinator.carryOut store entitySet.target (String.ofList ('/' :: key.toList))
        operation =
      match entitySet.place store key with
      | .error failure =>
        .error ⟨failure, (entitySet.stamped settings.changeField store members).2⟩
      | .ok none => .ok (.noContent, (entitySet.stamped settings.changeField store members).2)
      | .ok (some place) =>
        .ok (.noContent, entitySet.changed settings.changeField store members place) := by
  have named : Batch.Method.ofName operation.methodName = .ok .update := by
    rw [changes.method]
    rfl
  have addressed : entitySet.target.key? operation (String.ofList ('/' :: key.toList)) =
      some (keyOfText key.toList) := by
    rw [Batch.Target.key?, keyed]
    rfl
  have given : entitySet.target.values operation =
      .ok ((members.erase identityField).erase entitySet.keyField) := by
    rw [Batch.Target.values, Operation.bodyMembers, changes.body]
    rfl
  have found : (store.stamp settings.coordinator.changeField
      ((members.erase identityField).erase entitySet.keyField)).2.update
        entitySet.target.collection.name
        (keyPredicate entitySet.target.keyField (keyOfText key.toList))
        (store.stamp settings.coordinator.changeField
          ((members.erase identityField).erase entitySet.keyField)).1 = _ :=
    entitySet.update_keyed settings.changeField store key members
  simp only [Batch.Coordinator.carryOut, named, addressed, given, Store.behind_ok, ok_bind, found]
  rcases entitySet.place store key with failure | _ | place <;> rfl

variable {settings entitySet name key members}

/-- A request to change a row is answered as its update is. Its path is routed to the row, and the
name and the key are decoded to themselves. -/
theorem answer_update (addresses : settings.Addresses name key)
    (exposed : settings.exposed name = .ok entitySet)
    (changes : ChangesRow settings name key request members) :
    ((answer settings store request).1.status, (answer settings store request).2) =
      match update settings store entitySet key request with
      | .error setback => (setback.reason.status, setback.store)
      | .ok (answer, after) => (answer.status, after) := by
  have path := addresses.path_eq request changes.target
  have routed := addresses.route_eq entitySet exposed
  have keyRead : Text.percentDecode? key.toList = some key.toList :=
    Text.percentDecode_raw key.toList (addresses.key_apart '%' (by decide +kernel))
  have noOptions : request.method ≠ "OPTIONS" := by simp [changes.method]
  have noHead : request.method ≠ "HEAD" := by simp [changes.method]
  have action : (Route.row name.toList key.toList).action? request.method =
      some (.update name.toList key.toList) := by
    rw [changes.method]
    rfl
  simp only [answer, noOptions, noHead, if_false, respond, path, routed, action, carryOut, decoded,
    addresses.name_read, keyRead, String.ofList_toList, Store.behind_ok, ok_bind, exposed,
    mapError_ok]
  rcases update settings store entitySet key request with setback | ⟨answer, after⟩ <;> rfl

/-- A batch of one operation to change a row is answered as the operation is. -/
theorem process_alone (coordinator : Batch.Coordinator) (ungrouped : operation.group? = none) :
    coordinator.process store [operation] =
      ([(coordinator.single store operation).1], (coordinator.single store operation).2) := by
  simp [Batch.Coordinator.process, Batch.singles, Batch.groups, ungrouped, Batch.inTurn]

/-- A request and an operation of a batch that change a row leave the same rows. They are answered
with the same status unless no row has the key; then the request is told so, and the batch is
answered as if the row had been changed.

Proof: both are brought down to the place of the row with the key in the store. The URL of the
operation is taken to the entity set of the request by `route_operation`, and the key behind it is
read as the key of the request. At a place both set the same members with a stamp, and an update
that finds no place changes nothing. -/
theorem updates_agree (addresses : settings.Addresses name key)
    (exposed : settings.exposed name = .ok entitySet)
    (requested : ChangesRow settings name key request members)
    (sent : ChangesRowAlone settings name key operation members) :
    ∃ response after, settings.coordinator.process store [operation] = ([response], after) ∧
      after.collections = (answer settings store request).2.collections ∧
      (¬ entitySet.Lacks store key → response.status = (answer settings store request).1.status) ∧
      (entitySet.Lacks store key →
        (answer settings store request).1.status = 404 ∧ response.status = 204) := by
  have answered := answer_update store request addresses exposed requested
  have read := Batch.keyOfPath_segment key addresses.key_filled addresses.key_made
  rw [update_place settings store entitySet key request members requested.body] at answered
  refine ⟨_, _, process_alone store operation settings.coordinator sent.ungrouped, ?_⟩
  have lacks : entitySet.Lacks store key ↔ entitySet.place store key = .ok none :=
    (Store.position_none_iff _ _).symm
  simp only [Batch.Coordinator.single, sent.url, addresses.route_operation entitySet exposed,
    carryOut_place settings store entitySet name key operation members sent read, lacks]
  rcases found : entitySet.place store key with failure | _ | place <;>
    simp only [found] at answered ⊢ <;> obtain ⟨status, after⟩ := Prod.mk.inj answered
  · exact ⟨by rw [after], fun _ => status.symm, nofun⟩
  · exact ⟨by rw [after], fun found => absurd trivial found, fun _ => ⟨status, rfl⟩⟩
  · exact ⟨by rw [after], fun _ => status.symm, nofun⟩

/-- A request to name an item, with the key in its path. -/
def naming (key : String) : Request :=
  { method := "PATCH"
    target := "/odata/Items/" ++ key
    headers := [("content-type", "application/json")]
    body := "\x7b\"name\":\"x\"\x7d" }

/-- An operation to name an item, with the same path and the same values. -/
def namingAlone (key : String) : Operation where
  method := some "PATCH"
  url := "/odata/Items/" ++ key
  body := some (.object [("name", "x")])

/-- The request and the operation have the same body. -/
theorem naming_body (key : String) : bodyMembers (naming key) = .ok [("name", "x")] := by
  change bodyMembers (naming "") = _
  exact (toOption_some_iff _ _).mp (by decide +kernel)

/-- The item with the article number `B` is named alike by the request and by the operation, and the
item before it is not touched. -/
theorem second_item_named :
    (itemsServer "sku").Addresses "Items" "B" ∧ ∃ response after,
      (itemsServer "sku").coordinator.process Batch.twoItems [namingAlone "B"] =
        ([response], after) ∧
      response.status = 204 ∧
      (after.rows "items").map (fun row => (row.member? "name").isSome) = [false, true] := by
  have addresses : (itemsServer "sku").Addresses "Items" "B" :=
    ⟨by decide +kernel, by decide +kernel, by decide +kernel, by decide +kernel,
      Text.percentDecode_raw _ (by decide +kernel), by decide,
      List.all_eq_true.mp (by decide +kernel)⟩
  obtain ⟨response, after, processed, same, alike, missing⟩ :=
    updates_agree Batch.twoItems (naming "B") (namingAlone "B") addresses rfl
      ⟨rfl, by decide +kernel, naming_body "B"⟩ ⟨by decide +kernel, by decide +kernel, rfl, rfl⟩
  have found : (answer (itemsServer "sku") Batch.twoItems (naming "B")).1.status = 204 := by
    decide +kernel
  have named : ((answer (itemsServer "sku") Batch.twoItems (naming "B")).2.rows "items").map
      (fun row => (row.member? "name").isSome) = [false, true] := by decide +kernel
  refine ⟨addresses, response, after, processed, (alike fun lacks => ?_).trans found, ?_⟩
  · exact absurd (found.symm.trans (missing lacks).1) (by decide)
  · rw [Store.rows, same]
    exact named

/-- An item that does not exist is not found by the request, and the operation is answered as if it
had been named. -/
theorem missing_item_named :
    bodyMembers (naming "C") = .ok [("name", "x")] ∧
    (answer (itemsServer "sku") Batch.twoItems (naming "C")).1.status = 404 ∧
    ((itemsServer "sku").coordinator.process Batch.twoItems [namingAlone "C"]).1.map
      (fun response => response.status) = [204] :=
  ⟨naming_body "C", by decide +kernel, by decide +kernel⟩

end Server

end DocumentQuery
