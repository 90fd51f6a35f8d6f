import DocumentQuery.Proofs.Except
import DocumentQuery.Proofs.Json.Path
import DocumentQuery.Store.Changes

/-!
# What a write does to the rows of a store

One lemma for each writing operation: which condition on the rows decides its answer, and what
the rows are afterwards. Only the rows of the collection that is written can differ. A position
that is found divides the rows into those before it, none of which meets the predicate, the row
itself, and the rows behind it, which were not looked at. A checkpoint leaves all rows.
-/

namespace DocumentQuery.Store

variable (store : Store) (collection : String)

/-- The rows that were set are read back. -/
@[simp] theorem rows_setRows_same (rows : List Json) :
    (store.setRows collection rows).rows collection = rows := by
  simp [setRows, Store.rows]

/-- Setting the rows of one collection leaves every other collection. -/
theorem rows_setRows_other (rows : List Json) (other : String) (different : other ≠ collection) :
    (store.setRows collection rows).rows other = store.rows other := by
  simp [setRows, Store.rows, Members.get_insert_other _ _ _ _ different]

/-- A stamp reads the clock and leaves all rows. -/
@[simp] theorem rows_stamp (changeField : String) (members : Members Json) (other : String) :
    (store.stamp changeField members).2.rows other = store.rows other := rfl

/-- The identity that a document is given if it has none of its own. -/
def ownIdentity (members : Members Json) : Members Json :=
  if (Members.get? identityField members).isSome then []
  else [(identityField, .string store.fresh)]

/-- The identity that a document is stored under. -/
def identityOf (members : Members Json) : Json :=
  (Members.get? identityField members).getD (.string store.fresh)

/-- The row that stores a document. -/
def rowOf (members : Members Json) : Json := .object (members ++ store.ownIdentity members)

/-- The store with one more row in a collection, for which an identifier is drawn if it came without
an identity. -/
def withRow (members : Members Json) : Store :=
  { store.setRows collection (store.rows collection ++ [store.rowOf members]) with
    issued := store.issued + (store.ownIdentity members).length }

/-- A stored document is found under the identity that it is stored under. -/
theorem member_rowOf (members : Members Json) :
    (store.rowOf members).member? identityField = some (store.identityOf members) := by
  simp only [rowOf, Json.member?, Json.members, Members.get_append, ownIdentity, identityOf]
  cases given : Members.get? identityField members <;> simp [Members.get?]

/-- A document is refused exactly when some row has its identity. Otherwise it becomes the last row
of its collection, with an identity of its own if it came without one. -/
theorem insert_object (members : Members Json) :
    store.insert collection (.object members) =
      if hasIdentity (store.rows collection) (store.identityOf members) then
        .error (.duplicateKey (store.identityOf members) collection)
      else .ok (store.rowOf members, store.withRow collection members) := by
  have stored : Json.object (if (Members.get? identityField members).isSome then members
      else members ++ [(identityField, store.identityOf members)]) = store.rowOf members := by
    cases given : Members.get? identityField members <;>
      simp [rowOf, ownIdentity, identityOf, given]
  have issued : (if (Members.get? identityField members).isSome then store.issued
      else store.issued + 1) = store.issued + (store.ownIdentity members).length := by
    cases given : Members.get? identityField members <;> simp [ownIdentity, given]
  by_cases taken : hasIdentity (store.rows collection) (store.identityOf members) = true
  · rw [if_pos taken]
    rw [identityOf] at taken
    simp [insert, identityOf, taken]
  · rw [if_neg taken]
    rw [identityOf] at stored taken
    simp [insert, withRow, stored, issued, taken]

/-- The new row stands behind the rows that were there. -/
theorem rows_withRow_same (members : Members Json) :
    (store.withRow collection members).rows collection =
      store.rows collection ++ [store.rowOf members] :=
  store.rows_setRows_same collection _

/-- A new row of one collection leaves every other collection. -/
theorem rows_withRow_other (members : Members Json) (other : String)
    (different : other ≠ collection) :
    (store.withRow collection members).rows other = store.rows other :=
  store.rows_setRows_other collection _ other different

/-- Rows divided at the first one that meets a predicate. The rows behind it are any rows. -/
structure FirstMeeting (predicate : Json) (rows front : List Json) (row : Json)
    (back : List Json) : Prop where
  divided : rows = front ++ row :: back
  before : ∀ earlier ∈ front, Predicate.holds earlier predicate = .ok false
  met : Predicate.holds row predicate = .ok true

/-- A position is found exactly where the rows can be divided so: the predicate is refused by every
row before it without a fault, and met there. -/
theorem position_found_iff (predicate : Json) (rows : List Json) (place : Nat) :
    position? predicate rows = .ok (some place) ↔
      ∃ front row back, FirstMeeting predicate rows front row back ∧ front.length = place := by
  constructor
  · intro found
    induction rows generalizing place with
    | nil => simp [position?] at found
    | cons row rows inductionHypothesis =>
      cases answer : Predicate.holds row predicate with
      | error fault => simp [position?, answer] at found
      | ok meets =>
        cases meets with
        | true =>
          have first : 0 = place := by simpa [position?, answer] using found
          exact ⟨[], row, rows, ⟨rfl, by simp, answer⟩, first⟩
        | false =>
          cases later : position? predicate rows with
          | error failure => simp [position?, answer, later] at found
          | ok position =>
            have moved : position.map (· + 1) = some place := by
              simpa [position?, answer, later] using found
            obtain ⟨index, rfl, rfl⟩ := Option.map_eq_some_iff.mp moved
            obtain ⟨front, meeting, back, ⟨divided, before, met⟩, size⟩ :=
              inductionHypothesis index later
            refine ⟨row :: front, meeting, back, ⟨by simp [divided], ?_, met⟩, by simp [size]⟩
            intro earlier present
            rcases List.mem_cons.mp present with rfl | present
            · exact answer
            · exact before earlier present
  · rintro ⟨front, row, back, ⟨rfl, before, met⟩, rfl⟩
    induction front with
    | nil => simp [position?, met]
    | cons first front inductionHypothesis =>
      have tail := inductionHypothesis fun earlier present =>
        before earlier (List.mem_cons_of_mem first present)
      simp [position?, before first List.mem_cons_self, tail]

/-- No position is found exactly if no row meets the predicate. -/
theorem position_none_iff (predicate : Json) (rows : List Json) :
    position? predicate rows = .ok none ↔
      ∀ row ∈ rows, Predicate.holds row predicate = .ok false := by
  induction rows with
  | nil => simp [position?]
  | cons row rows inductionHypothesis =>
    rw [List.forall_mem_cons, ← inductionHypothesis]
    rcases answer : Predicate.holds row predicate with fault | _ | _
    · simp [position?, answer]
    · rcases later : position? predicate rows with failure | _ | place <;>
        simp [position?, answer, later]
    · simp [position?, answer]

/-- A fault in deciding the predicate is the answer of an update, no meeting row leaves the
store, and else the first meeting row is changed. -/
theorem update_eq (predicate : Json) (values : Members Json) :
    (store.update collection predicate values).map Prod.snd =
      match position? predicate (store.rows collection) with
      | .error failure => .error failure
      | .ok none => .ok store
      | .ok (some place) =>
        .ok (store.setRows collection
          ((store.rows collection).modify place (setPaths values))) := by
  simp only [update]
  rcases position? predicate (store.rows collection) with failure | _ | place <;> rfl

/-- A deletion answers in the same three ways. -/
theorem delete_eq (predicate : Json) :
    (store.delete collection predicate).map Prod.snd =
      match position? predicate (store.rows collection) with
      | .error failure => .error failure
      | .ok none => .ok store
      | .ok (some place) =>
        .ok (store.setRows collection ((store.rows collection).eraseIdx place)) := by
  simp only [delete]
  rcases position? predicate (store.rows collection) with failure | _ | place <;> rfl

/-- An update that does not fail finds no row and leaves the store, or changes the first row that
meets its predicate. -/
theorem update_ok_iff (predicate : Json) (values : Members Json) (found : Nat) (after : Store) :
    store.update collection predicate values = .ok (found, after) ↔
      (position? predicate (store.rows collection) = .ok none ∧ found = 0 ∧ after = store) ∨
      ∃ place, position? predicate (store.rows collection) = .ok (some place) ∧ found = 1 ∧
        after = store.setRows collection
          ((store.rows collection).modify place (setPaths values)) := by
  simp only [update]
  cases position? predicate (store.rows collection) with
  | error failure => simp
  | ok position => cases position <;> simp [eq_comm]

/-- A deletion that does not fail finds no row and leaves the store, or removes the first row that
meets its predicate. -/
theorem delete_ok_iff (predicate : Json) (found : Nat) (after : Store) :
    store.delete collection predicate = .ok (found, after) ↔
      (position? predicate (store.rows collection) = .ok none ∧ found = 0 ∧ after = store) ∨
      ∃ place, position? predicate (store.rows collection) = .ok (some place) ∧ found = 1 ∧
        after = store.setRows collection ((store.rows collection).eraseIdx place) := by
  simp only [delete]
  cases position? predicate (store.rows collection) with
  | error failure => simp
  | ok position => cases position <;> simp [eq_comm]

/-- A checkpoint that is set has a new token and the reading of the clock, and it is kept behind
those that are there. -/
theorem initiate_ok_iff (store : Store) (resume : Option Json) (checkpoint : Checkpoint)
    (after : Store) : store.initiate resume = .ok (checkpoint, after) ↔
      (store.checkpoint? store.fresh).isSome = false ∧
        checkpoint = ⟨store.fresh, store.clock.now, resume⟩ ∧
        after = { store with
          clock := store.clock.read.2
          issued := store.issued + 1
          checkpoints := store.checkpoints ++ [checkpoint] } := by
  cases taken : (store.checkpoint? store.fresh).isSome with
  | true =>
    have kept : (store.checkpoints.find? fun checkpoint =>
        checkpoint.token == store.fresh).isSome = true := taken
    simp [initiate, keep, checkpoint?, Clock.read, kept]
  | false =>
    have free : (store.checkpoints.find? fun checkpoint =>
        checkpoint.token == store.fresh).isSome = false := taken
    simp only [initiate, keep, checkpoint?, Clock.read, free, Bool.false_eq_true, if_false,
      ok_bind, pure_eq_ok, Except.ok.injEq, Prod.mk.injEq, true_and]
    constructor
    · rintro ⟨rfl, rfl⟩
      exact ⟨rfl, rfl⟩
    · rintro ⟨rfl, rfl⟩
      exact ⟨rfl, rfl⟩

end DocumentQuery.Store
