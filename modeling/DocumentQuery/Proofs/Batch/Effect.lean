import DocumentQuery.Batch.Changeset
import DocumentQuery.Proofs.Store.Setbacks

/-!
# Mutations one at a time

What it means for a mutation to take effect on a store, and when it does. A creation takes
effect unless its identity is taken, whichever field its key is compared in. An update or a
deletion takes effect exactly when some row meets its predicate; where none does, it is written
all the same and leaves every row. A mutation that is refused leaves every row as well, but the
clock has been read for its stamp.
-/

namespace DocumentQuery.Batch

/-- The rows behind a mutation are those before it with its row added, changed or removed. -/
def Mutation.Effect (changeField : String) (mutation : Mutation) (before after : Store) : Prop :=
  (∀ other, other ≠ mutation.collection → after.rows other = before.rows other) ∧
  match mutation.change with
  | .create members =>
    after.rows mutation.collection =
      before.rows mutation.collection ++ [before.rowOf (before.stamp changeField members).1]
  | .update key values =>
    ∃ front row back,
      Store.FirstMeeting (mutation.predicate key) (before.rows mutation.collection) front row back ∧
      after.rows mutation.collection =
        front ++ Store.setPaths (before.stamp changeField values).1 row :: back
  | .delete key =>
    ∃ front row back,
      Store.FirstMeeting (mutation.predicate key) (before.rows mutation.collection) front row back ∧
      after.rows mutation.collection = front ++ back

/-- A creation finds its identity free, and any other mutation finds a row to change. -/
def Mutation.Fits (changeField : String) (store : Store) (mutation : Mutation) : Prop :=
  match mutation.change with
  | .create members =>
    Store.hasIdentity (store.rows mutation.collection)
      (store.identityOf (store.stamp changeField members).1) = false
  | .update key _ | .delete key =>
    ∃ place, Store.position? (mutation.predicate key) (store.rows mutation.collection) =
      .ok (some place)

/-- A creation finds its identity taken, or the predicate of any other mutation cannot be decided
on a row that is looked at. -/
def Mutation.Refused (changeField : String) (store : Store) (mutation : Mutation) : Prop :=
  match mutation.change with
  | .create members =>
    Store.hasIdentity (store.rows mutation.collection)
      (store.identityOf (store.stamp changeField members).1) = true
  | .update key _ | .delete key =>
    ∃ failure, Store.position? (mutation.predicate key) (store.rows mutation.collection) =
      .error failure

variable (changeField : String) (store : Store) (mutation : Mutation)

/-- Writing a creation inserts its stamped members. -/
theorem write_create (members : Members Json) (created : mutation.change = .create members) :
    mutation.write changeField store =
      if Store.hasIdentity (store.rows mutation.collection)
          (store.identityOf (store.stamp changeField members).1) then
        .error ⟨.duplicateKey (store.identityOf (store.stamp changeField members).1)
            mutation.collection,
          (store.stamp changeField members).2.attempted
            (.object (store.stamp changeField members).1)⟩
      else .ok ((store.stamp changeField members).2.withRow mutation.collection
        (store.stamp changeField members).1) := by
  simp only [Mutation.write, created, Store.add_object]
  have same : (store.stamp changeField members).2.identityOf (store.stamp changeField members).1 =
      store.identityOf (store.stamp changeField members).1 := rfl
  rw [same, Store.rows_stamp]
  split <;> rfl

/-- A mutation that fits is written and takes effect. The place that was found divides the rows of
the collection in front of and behind the row with the key, and the write is made in between; other
collections have the rows that they had. -/
theorem write_fits (fits : mutation.Fits changeField store) :
    ∃ after, mutation.write changeField store = .ok after ∧
      mutation.Effect changeField store after := by
  cases change : mutation.change with
  | create members =>
    simp only [Mutation.Fits, change] at fits
    refine ⟨_, by rw [write_create changeField store mutation members change, fits]; rfl, ?_⟩
    simp only [Mutation.Effect, change]
    exact ⟨fun other different => Store.rows_withRow_other _ _ _ other different,
      Store.rows_withRow_same _ _ _⟩
  | update key values =>
    simp only [Mutation.Fits, change] at fits
    obtain ⟨place, found⟩ := fits
    obtain ⟨front, row, back, division, rfl⟩ :=
      (Store.position_found_iff _ _ place).mp found
    refine ⟨_, by simp only [Mutation.write, change, Store.update_eq, Store.rows_stamp, found]; rfl,
      ?_⟩
    simp only [Mutation.Effect, change]
    refine ⟨fun other different => Store.rows_setRows_other _ _ _ other different,
      front, row, back, division, ?_⟩
    simp [division.divided, List.modify_eq_take_drop]
  | delete key =>
    simp only [Mutation.Fits, change] at fits
    obtain ⟨place, found⟩ := fits
    obtain ⟨front, row, back, division, rfl⟩ :=
      (Store.position_found_iff _ _ place).mp found
    refine ⟨_, by simp only [Mutation.write, change, Store.delete_eq, found]; rfl, ?_⟩
    simp only [Mutation.Effect, change]
    refine ⟨fun other different => Store.rows_setRows_other _ _ _ other different,
      front, row, back, division, ?_⟩
    simp [division.divided, List.eraseIdx_append]

/-- A mutation that takes effect found what it fits: a creation was not refused for its identity,
and for an update or a deletion the effect names the row that was found and those around it. -/
theorem fits_of_effect (after : Store) (written : mutation.write changeField store = .ok after)
    (effect : mutation.Effect changeField store after) : mutation.Fits changeField store := by
  cases change : mutation.change with
  | create members =>
    simp only [Mutation.Fits, change]
    rw [write_create changeField store mutation members change] at written
    cases taken : Store.hasIdentity (store.rows mutation.collection)
        (store.identityOf (store.stamp changeField members).1) with
    | false => rfl
    | true => simp [taken] at written
  | update key values =>
    simp only [Mutation.Effect, change] at effect
    obtain ⟨_, front, row, back, division, _⟩ := effect
    simp only [Mutation.Fits, change]
    exact ⟨front.length, (Store.position_found_iff _ _ _).mpr ⟨front, row, back, division, rfl⟩⟩
  | delete key =>
    simp only [Mutation.Effect, change] at effect
    obtain ⟨_, front, row, back, division, _⟩ := effect
    simp only [Mutation.Fits, change]
    exact ⟨front.length, (Store.position_found_iff _ _ _).mpr ⟨front, row, back, division, rfl⟩⟩

/-- A mutation that is written takes effect, or no row met its predicate and all rows are left.
An update that finds no row may still have read the clock, so of the store only the rows are
the same. -/
theorem effect_or_unchanged (after : Store)
    (written : mutation.write changeField store = .ok after) :
    mutation.Effect changeField store after ∨
      ∀ collection, after.rows collection = store.rows collection := by
  by_cases fits : mutation.Fits changeField store
  · obtain ⟨same, done, effect⟩ := write_fits changeField store mutation fits
    obtain rfl := Except.ok.inj (written.symm.trans done)
    exact .inl effect
  · right
    cases change : mutation.change with
    | create members =>
      simp only [Mutation.Fits, change, Bool.not_eq_false] at fits
      rw [write_create changeField store mutation members change, if_pos fits] at written
      exact absurd written nofun
    | update key values =>
      simp only [Mutation.Fits, change] at fits
      simp only [Mutation.write, change, Store.update_eq, Store.rows_stamp] at written
      rcases position : Store.position? (mutation.predicate key) (store.rows mutation.collection)
        with failure | _ | place
      · rw [position] at written
        exact absurd written nofun
      · rw [position] at written
        obtain rfl := Except.ok.inj written
        exact fun collection => store.rows_stamp changeField values collection
      · exact absurd ⟨place, position⟩ fits
    | delete key =>
      simp only [Mutation.Fits, change] at fits
      simp only [Mutation.write, change, Store.delete_eq] at written
      rcases position : Store.position? (mutation.predicate key) (store.rows mutation.collection)
        with failure | _ | place
      · rw [position] at written
        exact absurd written nofun
      · rw [position] at written
        obtain rfl := Except.ok.inj written
        exact fun collection => rfl
      · exact absurd ⟨place, position⟩ fits

/-- A mutation that is refused changes nothing: for a creation and for an update the clock was read
for the stamp, and for a creation an identifier may have been drawn. -/
theorem write_refused (setback : Setback Failure)
    (refused : mutation.write changeField store = .error setback) :
    store.Spends setback.store := by
  unfold Mutation.write at refused
  split at refused
  · next members _ =>
    have stamped := store.spends_stamp changeField members
    cases added : (store.stamp changeField members).2.add mutation.collection
        (.object (store.stamp changeField members).1) with
    | ok outcome => simp [added, Except.map] at refused
    | error earlier =>
      obtain rfl : earlier = setback := by simpa [added, Except.map] using refused
      exact stamped.trans (Store.add_refused _ _ _ _ added)
  · next key values _ =>
    obtain ⟨-, left⟩ := (Store.behind_error_iff _ _ _).mp refused
    exact left ▸ store.spends_stamp changeField values
  · obtain ⟨-, left⟩ := (Store.behind_error_iff _ _ _).mp refused
    exact left ▸ .refl store

/-- A write fails exactly when the mutation is refused: a creation because its identity is there
already, an update or a deletion because the predicate of its key cannot be decided on some row. -/
theorem write_error_iff :
    (∃ setback, mutation.write changeField store = .error setback) ↔
      mutation.Refused changeField store := by
  cases change : mutation.change with
  | create members =>
    simp only [Mutation.Refused, change, write_create changeField store mutation members change]
    cases Store.hasIdentity (store.rows mutation.collection)
      (store.identityOf (store.stamp changeField members).1) <;> simp
  | update key values =>
    simp only [Mutation.Refused, change, Mutation.write, Store.update_eq, Store.rows_stamp]
    rcases Store.position? (mutation.predicate key) (store.rows mutation.collection) with
      failure | _ | place <;> simp
  | delete key =>
    simp only [Mutation.Refused, change, Mutation.write, Store.delete_eq]
    rcases Store.position? (mutation.predicate key) (store.rows mutation.collection) with
      failure | _ | place <;> simp

end DocumentQuery.Batch
