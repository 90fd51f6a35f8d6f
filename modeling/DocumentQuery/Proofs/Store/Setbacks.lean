import DocumentQuery.Proofs.Store.Writing

/-!
# What a refusal leaves

An operation that is refused may have read the clock and drawn an identifier before, and neither
is taken back. It has written nothing: the store behind it is the one before it, with a clock that
may show a later time and a count of identifiers that may be greater. This relation between stores
is transitive, so it holds behind any number of refusals, and all rows are the same through it.
-/

namespace DocumentQuery

namespace Store

/-- Whether a store is another one of which nothing was changed: time may have been read from its
clock and identifiers drawn from its source, and everything else is as it was. -/
structure Spends (before after : Store) : Prop where
  reading : before.clock.now ≤ after.clock.now
  issued : before.issued ≤ after.issued
  rest : after = { before with
    clock := before.clock.set after.clock.now
    issued := after.issued }

/-- A store is what is left of it by nothing. -/
theorem Spends.refl (store : Store) : store.Spends store := ⟨Nat.le_refl _, Nat.le_refl _, rfl⟩

/-- What is left of what is left is left of the whole. -/
theorem Spends.trans {first second third : Store} (front : first.Spends second)
    (back : second.Spends third) : first.Spends third := by
  refine ⟨Nat.le_trans front.reading back.reading, Nat.le_trans front.issued back.issued, ?_⟩
  rw [back.rest, front.rest]
  rfl

/-- All rows are left, in every collection. -/
theorem Spends.rows {before after : Store} (spends : before.Spends after) (collection : String) :
    after.rows collection = before.rows collection := by
  rw [spends.rest]
  rfl

/-- The clock runs on at the same pace. -/
theorem Spends.pace {before after : Store} (spends : before.Spends after) :
    after.clock.pace = before.clock.pace := by
  rw [spends.rest]
  rfl

variable (store : Store)

/-- A stamp takes a reading of the clock and nothing else. -/
theorem spends_stamp (changeField : String) (members : Members Json) :
    store.Spends (store.stamp changeField members).2 :=
  ⟨Nat.le_add_right _ _, Nat.le_refl _, rfl⟩

/-- An attempt to add a document takes an identifier at most. -/
theorem spends_attempted (document : Json) : store.Spends (store.attempted document) := by
  unfold attempted
  split
  · split
    · exact .refl store
    · exact ⟨Nat.le_refl _, Nat.le_succ _, rfl⟩
  · exact .refl store

/-- An attempt to add a document does not read the clock. -/
@[simp] theorem clock_attempted (document : Json) :
    (store.attempted document).clock = store.clock := by
  unfold attempted
  split
  · split <;> rfl
  · rfl

section Outcomes

variable {Reason Answer : Type}

/-- An answer that is given leaves its own store. -/
@[simp] theorem behind_ok (answer : Answer) :
    store.behind (.ok answer : Except Reason Answer) = .ok answer := rfl

/-- A refusal leaves the store that was put behind it. -/
@[simp] theorem behind_error (reason : Reason) :
    store.behind (.error reason : Except Reason Answer) = .error ⟨reason, store⟩ := rfl

/-- An answer is given with a store behind it exactly if it is given. -/
theorem behind_ok_iff (outcome : Except Reason Answer) (answer : Answer) :
    store.behind outcome = .ok answer ↔ outcome = .ok answer :=
  mapError_ok_iff _ outcome answer

/-- A refusal has the store behind it and the reason that was given. -/
theorem behind_error_iff (outcome : Except Reason Answer) (setback : Setback Reason) :
    store.behind outcome = .error setback ↔
      outcome = .error setback.reason ∧ setback.store = store := by
  obtain ⟨reason, left⟩ := setback
  cases outcome <;> simp [eq_comm]

end Outcomes

variable (collection : String)

/-- A document is added exactly if it can be inserted, with the same outcome. -/
theorem add_ok_iff (document : Json) (outcome : Json × Store) :
    store.add collection document = .ok outcome ↔
      store.insert collection document = .ok outcome :=
  behind_ok_iff _ _ _

/-- A document that is added is refused where its identity is taken, and what is left then is the
store behind the attempt. Otherwise it becomes the last row of its collection. -/
theorem add_object (members : Members Json) :
    store.add collection (.object members) =
      if hasIdentity (store.rows collection) (store.identityOf members) then
        .error ⟨.duplicateKey (store.identityOf members) collection,
          store.attempted (.object members)⟩
      else .ok (store.rowOf members, store.withRow collection members) := by
  rw [add, insert_object]
  split <;> rfl

/-- A document that is refused changes nothing. -/
theorem add_refused (document : Json) (setback : Setback Failure)
    (refused : store.add collection document = .error setback) :
    store.Spends setback.store := by
  obtain ⟨-, left⟩ := (behind_error_iff _ _ _).mp refused
  exact left ▸ store.spends_attempted document

/-- A checkpoint is set exactly if it can be initiated, with the same outcome. -/
theorem watch_ok_iff (resume : Option Json) (outcome : Checkpoint × Store) :
    store.watch resume = .ok outcome ↔ store.initiate resume = .ok outcome :=
  behind_ok_iff _ _ _

/-- A checkpoint that is refused changes nothing. -/
theorem watch_refused (resume : Option Json) (setback : Setback Failure)
    (refused : store.watch resume = .error setback) : store.Spends setback.store := by
  obtain ⟨-, left⟩ := (behind_error_iff _ _ _).mp refused
  exact left ▸ ⟨Nat.le_add_right _ _, Nat.le_succ _, rfl⟩

end Store

/-- The store that an outcome leaves, be it an answer or a refusal. -/
def storeBehind {Reason Answer : Type} : Except (Setback Reason) (Answer × Store) → Store
  | .ok answer => answer.2
  | .error setback => setback.store

/-- Putting the reason of a refusal in other terms leaves the same store. -/
@[simp] theorem storeBehind_mapError {Reason Other Answer : Type} (change : Reason → Other)
    (outcome : Except (Setback Reason) (Answer × Store)) :
    storeBehind (outcome.mapError (Setback.map change)) = storeBehind outcome := by
  cases outcome <;> rfl

end DocumentQuery
