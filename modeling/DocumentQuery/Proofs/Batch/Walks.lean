import DocumentQuery.Proofs.Batch.Writes
import DocumentQuery.Proofs.Store.Marks

/-!
# Mutations as walks

Every mutation that is written is a walk of a stamp and a write, or of a removal, and a chain of
walks is one. So a batch, whose writes are such a chain, changes no row without a stamp of its own.
Nothing is asked of its operations but that their bodies are ordinary.
-/

namespace DocumentQuery

namespace Store

variable {changeField : String}

/-- Whether a walk with no write under way at its ends leads from one store to another. -/
def Reaches (changeField : String) (store after : Store) : Prop :=
  ∃ moves, Traffic.Walk changeField ⟨store, []⟩ moves ⟨after, []⟩

/-- A store reaches itself. -/
theorem Reaches.refl (store : Store) : Reaches changeField store store := ⟨[], .done _⟩

/-- What is reached from a store that was reached is reached. -/
theorem Reaches.trans {first second third : Store} (before : Reaches changeField first second)
    (behind : Reaches changeField second third) : Reaches changeField first third := by
  obtain ⟨moves, walk⟩ := before
  obtain ⟨others, rest⟩ := behind
  exact ⟨moves ++ others, walk.append rest⟩

/-- A chain of steps that are walks is one. -/
theorem Reaches.of_chain {step : Store → Store → Prop} {store after : Store}
    (each : ∀ store after, step store after → Reaches changeField store after)
    (chain : Relation.ReflTransGen step store after) : Reaches changeField store after := by
  induction chain with
  | refl => exact .refl store
  | tail _ last inductionHypothesis => exact inductionHypothesis.trans (each _ _ last)

/-- Where nothing is changed, time has passed. -/
theorem Spends.reaches {store after : Store} (spends : store.Spends after) :
    Reaches changeField store after :=
  ⟨[.waited], (Traffic.Step.waited ⟨store, []⟩ after spends).walk⟩

/-- A document that is stamped and stored is a walk. -/
theorem reaches_insert (store : Store) (collection : String) (members : Members Json)
    (ordinary : Members.Ordinary changeField members) (row : Json) (after : Store)
    (done : (store.stamp changeField members).2.insert collection
      (.object (store.stamp changeField members).1) = .ok (row, after)) :
    Reaches changeField store after := by
  have written : Traffic.Step changeField
      (Traffic.stamp ⟨store, []⟩ changeField ⟨collection, none, members⟩)
      (.added 0 collection) ⟨after, []⟩ := .added rfl done
  exact ⟨_, .step (.stamped _ _ ordinary) written.walk⟩

/-- Values that are stamped and set in a row are a walk, if a row was found or not. The stamp is one
move, and the next one sets the values or drops them for want of a row. -/
theorem reaches_update (store : Store) (collection : String) (predicate : Json)
    (values : Members Json) (ordinary : Members.Ordinary changeField values) (count : Nat)
    (after : Store) (done : (store.stamp changeField values).2.update collection predicate
      (store.stamp changeField values).1 = .ok (count, after)) :
    Reaches changeField store after := by
  let writing : Writing := ⟨collection, some predicate, values⟩
  have stamped : Traffic.Step changeField ⟨store, []⟩ .stamped
      (Traffic.stamp ⟨store, []⟩ changeField writing) := .stamped _ writing ordinary
  rcases (update_ok_iff _ _ _ _ _ _).mp done with ⟨-, -, rfl⟩ | ⟨place, found, rfl, -⟩
  · have dropped : Traffic.Step changeField (Traffic.stamp ⟨store, []⟩ changeField writing)
        (.dropped 0) ⟨(store.stamp changeField values).2, []⟩ := .dropped _ 0
    exact ⟨_, .step stamped dropped.walk⟩
  · have written : Traffic.Step changeField (Traffic.stamp ⟨store, []⟩ changeField writing)
        (.changed 0 collection place) ⟨after, []⟩ := .changed rfl found done
    exact ⟨_, .step stamped written.walk⟩

/-- A deletion is a walk, if a row was found or not. -/
theorem reaches_delete (store : Store) (collection : String) (predicate : Json) (count : Nat)
    (after : Store) (done : store.delete collection predicate = .ok (count, after)) :
    Reaches changeField store after := by
  rcases (delete_ok_iff _ _ _ _ _).mp done with ⟨-, -, rfl⟩ | ⟨place, found, rfl, -⟩
  · exact .refl after
  · have removed : Traffic.Step changeField ⟨store, []⟩ (.removed collection place) ⟨after, []⟩ :=
      .removed found done
    exact ⟨_, removed.walk⟩

end Store

namespace Batch

variable (changeField : String)

/-- Whether what a change writes is ordinary: it repeats no name, and no name leads into the change
field. -/
def Change.IsOrdinary : Change → Prop
  | .create members => Members.Ordinary changeField members
  | .update _ values => Members.Ordinary changeField values
  | .delete _ => True

/-- Whether a method writes the body of its operation to a row. -/
def Method.writesBody : Method → Bool
  | .create | .update => true
  | .read | .delete => false

/-- Whether what an operation writes is ordinary, if its method writes a body at all. -/
def Operation.IsOrdinary (operation : Operation) : Prop :=
  ∀ method, Method.ofName operation.methodName = .ok method → method.writesBody = true →
    ∀ members, operation.bodyMembers = .ok members → Members.Ordinary changeField members

variable {changeField}

/-- A mutation that is written is a walk: a creation stamps and inserts, an update stamps and sets,
and a deletion takes a row out. It must not set the change field itself. -/
theorem Mutation.write_reaches (mutation : Mutation) (store after : Store)
    (ordinary : mutation.change.IsOrdinary changeField)
    (written : mutation.write changeField store = .ok after) :
    store.Reaches changeField after := by
  unfold Mutation.write at written
  split at written
  · next members change =>
    rw [change] at ordinary
    obtain ⟨⟨row, last⟩, done, rfl⟩ := (map_ok_iff _ _ _).mp written
    exact store.reaches_insert _ members ordinary row last ((Store.add_ok_iff _ _ _ _).mp done)
  · next key values change =>
    rw [change] at ordinary
    obtain ⟨⟨count, last⟩, done, rfl⟩ :=
      (map_ok_iff _ _ _).mp ((Store.behind_ok_iff _ _ _).mp written)
    exact store.reaches_update _ _ values ordinary count last done
  · obtain ⟨⟨count, last⟩, done, rfl⟩ :=
      (map_ok_iff _ _ _).mp ((Store.behind_ok_iff _ _ _).mp written)
    exact store.reaches_delete _ _ count last done

/-- The values that an update sets are ordinary if its body is. -/
theorem Target.values_ordinary (target : Target) (operation : Operation)
    (ordinary : ∀ members, operation.bodyMembers = .ok members →
      Members.Ordinary changeField members) (values : Members Json)
    (given : target.values operation = .ok values) : Members.Ordinary changeField values := by
  obtain ⟨members, body, rfl⟩ := (map_ok_iff _ _ _).mp given
  exact ((ordinary members body).erase identityField).erase target.keyField

/-- The mutation of an operation is ordinary if its body is. -/
theorem Coordinator.mutation_ordinary (coordinator : Coordinator) (operation : Operation)
    (ordinary : operation.IsOrdinary changeField) (mutation : Mutation)
    (made : coordinator.mutation operation = .ok mutation) :
    mutation.change.IsOrdinary changeField := by
  obtain ⟨method, target, rest, change, named, _, asked, rfl⟩ :=
    (coordinator.mutation_ok_iff operation mutation).mp made
  cases asked with
  | create body => exact ordinary _ named rfl _ body
  | update keyed given =>
    exact target.values_ordinary operation (ordinary _ named rfl) _ given
  | delete keyed => trivial

end Batch

end DocumentQuery
