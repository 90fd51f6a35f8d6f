import DocumentQuery.Batch.Process
import DocumentQuery.Proofs.Batch.Effect

/-!
# When a group is written as a whole

A group is meant to be all or nothing: an error leaves every collection as it was, and a success
means that every mutation took effect. The check before the writes looks at keys only, while a
creation is refused for its identity and an earlier mutation can change what a later predicate
meets. The exact condition is therefore one on the rows that each mutation finds in its turn.
-/

namespace DocumentQuery.Batch

/-- Mutations that are written in order and take effect, from one store to another. -/
inductive EachTakesEffect (changeField : String) : Store → List Mutation → Store → Prop where
  | done (store : Store) : EachTakesEffect changeField store [] store
  | next {before middle after : Store} {mutation : Mutation} {mutations : List Mutation}
      (written : mutation.write changeField before = .ok middle)
      (effect : mutation.Effect changeField before middle)
      (others : EachTakesEffect changeField middle mutations after) :
      EachTakesEffect changeField before (mutation :: mutations) after

/-- An answer that is an error leaves the rows of every collection; a success has all mutations
of the group take effect in order. -/
structure GroupIsAtomic (coordinator : Coordinator) (store : Store) (name : String)
    (operations : List Operation) : Prop where
  error_leaves_rows : (coordinator.group store name operations).1.status ≠ 200 →
    ∀ collection,
      (coordinator.group store name operations).2.rows collection = store.rows collection
  success_takes_effect : (coordinator.group store name operations).1.status = 200 →
    ∃ mutations, operations.mapM coordinator.mutation = .ok mutations ∧
      EachTakesEffect coordinator.changeField store mutations
        (coordinator.group store name operations).2

/-- Whether every mutation fits the rows that those before it leave, so that all of them can be
written. -/
def FitInTurn (changeField : String) : Store → List Mutation → Prop
  | _, [] => True
  | store, mutation :: mutations =>
    mutation.Fits changeField store ∧
      ∀ after, mutation.write changeField store = .ok after → FitInTurn changeField after mutations

/-- The first mutation that is refused meets the rows that there were at the start. -/
def RefusedUnchanged (changeField : String) (start : Store) : Store → List Mutation → Prop
  | _, [] => False
  | store, mutation :: mutations =>
    (mutation.Refused changeField store ∧
      ∀ collection, store.rows collection = start.rows collection) ∨
    ∃ after, mutation.write changeField store = .ok after ∧
      RefusedUnchanged changeField start after mutations

/-- Mutations that fit in turn are all written, and each takes effect. -/
theorem write_fitting (changeField : String) (store : Store) (count : Nat)
    (mutations : List Mutation) (fits : FitInTurn changeField store mutations) :
    (writeFrom changeField store count mutations).failure = none ∧
      EachTakesEffect changeField store mutations
        (writeFrom changeField store count mutations).store := by
  induction mutations generalizing store count with
  | nil => exact ⟨rfl, .done store⟩
  | cons mutation mutations inductionHypothesis =>
    obtain ⟨first, others⟩ := fits
    obtain ⟨middle, written, effect⟩ := write_fits changeField store mutation first
    obtain ⟨unfailed, run⟩ := inductionHypothesis middle (count + 1) (others middle written)
    simp only [writeFrom, written]
    exact ⟨unfailed, .next written effect run⟩

/-- Mutations that each take effect fit in turn. -/
theorem fit_of_effect (changeField : String) (store after : Store) (mutations : List Mutation)
    (run : EachTakesEffect changeField store mutations after) :
    FitInTurn changeField store mutations := by
  induction run with
  | done store => trivial
  | @next before middle after mutation mutations written effect others inductionHypothesis =>
    refine ⟨fits_of_effect changeField before mutation middle written effect, ?_⟩
    intro reached same
    have equal : middle = reached := Except.ok.inj (written.symm.trans same)
    exact equal ▸ inductionHypothesis

/-- Writing fails and ends at the rows of the start exactly when the first refusal meets them.
Every write before it was carried out, so what it meets is what the writing leaves. -/
theorem write_stops_iff (changeField : String) (start store : Store) (count : Nat)
    (mutations : List Mutation) :
    ((writeFrom changeField store count mutations).failure ≠ none ∧
      ∀ collection, (writeFrom changeField store count mutations).store.rows collection =
        start.rows collection) ↔
      RefusedUnchanged changeField start store mutations := by
  induction mutations generalizing store count with
  | nil => simp [writeFrom, RefusedUnchanged]
  | cons mutation mutations inductionHypothesis =>
    have refusal := write_error_iff changeField store mutation
    cases written : mutation.write changeField store with
    | error setback =>
      have refused : mutation.Refused changeField store := refusal.mp ⟨setback, written⟩
      have left := (write_refused changeField store mutation setback written).rows
      simp [writeFrom, written, RefusedUnchanged, refused, left]
    | ok middle =>
      have passed : ¬ mutation.Refused changeField store := by
        intro refused
        obtain ⟨failure, failed⟩ := refusal.mpr refused
        simp [written] at failed
      simp [writeFrom, written, RefusedUnchanged, passed, inductionHypothesis]

/-- No failure of a group is answered like a success. -/
theorem groupResponse_fails (name : String) (failure : Failure) :
    (groupResponse name (some failure)).isSuccess = false := by
  have each (kind : Failure.Kind) : (200 ≤ kind.status && kind.status < 300) = false := by
    cases kind <;> decide
  exact each failure.kind

/-- The status that a failure is answered with is not that of a success. -/
theorem failure_status (name : String) (failure : Failure) :
    (groupResponse name (some failure)).status ≠ 200 := by
  intro same
  have fails := groupResponse_fails name failure
  simp [Response.isSuccess, same] at fails

/-- A group that cannot be made out or does not pass the check is answered with an error, and the
store is the one before it. -/
theorem group_unchecked (coordinator : Coordinator) (store : Store) (name : String)
    (operations : List Operation)
    (unchecked : ∀ mutations, operations.mapM coordinator.mutation = .ok mutations →
      validate store mutations ≠ .ok ()) :
    ∃ failure, coordinator.group store name operations =
      (groupResponse name (some failure), store) := by
  cases made : operations.mapM coordinator.mutation with
  | error failure => exact ⟨failure, by simp [Coordinator.group, made]⟩
  | ok mutations =>
    cases checked : validate store mutations with
    | error failure =>
      exact ⟨failure, by simp [Coordinator.group, made, checked]⟩
    | ok done => exact absurd checked (unchecked mutations made)

/-- A group that passes the check is written, and its answer is that of the writing. -/
theorem group_checked (coordinator : Coordinator) (store : Store) (name : String)
    (operations : List Operation) (mutations : List Mutation)
    (made : operations.mapM coordinator.mutation = .ok mutations)
    (checked : validate store mutations = .ok ()) :
    coordinator.group store name operations =
      (groupResponse name (write coordinator.changeField store mutations).failure,
        (write coordinator.changeField store mutations).store) := by
  simp [Coordinator.group, made, checked]

/-- A group is all or nothing exactly when, if it passes the check, each of its mutations fits the
rows that it finds in its turn, or the first one that is refused finds the rows of the start. -/
theorem group_atomic_iff (coordinator : Coordinator) (store : Store) (name : String)
    (operations : List Operation) :
    GroupIsAtomic coordinator store name operations ↔
      ∀ mutations, operations.mapM coordinator.mutation = .ok mutations →
        validate store mutations = .ok () →
        FitInTurn coordinator.changeField store mutations ∨
          RefusedUnchanged coordinator.changeField store store mutations := by
  constructor
  · intro atomic mutations made checked
    have answer := group_checked coordinator store name operations mutations made checked
    cases failed : (write coordinator.changeField store mutations).failure with
    | none =>
      obtain ⟨others, same, run⟩ :=
        atomic.success_takes_effect (by simp [answer, failed, groupResponse])
      have equal : mutations = others := Except.ok.inj (made.symm.trans same)
      exact .inl (fit_of_effect _ _ _ _ (equal ▸ run))
    | some failure =>
      have error : (coordinator.group store name operations).1.status ≠ 200 := by
        rw [answer, failed]
        exact failure_status name failure
      have unchanged := atomic.error_leaves_rows error
      rw [answer] at unchanged
      exact .inr ((write_stops_iff _ store store 0 mutations).mp
        ⟨by rw [← write, failed]; simp, unchanged⟩)
  · intro foreseen
    by_cases passes : ∃ mutations, operations.mapM coordinator.mutation = .ok mutations ∧
        validate store mutations = .ok ()
    · obtain ⟨mutations, made, checked⟩ := passes
      have answer := group_checked coordinator store name operations mutations made checked
      rcases foreseen mutations made checked with fits | refused
      · obtain ⟨unfailed, run⟩ := write_fitting _ store 0 mutations fits
        refine ⟨fun error => absurd ?_ error, fun _ => ⟨mutations, made, ?_⟩⟩
        · rw [answer, write, unfailed]
          rfl
        · rw [answer]
          exact run
      · obtain ⟨failed, unchanged⟩ := (write_stops_iff _ store store 0 mutations).mpr refused
        refine ⟨fun _ => ?_, fun success => absurd success ?_⟩
        · rw [answer]
          exact unchanged
        · obtain ⟨failure, named⟩ := Option.ne_none_iff_exists'.mp failed
          rw [answer, write, named]
          exact failure_status name failure
    · obtain ⟨failure, answer⟩ := group_unchecked coordinator store name operations
        fun mutations made checked => passes ⟨mutations, made, checked⟩
      refine ⟨fun _ _ => by rw [answer], fun success => absurd success ?_⟩
      rw [answer]
      exact failure_status name failure

end DocumentQuery.Batch
