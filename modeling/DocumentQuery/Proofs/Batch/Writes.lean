import DocumentQuery.Batch.Process
import DocumentQuery.Proofs.Batch.Effect
import DocumentQuery.Proofs.Pipeline.Rows
import Mathlib.Logic.Relation

/-!
# The writes of a batch

An operation asks for a mutation if its method changes rows and its URL addresses a target. What it
does to the store is to write that mutation, alone or within a group, or else to read the clock and
be refused. So whatever a batch does to a store is a chain of such steps, one after the other: each
operation without a group, and each group as far as it is written.
-/

namespace DocumentQuery.Batch

/-- The changes that an operation can ask a target for, by its method. An update or deletion needs a
key, and all but a deletion need a body that is an object. -/
inductive Target.Asks (target : Target) (rest : String) (operation : Operation) :
    Method → Change → Prop where
  | create {members : Members Json} (body : operation.bodyMembers = .ok members) :
      Asks target rest operation .create (.create members)
  | update {key : Json} {values : Members Json} (keyed : target.key? operation rest = some key)
      (given : target.values operation = .ok values) :
      Asks target rest operation .update (.update key values)
  | delete {key : Json} (keyed : target.key? operation rest = some key) :
      Asks target rest operation .delete (.delete key)

/-- The change of an operation that mutates is what it asks for. For each of the three methods the
parts that the change is made of are read from the operation, and it is made exactly if all of them
are. -/
theorem Target.change_ok_iff (target : Target) (method : Method) (rest : String)
    (operation : Operation) (change : Change) (mutates : method.isMutation = true) :
    target.change method rest operation = .ok change ↔
      target.Asks rest operation method change := by
  constructor
  · intro made
    cases method with
    | read => exact absurd mutates Bool.false_ne_true
    | create =>
      obtain ⟨members, body, rfl⟩ := (map_ok_iff _ _ _).mp made
      exact .create body
    | update =>
      cases keyed : target.key? operation rest with
      | none => simp [Target.change, keyed] at made
      | some key =>
        simp only [Target.change, keyed] at made
        obtain ⟨values, given, made⟩ := (bind_ok_iff _ _ _).mp made
        obtain rfl := Except.ok.inj made
        exact .update keyed given
    | delete =>
      cases keyed : target.key? operation rest with
      | none => simp [Target.change, keyed] at made
      | some key =>
        simp only [Target.change, keyed] at made
        obtain rfl := Except.ok.inj made
        exact .delete keyed
  · intro asked
    cases asked with
    | create body => simp [Target.change, body, Except.map]
    | update keyed given => simp [Target.change, keyed, given]
    | delete keyed => simp [Target.change, keyed]

/-- An operation that asks a target for a change mutates. -/
theorem Target.Asks.mutates {target : Target} {rest : String} {operation : Operation}
    {method : Method} {change : Change} (asked : target.Asks rest operation method change) :
    method.isMutation = true := by
  cases asked <;> rfl

variable (coordinator : Coordinator)

/-- The mutation of an operation is the change that it asks the target of its URL for. The operation
must have a method that changes rows and a URL that leads to a target, and the mutation is addressed
to the target's collection by the target's key field. -/
theorem Coordinator.mutation_ok_iff (operation : Operation) (mutation : Mutation) :
    coordinator.mutation operation = .ok mutation ↔
      ∃ method target rest change, Method.ofName operation.methodName = .ok method ∧
        coordinator.route? operation.url = some (target, rest) ∧
        target.Asks rest operation method change ∧
        mutation = ⟨target.collection.name, change, target.keyField⟩ := by
  unfold Coordinator.mutation
  constructor
  · intro made
    obtain ⟨method, named, made⟩ := (bind_ok_iff _ _ _).mp made
    cases mutates : method.isMutation with
    | false => simp [mutates] at made
    | true =>
      simp only [mutates, Bool.not_true, Bool.false_eq_true, if_false] at made
      cases routed : coordinator.route? operation.url with
      | none => simp [routed] at made
      | some route =>
        obtain ⟨target, rest⟩ := route
        simp only [routed] at made
        obtain ⟨change, changes, made⟩ := (bind_ok_iff _ _ _).mp made
        obtain rfl := Except.ok.inj made
        exact ⟨method, target, rest, change, named, rfl,
          (target.change_ok_iff method rest operation change mutates).mp changes, rfl⟩
  · rintro ⟨method, target, rest, change, named, routed, asked, rfl⟩
    have changes := (target.change_ok_iff method rest operation change asked.mutates).mpr asked
    simp [named, asked.mutates, routed, changes]

/-- An operation that asks for a change is carried out by writing its mutation. Only the answers
differ: that of the operation shows the row or how many there were, and a mutation has none. -/
theorem Coordinator.carryOut_asked (store : Store) (target : Target) (rest : String)
    (operation : Operation) (method : Method) (change : Change)
    (named : Method.ofName operation.methodName = .ok method)
    (asked : target.Asks rest operation method change) :
    (coordinator.carryOut store target rest operation).map Prod.snd =
      Mutation.write ⟨target.collection.name, change, target.keyField⟩ coordinator.changeField
        store := by
  unfold Coordinator.carryOut Mutation.write
  cases asked with
  | @create members body =>
    simp only [named, body, Store.behind_ok, ok_bind]
    cases (store.stamp coordinator.changeField members).2.add target.collection.name
      (.object (store.stamp coordinator.changeField members).1) <;> rfl
  | @update key values keyed given =>
    simp only [named, keyed, given, Store.behind_ok, ok_bind, Mutation.predicate]
    cases (store.stamp coordinator.changeField values).2.update target.collection.name
      (keyPredicate target.keyField key) (store.stamp coordinator.changeField values).1 <;> rfl
  | @delete key keyed =>
    simp only [named, keyed, Store.behind_ok, ok_bind, Mutation.predicate]
    cases store.delete target.collection.name (keyPredicate target.keyField key) <;> rfl

/-- An operation that asks for no change leaves the store, answered or refused. It only reads, or
its method, its key or its body are refused before the clock is read. -/
theorem Coordinator.carryOut_unasked (store : Store) (target : Target) (rest : String)
    (operation : Operation)
    (unasked : ∀ method change, Method.ofName operation.methodName = .ok method →
      ¬ target.Asks rest operation method change) :
    storeBehind (coordinator.carryOut store target rest operation) = store := by
  unfold Coordinator.carryOut
  cases named : Method.ofName operation.methodName with
  | error failure => rfl
  | ok method =>
    simp only [Store.behind_ok, ok_bind]
    cases method with
    | read => cases target.read store operation <;> rfl
    | create =>
      cases body : operation.bodyMembers with
      | error failure => rfl
      | ok members => exact absurd (.create body) (unasked _ _ named)
    | update =>
      cases keyed : target.key? operation rest with
      | none => rfl
      | some key =>
        cases given : target.values operation with
        | error failure => rfl
        | ok values => exact absurd (.update keyed given) (unasked _ _ named)
    | delete =>
      cases keyed : target.key? operation rest with
      | none => rfl
      | some key => exact absurd (.delete keyed) (unasked _ _ named)

/-- What carrying out an operation does to the store, answered or refused: its mutation is written
and answered with a success, or nothing is changed. -/
theorem Coordinator.carryOut_store (store : Store) (target : Target) (rest : String)
    (operation : Operation) (routed : coordinator.route? operation.url = some (target, rest)) :
    store.Spends (storeBehind (coordinator.carryOut store target rest operation)) ∨
      ∃ mutation response after, coordinator.mutation operation = .ok mutation ∧
        mutation.write coordinator.changeField store = .ok after ∧
        coordinator.carryOut store target rest operation = .ok (response, after) := by
  by_cases asks : ∃ method change, Method.ofName operation.methodName = .ok method ∧
      target.Asks rest operation method change
  · obtain ⟨method, change, named, asked⟩ := asks
    have made := (coordinator.mutation_ok_iff operation _).mpr
      ⟨method, target, rest, change, named, routed, asked, rfl⟩
    have written := coordinator.carryOut_asked store target rest operation method change named asked
    cases done : coordinator.carryOut store target rest operation with
    | error setback =>
      rw [done] at written
      exact .inl (write_refused coordinator.changeField store _ setback written.symm)
    | ok answer =>
      rw [done] at written
      exact .inr ⟨_, answer.1, answer.2, made, written.symm, rfl⟩
  · have same := coordinator.carryOut_unasked store target rest operation
      fun method change named asked => asks ⟨method, change, named, asked⟩
    rw [same]
    exact .inl (.refl store)

/-- An operation without a group changes nothing, or writes its mutation to the store. In the first
case it may have read the clock all the same, for a write that was refused behind the stamp. -/
theorem Coordinator.single_store (store : Store) (operation : Operation) :
    store.Spends (coordinator.single store operation).2 ∨
      ∃ mutation, coordinator.mutation operation = .ok mutation ∧
        mutation.write coordinator.changeField store =
          .ok (coordinator.single store operation).2 := by
  unfold Coordinator.single
  cases routed : coordinator.route? operation.url with
  | none => exact .inl (.refl store)
  | some route =>
    obtain ⟨target, rest⟩ := route
    dsimp only
    rcases coordinator.carryOut_store store target rest operation routed with
      spends | ⟨mutation, response, after, made, written, done⟩
    · revert spends
      cases coordinator.carryOut store target rest operation <;> exact .inl
    · rw [done]
      exact .inr ⟨mutation, made, written⟩

/-- Whether a mutation that one of some operations asks for is written to a store. -/
def Coordinator.Writes (operations : List Operation) (store after : Store) : Prop :=
  ∃ operation ∈ operations, ∃ mutation, coordinator.mutation operation = .ok mutation ∧
    mutation.write coordinator.changeField store = .ok after

/-- One step of a batch: a mutation that one of its operations asks for is written, or an operation
is refused and nothing is changed. -/
def Coordinator.Attempts (operations : List Operation) (store after : Store) : Prop :=
  coordinator.Writes operations store after ∨ store.Spends after

section Chains

open Relation (ReflTransGen)

variable (operations : List Operation)

/-- What every step keeps holds behind a chain of steps, and if every step is then one of a
narrower kind, it is a chain of those. -/
theorem chain_keeps {step narrow : Store → Store → Prop} {invariant : Store → Prop}
    {store after : Store} (each : ∀ store after, step store after → invariant store →
      invariant after ∧ narrow store after)
    (chain : ReflTransGen step store after) (held : invariant store) :
    invariant after ∧ ReflTransGen narrow store after := by
  induction chain with
  | refl => exact ⟨held, .refl⟩
  | tail _ last inductionHypothesis =>
    obtain ⟨middle, front⟩ := inductionHypothesis
    obtain ⟨kept, narrowed⟩ := each _ _ last middle
    exact ⟨kept, front.tail narrowed⟩

/-- An operation without a group is a single attempt. -/
theorem Coordinator.single_attempts (store : Store) (operation : Operation)
    (listed : operation ∈ operations) :
    ReflTransGen (coordinator.Attempts operations) store
      (coordinator.single store operation).2 := by
  rcases coordinator.single_store store operation with spends | ⟨mutation, made, written⟩
  · exact .single (.inr spends)
  · exact .single (.inl ⟨operation, listed, mutation, made, written⟩)

/-- Mutations that are written in turn are a chain of attempts, of which the last may be refused.
What is behind the refused one is not attempted any more. -/
theorem Coordinator.writeFrom_attempts (store : Store) (count : Nat) (mutations : List Mutation)
    (asked : ∀ mutation ∈ mutations, ∃ operation ∈ operations,
      coordinator.mutation operation = .ok mutation) :
    ReflTransGen (coordinator.Attempts operations) store
      (writeFrom coordinator.changeField store count mutations).store := by
  induction mutations generalizing store count with
  | nil => exact .refl
  | cons mutation mutations inductionHypothesis =>
    unfold writeFrom
    split
    · next after written =>
      obtain ⟨operation, listed, made⟩ := asked mutation List.mem_cons_self
      refine .head (.inl ⟨operation, listed, mutation, made, written⟩) ?_
      exact inductionHypothesis after (count + 1) fun other later =>
        asked other (List.mem_cons_of_mem mutation later)
    · next setback refused =>
      exact .single (.inr (write_refused coordinator.changeField store mutation setback refused))

/-- A group is a chain of attempts: none if it is refused by the check, and else those of its
mutations up to the first that fails. -/
theorem Coordinator.group_attempts (store : Store) (name : String) (group : List Operation)
    (listed : ∀ operation ∈ group, operation ∈ operations) :
    ReflTransGen (coordinator.Attempts operations) store
      (coordinator.group store name group).2 := by
  unfold Coordinator.group
  dsimp only
  split
  · exact .refl
  · next mutations checked =>
    obtain ⟨made, mapped, rest⟩ := (bind_ok_iff _ _ _).mp checked
    obtain ⟨_, valid, same⟩ := (bind_ok_iff _ _ _).mp rest
    obtain rfl := Except.ok.inj same
    refine coordinator.writeFrom_attempts operations store 0 made ?_
    intro mutation present
    obtain ⟨operation, inside, own⟩ := mem_mapM _ _ _ mapped mutation present
    exact ⟨operation, listed operation inside, own⟩

/-- Requests that are chains of steps are one chain in turn. -/
theorem inTurn_chain {Request : Type} {step : Store → Store → Prop}
    (carryOut : Store → Request → Response × Store) (requests : List Request)
    (each : ∀ request ∈ requests, ∀ store : Store,
      ReflTransGen step store (carryOut store request).2) (store : Store) :
    ReflTransGen step store (inTurn carryOut store requests).2 := by
  induction requests generalizing store with
  | nil => exact .refl
  | cons request requests inductionHypothesis =>
    exact (each request List.mem_cons_self store).trans
      (inductionHypothesis (fun other later => each other (List.mem_cons_of_mem request later)) _)

/-- An operation that is added to its group is the only new one in the groups. It stands behind the
others of its group, or in a group of its own behind all groups. -/
theorem mem_addToGroup (name : String) (operation : Operation)
    (groups : List (String × List Operation)) (group : String × List Operation)
    (listed : group ∈ addToGroup name operation groups) :
    ∀ member ∈ group.2, member = operation ∨ ∃ other ∈ groups, member ∈ other.2 := by
  induction groups with
  | nil =>
    obtain rfl := List.mem_singleton.mp listed
    exact fun member inside => .inl (List.mem_singleton.mp inside)
  | cons first groups inductionHypothesis =>
    obtain ⟨other, operations⟩ := first
    unfold addToGroup at listed
    intro member inside
    split at listed
    · rcases List.mem_cons.mp listed with rfl | later
      · rcases List.mem_append.mp inside with earlier | last
        · exact .inr ⟨_, List.mem_cons_self, earlier⟩
        · exact .inl (List.mem_singleton.mp last)
      · exact .inr ⟨group, List.mem_cons_of_mem _ later, inside⟩
    · rcases List.mem_cons.mp listed with rfl | later
      · exact .inr ⟨_, List.mem_cons_self, inside⟩
      · rcases inductionHypothesis later member inside with same | ⟨another, present, within⟩
        · exact .inl same
        · exact .inr ⟨another, List.mem_cons_of_mem _ present, within⟩

/-- The operations of groups are operations of the batch, since groups are collected by adding one
operation of the batch after the other. -/
theorem mem_groups (group : String × List Operation)
    (listed : group ∈ groups operations) : ∀ operation ∈ group.2, operation ∈ operations := by
  unfold groups at listed
  revert group
  refine List.foldlRecOn (motive := fun groups : List (String × List Operation) =>
    ∀ group ∈ groups, ∀ operation ∈ group.2, operation ∈ operations) operations _ (by simp) ?_
  intro before known operation present
  split
  · exact known
  · next name _ =>
    intro group listed member inside
    rcases mem_addToGroup name operation before group listed member inside with
      rfl | ⟨other, earlier, within⟩
    · exact present
    · exact known other earlier member within

/-- A batch is a chain of attempts to write the mutations of its operations. -/
theorem Coordinator.process_attempts (store : Store) :
    ReflTransGen (coordinator.Attempts operations) store
      (coordinator.process store operations).2 := by
  have first := inTurn_chain coordinator.single (singles operations) (fun operation listed =>
    fun store => coordinator.single_attempts operations store operation
      (List.mem_of_mem_filter listed)) store
  refine first.trans (inTurn_chain _ (groups operations) ?_ _)
  intro group listed store
  exact coordinator.group_attempts operations store group.1 group.2
    (mem_groups operations group listed)

end Chains

end DocumentQuery.Batch
