import DocumentQuery.Proofs.Batch.Writes
import DocumentQuery.Proofs.Json.Distinct
import DocumentQuery.Server.Basic

/-!
# The writes of a request

Whatever a request does to the store of a server, it does in steps: it writes the mutations that it
asks for, it sets a checkpoint, or it is refused and changes nothing. A request that creates or
changes a row asks for one mutation, a batch for those of its operations, and any other request for
none. The bodies are read from drafts, so they repeat no name.
-/

namespace DocumentQuery

namespace Batch

/-- An object that is the body of an operation is written by a draft. -/
theorem Operation.body_read (draft : Json.Draft) (operation : Operation)
    (read : form.read draft = .ok operation) (object : Members Json)
    (body : operation.body = some (.object object)) :
    ∃ source : Json.Draft, source.json = .ok (.object object) := by
  obtain ⟨members, built⟩ := Json.Form.build_of_read _ _ _ read
  obtain ⟨withBody, group, first, _, rfl⟩ := (Json.Form.build_seq _ _ _ _).mp built
  obtain ⟨withUrl, content, second, third, rfl⟩ := (Json.Form.build_seq _ _ _ _).mp first
  obtain ⟨withMethod, url, fourth, _, rfl⟩ := (Json.Form.build_seq _ _ _ _).mp second
  obtain ⟨method, _, rfl⟩ := (Json.Form.build_map _ _ _ _).mp fourth
  obtain rfl : content = some (.object object) := body
  exact Json.Form.build_optional _ _ _ _ third

/-- The operations that a draft writes are written by drafts. -/
theorem operation_read (draft : Json.Draft) (operations : List Operation)
    (read : form.read draft = .ok operations) (operation : Operation)
    (listed : operation ∈ operations) :
    ∃ item : Json.Draft, Operation.form.read item = .ok operation := by
  obtain ⟨list, made⟩ := Json.Form.build_of_read form draft operations read
  rcases Json.Form.build_defaulted _ _ _ _ _ made with ⟨items, all⟩ | rfl
  · cases items with
    | array items =>
      obtain ⟨item, _, single⟩ := mem_mapM _ _ _ all operation listed
      exact ⟨item, single⟩
    | _ => simp [Json.Draft.list] at all
  · simp at listed

/-- The bodies of the operations that a draft writes repeat no name, since each is read from an
object of the draft or is empty. -/
theorem bodyMembers_distinct (draft : Json.Draft) (operations : List Operation)
    (read : form.read draft = .ok operations) (operation : Operation)
    (listed : operation ∈ operations) (members : Members Json)
    (body : operation.bodyMembers = .ok members) : (Members.names members).Nodup := by
  obtain ⟨item, single⟩ := operation_read draft operations read operation listed
  unfold Operation.bodyMembers at body
  split at body
  · obtain rfl := Except.ok.inj body
    exact List.nodup_nil
  · obtain rfl := Except.ok.inj body
    exact List.nodup_nil
  · next object given =>
    obtain rfl := Except.ok.inj body
    obtain ⟨source, parsed⟩ := Operation.body_read item operation single _ given
    exact source.json_distinct _ parsed
  · simp at body

end Batch

namespace Server

variable (settings : ServerSettings)

/-- What a request asks to be done. -/
def action? (request : Request) : Option Route.Action := do
  (← Route.ofPath? settings.base.toList request.path).action? request.method

/-- The body of a request repeats no name. -/
theorem bodyMembers_distinct (request : Request) (members : Members Json)
    (body : bodyMembers request = .ok members) : (Members.names members).Nodup := by
  unfold bodyMembers at body
  obtain ⟨draft, _, body⟩ := (bind_ok_iff _ _ _).mp body
  split at body
  · next object read =>
    obtain rfl := Except.ok.inj body
    exact draft.json_distinct _ read
  · simp at body
  · simp at body

/-- The mutations that a request asks for: that of a row to be created or changed, or those of the
operations of a batch. -/
inductive Asks (request : Request) : Batch.Mutation → Prop where
  | created {segment : List Char} {name : String} {entitySet : EntitySet} {members : Members Json}
      (action : action? settings request = some (.create segment))
      (named : decoded "set" segment = .ok name) (exposed : settings.exposed name = .ok entitySet)
      (body : bodyMembers request = .ok members) :
      Asks request ⟨entitySet.collectionName, .create members, entitySet.keyField⟩
  | updated {segment keySegment : List Char} {name key : String} {entitySet : EntitySet}
      {members : Members Json}
      (action : action? settings request = some (.update segment keySegment))
      (named : decoded "set" segment = .ok name) (keyed : decoded "id" keySegment = .ok key)
      (exposed : settings.exposed name = .ok entitySet) (body : bodyMembers request = .ok members) :
      Asks request ⟨entitySet.collectionName,
        .update (Batch.keyOfText key.toList)
          ((members.erase identityField).erase entitySet.keyField),
        entitySet.keyField⟩
  | processed {draft : Json.Draft} {operations : List Batch.Operation}
      {operation : Batch.Operation} {mutation : Batch.Mutation}
      (action : action? settings request = some .process) (sent : request.draft = .ok draft)
      (read : Batch.form.read draft = .ok operations) (listed : operation ∈ operations)
      (made : settings.coordinator.mutation operation = .ok mutation) : Asks request mutation

/-- One step of a request: a mutation that it asks for is written, a checkpoint is set, or something
is refused and nothing is changed. -/
inductive Handles (request : Request) : Store → Store → Prop where
  | wrote {store after : Store} {mutation : Batch.Mutation}
      (asked : Asks settings request mutation)
      (written : mutation.write settings.changeField store = .ok after) :
      Handles request store after
  | issued {store after : Store} {checkpoint : Checkpoint}
      (done : store.initiate none = .ok (checkpoint, after)) : Handles request store after
  | refused {store after : Store} (spends : store.Spends after) : Handles request store after

section Chains

open Relation (ReflTransGen)

variable {settings} (store : Store) (entitySet : EntitySet) (request : Request)

/-- An entity set that is read is a chain of one step at most, in which a checkpoint is set or
refused. -/
theorem read_handled :
    ReflTransGen (Handles settings request) store
      (storeBehind (read settings store entitySet request)) := by
  unfold read
  split
  · unfold track
    cases watched : store.watch none with
    | error setback => exact .single (.refused (store.watch_refused none setback watched))
    | ok issued => exact .single (.issued ((store.watch_ok_iff none issued).mp watched))
  · split
    · next token _ => cases changes settings store entitySet token <;> exact .refl
    · cases query store entitySet request <;> exact .refl

/-- The mutation by which a row is created. -/
def creation (members : Members Json) : Batch.Mutation :=
  ⟨entitySet.collectionName, .create members, entitySet.keyField⟩

/-- The mutation by which a row is changed: the identity and the key are left out of the body. -/
def alteration (key : String) (members : Members Json) : Batch.Mutation :=
  ⟨entitySet.collectionName,
    .update (Batch.keyOfText key.toList) ((members.erase identityField).erase entitySet.keyField),
    entitySet.keyField⟩

/-- A row is created by writing its mutation, with the same outcome. -/
theorem create_writes (members : Members Json) (body : bodyMembers request = .ok members) :
    (create settings store entitySet request).map Prod.snd =
      (creation entitySet members).write settings.changeField store := by
  simp only [create, body, Store.behind_ok, ok_bind, creation, Batch.Mutation.write]
  cases (store.stamp settings.changeField members).2.add entitySet.collectionName
    (.object (store.stamp settings.changeField members).1) <;> rfl

/-- A request to create a row is a chain of one step at most: none if its body is refused, and
otherwise a write or the refusal of one. -/
theorem create_handled (asks : ∀ members, bodyMembers request = .ok members →
      Asks settings request (creation entitySet members)) :
    ReflTransGen (Handles settings request) store
      (storeBehind (create settings store entitySet request)) := by
  cases body : bodyMembers request with
  | error failure =>
    have refused : create settings store entitySet request = .error ⟨failure, store⟩ := by
      simp [create, body]
    rw [refused]
    exact .refl
  | ok members =>
    have written : (create settings store entitySet request).map Prod.snd = _ :=
      create_writes store entitySet request members body
    cases done : create settings store entitySet request with
    | error setback =>
      rw [done] at written
      exact .single (.refused (Batch.write_refused _ store _ setback written.symm))
    | ok answer =>
      rw [done] at written
      exact .single (.wrote (asks members body) written.symm)

/-- A request to change a row is a chain of one step at most. The update of a row that is not found
is written as well, and leaves all rows. -/
theorem update_handled (key : String) (asks : ∀ members, bodyMembers request = .ok members →
      Asks settings request (alteration entitySet key members)) :
    ReflTransGen (Handles settings request) store
      (storeBehind (update settings store entitySet key request)) := by
  cases body : bodyMembers request with
  | error failure =>
    have refused : update settings store entitySet key request = .error ⟨failure, store⟩ := by
      simp [update, body]
    rw [refused]
    exact .refl
  | ok members =>
    simp only [update, body, Store.behind_ok, ok_bind]
    cases updated : (store.stamp settings.changeField
        ((members.erase identityField).erase entitySet.keyField)).2.update
          entitySet.collectionName
          (Batch.keyPredicate entitySet.keyField (Batch.keyOfText key.toList))
          (store.stamp settings.changeField
            ((members.erase identityField).erase entitySet.keyField)).1 with
    | error failure =>
      exact .single (.refused (store.spends_stamp settings.changeField
        ((members.erase identityField).erase entitySet.keyField)))
    | ok outcome =>
      obtain ⟨count, last⟩ := outcome
      have written : (alteration entitySet key members).write settings.changeField store =
          .ok last := by
        simp [alteration, Batch.Mutation.write, Batch.Mutation.predicate, updated, Except.map]
      have step : Handles settings request store last := .wrote (asks members body) written
      by_cases none : count = 0 <;> simpa [none, storeBehind] using ReflTransGen.single step

/-- A batch that is processed is a chain of attempts to write its operations' mutations. -/
theorem process_handled (action : action? settings request = some .process) (answer : Answer)
    (after : Store) (done : process settings store request = .ok (answer, after)) :
    ReflTransGen (Handles settings request) store after := by
  unfold process at done
  obtain ⟨draft, sent, done⟩ := (bind_ok_iff _ _ _).mp done
  obtain ⟨operations, listed, done⟩ := (bind_ok_iff _ _ _).mp done
  obtain ⟨-, rfl⟩ := Prod.mk.inj (Except.ok.inj done)
  refine ReflTransGen.mono ?_ _ _ (settings.coordinator.process_attempts operations store)
  rintro store after (⟨operation, inside, mutation, made, written⟩ | spends)
  · exact .wrote (.processed action ((mapError_ok_iff _ _ _).mp sent)
      ((mapError_ok_iff _ _ _).mp listed) inside made) written
  · exact .refused spends

/-- Steps that need an answer of another computation first are a chain if they are one for each
answer. Where that computation is refused, the store is left. -/
theorem behind_handled {Reason First : Type} (outcome : Except Reason First)
    {Answer : Type} (next : First → Except (Setback Reason) (Answer × Store))
    (handled : ∀ first, outcome = .ok first →
      ReflTransGen (Handles settings request) store (storeBehind (next first))) :
    ReflTransGen (Handles settings request) store
      (storeBehind (store.behind outcome >>= next)) := by
  cases given : outcome with
  | error reason => exact .refl
  | ok first => exact handled first given

/-- An action is a chain of steps, answered or refused. What is read before a write, such as names
and keys, does nothing to the store when it fails. -/
theorem carryOut_handled (action : Route.Action)
    (asked : action? settings request = some action) :
    ReflTransGen (Handles settings request) store
      (storeBehind (carryOut settings store request action)) := by
  cases action with
  | describe => exact .refl
  | process =>
    unfold carryOut
    cases done : process settings store request with
    | error failure => exact .refl
    | ok answer => exact process_handled store request asked answer.1 answer.2 done
  | query segment =>
    refine behind_handled store request _ _ fun name _ => ?_
    refine behind_handled store request _ _ fun entitySet _ => ?_
    rw [storeBehind_mapError]
    exact read_handled store entitySet request
  | count segment =>
    refine behind_handled store request _ _ fun name _ => ?_
    refine behind_handled store request _ _ fun entitySet _ => ?_
    exact behind_handled store request _ _ fun counted _ => .refl
  | create segment =>
    refine behind_handled store request _ _ fun name named => ?_
    refine behind_handled store request _ _ fun entitySet found => ?_
    have exposed := (mapError_ok_iff _ _ _).mp found
    rw [storeBehind_mapError]
    exact create_handled store entitySet request fun members body =>
      .created asked named exposed body
  | update segment keySegment =>
    refine behind_handled store request _ _ fun name named => ?_
    refine behind_handled store request _ _ fun key keyed => ?_
    refine behind_handled store request _ _ fun entitySet found => ?_
    have exposed := (mapError_ok_iff _ _ _).mp found
    rw [storeBehind_mapError]
    exact update_handled store entitySet request key fun members body =>
      .updated asked named keyed exposed body

/-- A request to some resource is a chain of steps; one without a route or an action
does nothing. -/
theorem respond_handled :
    ReflTransGen (Handles settings request) store (respond settings store request).2 := by
  unfold respond
  cases routed : Route.ofPath? settings.base.toList request.path with
  | none => exact .refl
  | some route =>
    dsimp only
    cases asked : route.action? request.method with
    | none => exact .refl
    | some action =>
      have same : action? settings request = some action := by simp [action?, routed, asked]
      have handled := carryOut_handled store request action same
      dsimp only
      revert handled
      cases carryOut settings store request action <;> exact id

/-- Every request that is answered is a chain of steps. -/
theorem answer_handled :
    ReflTransGen (Handles settings request) store (Server.answer settings store request).2 := by
  unfold Server.answer
  split
  · exact .refl
  · have handled : ReflTransGen (Handles settings request) store
        (respond settings store request).2 := respond_handled store request
    generalize respond settings store request = responded at handled ⊢
    exact handled

end Chains

/-- What happens to a server: it is sent a request, or time passes up to a reading. -/
inductive Happening where
  | asked (request : Request)
  | waited (reading : Nat)

/-- The store behind a happening. Waiting moves the clock on, and no reading sets it back. -/
def happen (store : Store) : Happening → Store
  | .asked request => (Server.answer settings store request).2
  | .waited reading => { store with clock := store.clock.set (max store.clock.now reading) }

/-- The store behind happenings in turn. -/
def run (store : Store) (happenings : List Happening) : Store :=
  happenings.foldl (happen settings) store

end Server

end DocumentQuery
