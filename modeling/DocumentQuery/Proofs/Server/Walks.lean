import DocumentQuery.Proofs.Batch.Walks
import DocumentQuery.Proofs.Server.Writes

/-!
# Requests as walks

Whatever a request does to the store of a server is a walk of stamps, writes, removals and
checkpoints, with no write under way at its ends. A request that only reads is the walk without a
step, and in one that is refused time passes. What a request writes must not lead into the change
field.
-/

namespace DocumentQuery

/-- A checkpoint that is set is a walk. -/
theorem Store.reaches_initiate {changeField : String} (store : Store) (resume : Option Json)
    (checkpoint : Checkpoint) (after : Store)
    (issued : store.initiate resume = .ok (checkpoint, after)) :
    Reaches changeField store after :=
  ⟨_, (Traffic.Step.issued issued :
    Traffic.Step changeField ⟨store, []⟩ .issued ⟨after, []⟩).walk⟩

namespace Server

variable (settings : ServerSettings)

/-- Whether nothing that a request writes leads into the change field: no name of a row's members,
and of a batch no name of an operation's. -/
structure IsOrdinary (request : Request) : Prop where
  created : ∀ segment, action? settings request = some (.create segment) →
    ∀ members, bodyMembers request = .ok members → Members.Apart settings.changeField members
  updated : ∀ segment key, action? settings request = some (.update segment key) →
    ∀ members, bodyMembers request = .ok members → Members.Apart settings.changeField members
  processed : action? settings request = some .process → ∀ draft operations,
    request.draft = .ok draft → Batch.form.read draft = .ok operations →
    ∀ operation ∈ operations, ∀ method, Batch.Method.ofName operation.methodName = .ok method →
      method.writesBody = true → ∀ members, operation.bodyMembers = .ok members →
        Members.Apart settings.changeField members

variable {settings} {request : Request}

/-- The mutations that an ordinary request asks for are ordinary. Taking the identity and the key
out of the body of an update leaves no name that leads into the change field. -/
theorem Asks.ordinary {mutation : Batch.Mutation} (asked : Asks settings request mutation)
    (ordinary : IsOrdinary settings request) :
    mutation.change.IsOrdinary settings.changeField := by
  cases asked with
  | created action named exposed body =>
    exact ⟨bodyMembers_distinct request _ body, ordinary.created _ action _ body⟩
  | updated action named keyed exposed body =>
    have own : Members.Ordinary settings.changeField _ :=
      ⟨bodyMembers_distinct request _ body, ordinary.updated _ _ action _ body⟩
    exact (own.erase identityField).erase _
  | @processed draft operations operation mutation action sent read listed made =>
    refine settings.coordinator.mutation_ordinary operation ?_ mutation made
    intro method named writes members body
    exact ⟨Batch.bodyMembers_distinct draft operations read operation listed members body,
      ordinary.processed action draft operations sent read operation listed method named writes
        members body⟩

/-- Every request that is answered is a walk. -/
theorem answer_reaches (store : Store) (request : Request)
    (ordinary : IsOrdinary settings request) :
    store.Reaches settings.changeField (Server.answer settings store request).2 := by
  refine .of_chain ?_ (answer_handled store request)
  rintro store after (⟨asked, written⟩ | ⟨done⟩ | ⟨spends⟩)
  · exact Batch.Mutation.write_reaches _ store after (asked.ordinary ordinary) written
  · exact store.reaches_initiate none _ after done
  · exact spends.reaches

end Server

end DocumentQuery
