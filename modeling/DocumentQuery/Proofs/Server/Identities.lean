import DocumentQuery.Proofs.Batch.Identities
import DocumentQuery.Proofs.Batch.IdentityKeys
import DocumentQuery.Proofs.Server.Writes

/-!
# Identities through requests

Whatever is asked of a server, the rows of a collection have identities that differ by value, if
they did at the start; and no update changes the identity of a row, or the key by which its entity
set addresses it. The bodies of updates must not lead into identities or keys but by their own
names, which are passed over, and stamps must not lead there either.
-/

namespace DocumentQuery

namespace Batch

/-- The target that is found for a path is one of those that were looked through, and the path names
it. -/
theorem longest_mem (path : List Char) (targets : List Target) (target : Target)
    (rest : List Char) (found : longest? path targets = some (target, rest)) :
    target ∈ targets ∧ target.rest? path = some rest := by
  unfold longest? at found
  revert target rest
  refine List.foldlRecOn (motive := fun best : Option (Target × List Char) =>
    ∀ target rest, best = some (target, rest) →
      target ∈ targets ∧ target.rest? path = some rest) targets _ (by simp) ?_
  intro best known other listed target rest
  split
  · exact known target rest
  · next passed own =>
    have taken : some (other, passed) = some (target, rest) →
        target ∈ targets ∧ target.rest? path = some rest := by
      intro chosen
      obtain ⟨rfl, rfl⟩ := Prod.mk.inj (Option.some.inj chosen)
      exact ⟨listed, own⟩
    split
    · split
      · exact taken
      · exact known target rest
    · exact taken

/-- A URL addresses one of the targets. -/
theorem Coordinator.route_mem (coordinator : Coordinator) (url : String) (target : Target)
    (rest : String) (routed : coordinator.route? url = some (target, rest)) :
    target ∈ coordinator.targets := by
  obtain ⟨path, _, routed⟩ := Option.bind_eq_some_iff.mp routed
  obtain ⟨path, _, routed⟩ := Option.bind_eq_some_iff.mp routed
  obtain ⟨⟨found, remainder⟩, longest, same⟩ := Option.bind_eq_some_iff.mp routed
  obtain ⟨rfl, -⟩ := Prod.mk.inj (Option.some.inj same)
  exact (longest_mem path coordinator.targets found remainder longest).1

end Batch

namespace ServerSettings

/-- An entity set that requests address is one that is laid down. -/
theorem exposed_mem (settings : ServerSettings) (name : String) (entitySet : EntitySet)
    (exposed : settings.exposed name = .ok entitySet) : entitySet ∈ settings.entitySets := by
  unfold ServerSettings.exposed at exposed
  split at exposed
  · next found first =>
    obtain rfl := Except.ok.inj exposed
    exact List.mem_reverse.mp (List.mem_of_find?_eq_some first)
  · exact absurd exposed nofun

/-- Whether stamps lead neither into identities nor into the key of an entity set. -/
structure StampsApart (settings : ServerSettings) : Prop where
  identity : Path.head settings.changeField ≠ identityField
  keys : ∀ entitySet ∈ settings.entitySets,
    Path.head settings.changeField ≠ Path.head entitySet.keyField

end ServerSettings

namespace Server

variable (settings : ServerSettings)

/-- Whether no name of an update's body leads into the identity or the key of its row, but the
names of these two. -/
structure NamesKeys (request : Request) : Prop where
  updated : ∀ segment keySegment name entitySet,
    action? settings request = some (.update segment keySegment) →
    decoded "set" segment = .ok name → settings.exposed name = .ok entitySet →
    ∀ members, bodyMembers request = .ok members → members.NamesKeys entitySet.keyField
  processed : action? settings request = some .process → ∀ draft operations,
    request.draft = .ok draft → Batch.form.read draft = .ok operations →
    ∀ operation ∈ operations, Batch.Method.ofName operation.methodName = .ok .update →
    ∀ target rest, settings.coordinator.route? operation.url = some (target, rest) →
    ∀ members, operation.bodyMembers = .ok members → members.NamesKeys target.keyField

/-- Whether the request of a happening, if it is one, names identities and keys so. -/
def Happening.NamesKeys : Happening → Prop
  | .asked request => Server.NamesKeys settings request
  | .waited _ => True

/-- One step of a request in which no update changes the identity or the key of a row. -/
inductive HandlesKeeping (request : Request) : Store → Store → Prop where
  | wrote {store after : Store} {mutation : Batch.Mutation}
      (asked : Asks settings request mutation)
      (written : mutation.write settings.changeField store = .ok after)
      (kept : mutation.KeepsKeys store after) : HandlesKeeping request store after
  | issued {store after : Store} {checkpoint : Checkpoint}
      (done : store.initiate none = .ok (checkpoint, after)) : HandlesKeeping request store after
  | refused {store after : Store} (spends : store.Spends after) :
      HandlesKeeping request store after

variable {settings} {request : Request} {mutation : Batch.Mutation}

/-- The stamps of a server are apart from the keys of the mutations that it is asked for, because
each of these is of an entity set that the server exposes. -/
theorem Asks.stampsApart (asked : Asks settings request mutation)
    (apart : settings.StampsApart) : mutation.StampsApart settings.changeField := by
  refine ⟨apart.identity, ?_⟩
  cases asked with
  | created action named exposed body =>
    exact apart.keys _ (settings.exposed_mem _ _ exposed)
  | updated action named keyed exposed body =>
    exact apart.keys _ (settings.exposed_mem _ _ exposed)
  | processed action sent read listed made =>
    obtain ⟨method, target, rest, change, named, routed, asked, rfl⟩ :=
      (settings.coordinator.mutation_ok_iff _ _).mp made
    obtain ⟨entitySet, present, rfl⟩ :=
      List.mem_map.mp (settings.coordinator.route_mem _ _ _ routed)
    exact apart.keys entitySet present

/-- The updates that a request asks for leave identities and keys. Both names are taken out of the
body of an update, and no other name in it leads into them. -/
theorem Asks.leavesKeys (asked : Asks settings request mutation)
    (named : NamesKeys settings request) : mutation.LeavesKeys := by
  cases asked with
  | created action decoded exposed body => trivial
  | updated action decoded keyed exposed body =>
    exact (named.updated _ _ _ _ action decoded exposed _ body).erased
      (bodyMembers_distinct request _ body)
  | @processed draft operations operation mutation action sent read listed made =>
    obtain ⟨method, target, rest, change, method, routed, asked, rfl⟩ :=
      (settings.coordinator.mutation_ok_iff _ _).mp made
    cases asked with
    | create body => trivial
    | update keyed given =>
      obtain ⟨members, body, rfl⟩ := (map_ok_iff _ _ _).mp given
      exact (named.processed action draft operations sent read operation listed method target rest
        routed members body).erased
        (Batch.bodyMembers_distinct draft operations read operation listed members body)
    | delete keyed => trivial

/-- A step of a request leaves rows with distinct identities, and if it is an update it keeps the
identity and the key of every row. -/
theorem Handles.keeps (apart : settings.StampsApart) (named : NamesKeys settings request)
    (store after : Store) (handles : Handles settings request store after)
    (identified : store.IsIdentified) :
    after.IsIdentified ∧ HandlesKeeping settings request store after := by
  cases handles with
  | wrote asked written =>
    obtain ⟨distinct, kept⟩ := Batch.Mutation.write_keeps written identified
      (asked.stampsApart apart) (asked.leavesKeys named)
    exact ⟨distinct, .wrote asked written kept⟩
  | issued done =>
    obtain ⟨-, -, rfl⟩ := (Store.initiate_ok_iff _ _ _ _).mp done
    exact ⟨identified, .issued done⟩
  | refused spends =>
    refine ⟨fun collection => ?_, .refused spends⟩
    rw [spends.rows]
    exact identified collection

/-- A request that is answered leaves rows with distinct identities, and its updates keep the
identity and the key of every row. -/
theorem answer_keeps (apart : settings.StampsApart) (request : Request)
    (named : NamesKeys settings request) (store : Store) (identified : store.IsIdentified) :
    (Server.answer settings store request).2.IsIdentified ∧
      Relation.ReflTransGen (HandlesKeeping settings request) store
        (Server.answer settings store request).2 :=
  Batch.chain_keeps (Handles.keeps apart named) (answer_handled store request) identified

/-- Through all requests, and behind each of them, every row is an object with an identity, and no
two rows of a collection have identities that are equal by value, if it is so at the start. The
writes of a request are steps in which no update changes the identity of a row, or its value in the
key field of the entity set that it was addressed through.

Proof: one step is an insertion, which asks for an identity that is not there yet, an update, which
leaves the identity because the paths that it sets do not lead into it, or a removal. A request is
some such steps by `answer_keeps`, and the requests follow one another by induction. -/
theorem identities_kept (settings : ServerSettings) (apart : settings.StampsApart) (begun : Store)
    (identified : begun.IsIdentified) (happenings : List Happening)
    (named : ∀ happening ∈ happenings, happening.NamesKeys settings) :
    (run settings begun happenings).IsIdentified ∧
    ∀ request, NamesKeys settings request →
      Relation.ReflTransGen (HandlesKeeping settings request) (run settings begun happenings)
        (Server.answer settings (run settings begun happenings) request).2 := by
  have kept : (run settings begun happenings).IsIdentified := by
    induction happenings generalizing begun with
    | nil => exact identified
    | cons happening happenings inductionHypothesis =>
      have first := named happening List.mem_cons_self
      refine inductionHypothesis (happen settings begun happening) ?_ fun other later =>
        named other (List.mem_cons_of_mem happening later)
      cases happening with
      | asked request => exact (answer_keeps apart request first begun identified).1
      | waited reading => exact identified
  exact ⟨kept, fun request whole => (answer_keeps apart request whole _ kept).2⟩

open Batch (twoItems two_items_keyed)

/-- A server of items that are addressed by a property. -/
def itemsServer (key : String) : ServerSettings :=
  { entitySets := [{ name := "Items", collection := some "items", key }] }

/-- The two items have distinct identities. -/
theorem two_items_identified : twoItems.IsIdentified :=
  fun collection => (two_items_keyed.keyed collection).identified

/-- A request that changes an item, with a body that names its identity and its key. -/
def relabel : Request :=
  { method := "PATCH"
    target := "/odata/Items/B"
    headers := [("content-type", "application/json")]
    body := "\x7b\"_id\":1,\"sku\":\"A\",\"name\":\"x\"\x7d" }

/-- The body leads into the identity and the key by their own names only; no name in it is
a path. -/
theorem relabel_names : NamesKeys (itemsServer "sku") relabel := by
  have written : (bodyMembers relabel).toOption.map Members.names =
      some ["_id", "sku", "name"] := by decide +kernel
  constructor
  · intro segment keySegment name entitySet _ _ exposed members body
    have listed := (itemsServer "sku").exposed_mem name entitySet exposed
    obtain rfl := List.mem_singleton.mp listed
    have names : Members.names members = ["_id", "sku", "name"] := by
      rw [body] at written
      exact Option.some.inj written
    rw [Members.NamesKeys, names]
    decide +kernel
  · intro processed
    have updates : (action? (itemsServer "sku") relabel).any fun action =>
        match action with
        | .process => false
        | _ => true := by decide +kernel
    rw [processed] at updates
    exact absurd updates Bool.false_ne_true

/-- The request changes an item, whose identity and key stay. -/
theorem relabel_keeps :
    (itemsServer "sku").StampsApart ∧ twoItems.IsIdentified ∧
    NamesKeys (itemsServer "sku") relabel ∧
    (run (itemsServer "sku") twoItems [.asked relabel]).IsIdentified ∧
    ((run (itemsServer "sku") twoItems [.asked relabel]).rows "items").map
      (fun row => (row.member? "name").isSome) = [false, true] := by
  have apart : (itemsServer "sku").StampsApart :=
    ⟨by decide +kernel, by decide +kernel⟩
  obtain ⟨identified, -⟩ := identities_kept (itemsServer "sku") apart twoItems
    two_items_identified [.asked relabel] (by
      intro happening inside
      obtain rfl := List.mem_singleton.mp inside
      exact relabel_names)
  exact ⟨apart, two_items_identified, relabel_names, identified, by decide +kernel⟩

/-- A request that changes an item, with a name in its body that leads into a member. -/
def intrude (item name : String) : Request :=
  { method := "PATCH"
    target := "/odata/Items/" ++ item
    headers := [("content-type", "application/json")]
    body := "\x7b\"" ++ name ++ ".x\":1\x7d" }

/-- Whether the first two of some rows have identities that are equal by value. -/
def firstTwoShare : List Json → Bool
  | first :: second :: _ => (first.member? identityField).any fun one =>
      (second.member? identityField).any one.equal
  | _ => false

/-- Rows with distinct identities share none, the first two of them in particular. -/
theorem firstTwo_differ (rows : List Json) (identified : Store.Identified rows) :
    firstTwoShare rows = false := by
  match rows with
  | [] | [_] => rfl
  | first :: second :: others =>
    have apart := (List.pairwise_cons.mp identified.apart).1 (second.member? identityField)
      List.mem_cons_self
    simp only [firstTwoShare]
    cases one : first.member? identityField with
    | none => rfl
    | some key =>
      cases other : second.member? identityField with
      | none => rfl
      | some later => exact apart key one later other

/-- Two updates whose bodies lead into the identity leave two items with one identity, and an update
whose body leads into the key leaves an item without the key that it had. -/
theorem identities_lost :
    twoItems.IsIdentified ∧
    ¬ (run (itemsServer "id") twoItems
      [.asked (intrude "1" "_id"), .asked (intrude "2" "_id")]).IsIdentified ∧
    (twoItems.rows "items").map (fun row => (row.valueAt? "sku").bind Json.string?) =
      [some "A", some "B"] ∧
    ((run (itemsServer "sku") twoItems [.asked (intrude "A" "sku")]).rows "items").map
      (fun row => (row.valueAt? "sku").bind Json.string?) = [none, some "B"] := by
  refine ⟨two_items_identified, ?_, by decide +kernel, by decide +kernel⟩
  intro identified
  have differ := firstTwo_differ _ (identified "items")
  have share : firstTwoShare ((run (itemsServer "id") twoItems
      [.asked (intrude "1" "_id"), .asked (intrude "2" "_id")]).rows "items") = true := by
    decide +kernel
  exact absurd (share.symm.trans differ) (by decide)

end Server

end DocumentQuery
