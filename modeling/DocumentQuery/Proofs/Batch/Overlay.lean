import DocumentQuery.Batch.Changeset
import DocumentQuery.Proofs.Store.PlainKeys

/-!
# What the notes of a check foresee

Where every key is a plain identity, what the check notes while it goes through a group is what
the rows will be: a key is expected to exist after some mutations exactly if it is the identity
of a row once they are written. There is one lemma for each way in which a write changes the
rows.
-/

namespace DocumentQuery

/-- The rows of all collections are plainly keyed, and no identifier that the store is still to
issue is among their identities. -/
structure Store.KeyedByIdentity (store : Store) : Prop where
  keyed : ∀ collection, Store.PlainlyKeyed (store.rows collection)
  unissued : ∀ collection number, store.issued ≤ number →
    some (.string (store.identifiers.text number)) ∉ Store.identities (store.rows collection)

namespace Batch

open Store (identities)

/-- A plain key that is none of the identifiers that a store is still to issue. -/
def Usable (store : Store) (key : Json) : Prop :=
  key.isPlain = true ∧
    ∀ number, store.issued ≤ number → key ≠ .string (store.identifiers.text number)

namespace Overlay

variable {entries : List (String × Json)}

/-- Among plain keys an entry is listed exactly if it is a member of the list. -/
theorem lists_iff (plain : ∀ entry ∈ entries, entry.2.isPlain = true) (collection : String)
    (key : Json) (keyPlain : key.isPlain = true) :
    lists entries collection key = true ↔ (collection, key) ∈ entries := by
  simp only [lists, List.any_eq_true, Bool.and_eq_true, beq_iff_eq]
  constructor
  · rintro ⟨⟨other, listed⟩, present, rfl, equal⟩
    have same := (Json.equal_plain_iff listed key (plain _ present) keyPlain).mp equal
    exact same ▸ present
  · intro present
    exact ⟨_, present, rfl, (Json.equal_plain_iff key key keyPlain keyPlain).mpr rfl⟩

/-- Among plain keys one entry is taken out and no other. -/
theorem mem_without (plain : ∀ entry ∈ entries, entry.2.isPlain = true) (collection : String)
    (key : Json) (keyPlain : key.isPlain = true) (entry : String × Json) :
    entry ∈ without entries collection key ↔ entry ∈ entries ∧ entry ≠ (collection, key) := by
  obtain ⟨other, listed⟩ := entry
  simp only [without, List.mem_filter, Bool.not_eq_true', Bool.and_eq_false_imp, beq_iff_eq,
    ne_eq, Prod.mk.injEq, not_and]
  refine and_congr_right fun present => imp_congr_right fun _ => ?_
  rw [← Bool.not_eq_true, Json.equal_plain_iff listed key (plain _ present) keyPlain]

/-- What is noted says that a row with a key exists: the group has made it, or it was there and
the group has not removed it. -/
def Expects (overlay : Overlay) (start : Store) (collection : String) (key : Json) : Prop :=
  (collection, key) ∈ overlay.made ∨
    ((collection, key) ∉ overlay.removed ∧ some key ∈ identities (start.rows collection))

/-- What is noted for a group is what the rows are: of every usable key it is foreseen whether a
row has it. -/
structure Foresees (start : Store) (overlay : Overlay) (store : Store) : Prop
    extends store.KeyedByIdentity where
  identifiers : store.identifiers = start.identifiers
  issued : start.issued ≤ store.issued
  madePlain : ∀ entry ∈ overlay.made, entry.2.isPlain = true
  removedPlain : ∀ entry ∈ overlay.removed, entry.2.isPlain = true
  agrees : ∀ collection key, Usable start key →
    (overlay.Expects start collection key ↔ some key ∈ identities (store.rows collection))

variable {start store : Store} {overlay : Overlay}

/-- The check looks a key up in what is noted and in the rows of the start, and by foresight this is
where the key is an identity by now: it was made and not removed since then, or was there at the
start and has not been removed. -/
theorem rowExists_foreseen (startKeyed : start.KeyedByIdentity)
    (foresees : Foresees start overlay store) (mutation : Mutation) (key : Json)
    (byIdentity : mutation.keyField = identityField) (usable : Usable start key) :
    ∃ answer, overlay.rowExists start mutation key = .ok answer ∧
      (answer = true ↔ some key ∈ identities (store.rows mutation.collection)) := by
  rw [← foresees.agrees mutation.collection key usable]
  have made := lists_iff foresees.madePlain mutation.collection key usable.1
  have removed := lists_iff foresees.removedPlain mutation.collection key usable.1
  obtain ⟨found, selected, counted⟩ :=
    Store.select_identity (startKeyed.keyed mutation.collection) usable.1
  simp only [rowExists, Expects, ← made, ← removed, ← counted]
  cases lists overlay.made mutation.collection key with
  | true => exact ⟨true, rfl, by simp⟩
  | false =>
    cases lists overlay.removed mutation.collection key with
    | true => exact ⟨false, rfl, by simp⟩
    | false =>
      refine ⟨decide (0 < found.length), ?_, by simp⟩
      simp [Store.count, Mutation.predicate, keyPredicate, byIdentity, selected]

/-- At the start nothing is noted, and what is expected is what is there. -/
theorem foresees_start (startKeyed : start.KeyedByIdentity) : Foresees start {} start :=
  ⟨startKeyed, rfl, Nat.le_refl _, by simp, by simp, by simp [Expects]⟩

/-- Rows with one more of a new identity are foreseen by notes that expect the new key and what
was expected before. Only usable keys need to be noted. -/
theorem foresees_added (foresees : Foresees start overlay store) (collection : String)
    (members : Members Json) (keyPlain : (store.identityOf members).isPlain = true)
    (new : some (store.identityOf members) ∉ identities (store.rows collection))
    (fresh : ∀ number, (store.withRow collection members).issued ≤ number →
      store.identityOf members ≠ .string (store.identifiers.text number))
    (next : Overlay) (madePlain : ∀ entry ∈ next.made, entry.2.isPlain = true)
    (removedPlain : ∀ entry ∈ next.removed, entry.2.isPlain = true)
    (noted : ∀ other wanted, Usable start wanted →
      (next.Expects start other wanted ↔ overlay.Expects start other wanted ∨
        (other = collection ∧ wanted = store.identityOf members))) :
    Foresees start next (store.withRow collection members) := by
  have grown : store.issued ≤ (store.withRow collection members).issued := Nat.le_add_right _ _
  have identified := store.member_rowOf members
  have listed : identities ((store.withRow collection members).rows collection) =
      identities (store.rows collection) ++ [some (store.identityOf members)] := by
    simp [Store.rows_withRow_same, identities, identified]
  refine ⟨⟨?keyed, ?unissued⟩, foresees.identifiers, Nat.le_trans foresees.issued grown,
    madePlain, removedPlain, ?agrees⟩
  case keyed =>
    intro other
    by_cases same : other = collection
    · rw [same, Store.rows_withRow_same]
      exact (foresees.keyed collection).append _ identified keyPlain new
    · rw [Store.rows_withRow_other _ _ _ other same]
      exact foresees.keyed other
  case unissued =>
    intro other number later
    have before := foresees.unissued other number (Nat.le_trans grown later)
    by_cases same : other = collection
    · subst same
      simp only [listed, List.mem_append, List.mem_singleton, Option.some.injEq]
      rintro (present | equal)
      · exact before present
      · exact fresh number later equal.symm
    · rwa [Store.rows_withRow_other _ _ _ other same]
  case agrees =>
    intro other wanted usable
    rw [noted other wanted usable, foresees.agrees other wanted usable]
    by_cases same : other = collection
    · subst same
      simp [listed]
    · rw [Store.rows_withRow_other _ _ _ other same]
      simp [same]

/-- Noting a key that was made foresees the rows with one more of that identity. The key is
taken from the notes of what was removed, in case the group has removed the row of this
identity before. -/
theorem foresees_made (foresees : Foresees start overlay store) (collection : String) (key : Json)
    (members : Members Json) (given : Members.get? identityField members = some key)
    (usable : Usable start key)
    (new : some key ∉ identities (store.rows collection)) :
    Foresees start (overlay.noteMade collection key) (store.withRow collection members) := by
  have identity : store.identityOf members = key := by simp [Store.identityOf, given]
  have issued : (store.withRow collection members).issued = store.issued := by
    simp [Store.withRow, Store.ownIdentity, given]
  refine foresees_added foresees collection members (identity ▸ usable.1) (identity ▸ new)
    ?fresh _ ?madePlain ?removedPlain ?noted
  case fresh =>
    intro number later
    rw [identity, foresees.identifiers]
    exact usable.2 number (Nat.le_trans foresees.issued (issued ▸ later))
  case madePlain =>
    intro entry present
    rcases List.mem_append.mp present with earlier | last
    · exact foresees.madePlain entry earlier
    · rw [List.mem_singleton.mp last]
      exact usable.1
  case removedPlain =>
    intro entry present
    exact foresees.removedPlain entry (List.mem_filter.mp present).1
  case noted =>
    intro other wanted _
    simp only [Expects, noteMade, List.mem_append, List.mem_singleton, identity,
      mem_without foresees.removedPlain collection key usable.1, Prod.mk.injEq]
    by_cases same : other = collection ∧ wanted = key <;> simp [same]

/-- A row that gets its identity from the store is foreseen without a note, for no usable key is
that identity. -/
theorem foresees_identified (foresees : Foresees start overlay store)
    (collection : String) (members : Members Json)
    (given : Members.get? identityField members = none) :
    Foresees start overlay (store.withRow collection members) := by
  have identity : store.identityOf members = .string store.fresh := by
    simp [Store.identityOf, given]
  have issued : (store.withRow collection members).issued = store.issued + 1 := by
    simp [Store.withRow, Store.ownIdentity, given]
  refine foresees_added foresees collection members (identity ▸ rfl)
    (identity ▸ foresees.unissued collection _ (Nat.le_refl _)) ?fresh overlay
    foresees.madePlain foresees.removedPlain ?noted
  case fresh =>
    intro number later equal
    rw [identity, Json.string.injEq] at equal
    rw [issued, ← store.identifiers.distinct _ _ equal] at later
    exact absurd later (Nat.not_succ_le_self _)
  case noted =>
    intro other wanted usable
    have never : wanted ≠ .string store.fresh := by
      rw [Store.fresh, foresees.identifiers]
      exact usable.2 _ foresees.issued
    simp [identity, never]

/-- Rows with the same identities are foreseen by the same notes. This is the case of an update, and
of a stamp that is read off the clock: neither gives an identity to a row nor takes one from it. -/
theorem foresees_changed (foresees : Foresees start overlay store) (after : Store)
    (source : after.identifiers = store.identifiers) (issued : after.issued = store.issued)
    (same : ∀ collection, identities (after.rows collection) =
      identities (store.rows collection)) :
    Foresees start overlay after := by
  refine ⟨⟨?keyed, ?unissued⟩, source.trans foresees.identifiers, ?issued, ?madePlain,
    ?removedPlain, ?agrees⟩
  case keyed =>
    intro collection
    obtain ⟨plain, distinct⟩ := foresees.keyed collection
    exact ⟨same collection ▸ plain, same collection ▸ distinct⟩
  case issued => exact issued ▸ foresees.issued
  case unissued =>
    intro collection number later
    rw [same collection, source]
    exact foresees.unissued collection number (issued ▸ later)
  case madePlain => exact foresees.madePlain
  case removedPlain => exact foresees.removedPlain
  case agrees =>
    intro collection key usable
    rw [same collection]
    exact foresees.agrees collection key usable

/-- Noting a key that was removed foresees the rows without the one of that identity. The key is
taken from the notes of what was made, in case the group has made this row itself; and since
identities are distinct, no other row has it. -/
theorem foresees_removed (foresees : Foresees start overlay store) (collection : String)
    (key : Json) (usable : Usable start key) (front back : List Json) (row : Json)
    (division : Store.FirstMeeting (Predicate.clause identityField key) (store.rows collection)
      front row back) :
    Foresees start (overlay.noteRemoved collection key)
      (store.setRows collection (front ++ back)) := by
  have listed := Store.mem_identities_removed (foresees.keyed collection) usable.1 division
  have part : (front ++ back).Sublist (store.rows collection) := by
    rw [division.divided]
    exact (List.Sublist.refl front).append (List.sublist_cons_self row back)
  refine ⟨⟨?keyed, ?unissued⟩, foresees.identifiers, ?issued, ?madePlain,
    ?removedPlain, ?agrees⟩
  case keyed =>
    intro other
    by_cases same : other = collection
    · rw [same, Store.rows_setRows_same]
      exact (foresees.keyed collection).sublist part
    · rw [Store.rows_setRows_other _ _ _ other same]
      exact foresees.keyed other
  case issued => exact foresees.issued
  case unissued =>
    intro other number later
    have before := foresees.unissued other number later
    by_cases same : other = collection
    · subst same
      rw [Store.rows_setRows_same, listed]
      exact fun present => before present.1
    · rwa [Store.rows_setRows_other _ _ _ other same]
  case madePlain =>
    intro entry present
    exact foresees.madePlain entry (List.mem_filter.mp present).1
  case removedPlain =>
    intro entry present
    rcases List.mem_append.mp present with earlier | last
    · exact foresees.removedPlain entry earlier
    · rw [List.mem_singleton.mp last]
      exact usable.1
  case agrees =>
    intro other wanted wantedUsable
    have before := foresees.agrees other wanted wantedUsable
    simp only [Expects, noteRemoved, List.mem_append, List.mem_singleton,
      mem_without foresees.madePlain collection key usable.1] at before ⊢
    by_cases same : other = collection
    · subst same
      rw [Store.rows_setRows_same, listed, ← before]
      by_cases equal : wanted = key <;> simp [equal]
    · rw [Store.rows_setRows_other _ _ _ other same, ← before]
      simp [same]

/-- A creation passes if its key does not exist, and the key is noted. -/
theorem check_created {mutation : Mutation} {members : Members Json} {key : Json} {answer : Bool}
    (created : mutation.change = .create members) (named : mutation.key? = some key)
    (looked : overlay.rowExists start mutation key = .ok answer) :
    overlay.check start mutation =
      if answer then .error .duplicateId else .ok (overlay.noteMade mutation.collection key) := by
  cases answer <;> simp [check, created, named, looked]

/-- An update passes if its key exists. -/
theorem check_updated {mutation : Mutation} {values : Members Json} {key : Json} {answer : Bool}
    (updated : mutation.change = .update key values)
    (looked : overlay.rowExists start mutation key = .ok answer) :
    overlay.check start mutation = if answer then .ok overlay else .error .missingId := by
  cases answer <;> simp [check, updated, looked]

/-- A deletion passes if its key exists, and the key is noted. -/
theorem check_deleted {mutation : Mutation} {key : Json} {answer : Bool}
    (deleted : mutation.change = .delete key)
    (looked : overlay.rowExists start mutation key = .ok answer) :
    overlay.check start mutation =
      if answer then .ok (overlay.noteRemoved mutation.collection key) else .error .missingId := by
  cases answer <;> simp [check, deleted, looked]

/-- A stamp leaves what is foreseen. -/
theorem foresees_stamp (foresees : Foresees start overlay store) (changeField : String)
    (members : Members Json) : Foresees start overlay (store.stamp changeField members).2 :=
  foresees_changed foresees _ rfl rfl fun _ => rfl

end Overlay

end Batch

end DocumentQuery
