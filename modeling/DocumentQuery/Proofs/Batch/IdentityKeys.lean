import DocumentQuery.Proofs.Batch.Atomicity
import DocumentQuery.Proofs.Batch.Overlay

/-!
# Groups that address rows by their identities

The check foresees every write of a group whose keys are plain identities, so such a group is
all or nothing. A group whose keys are compared with another field need not be: a creation is
refused for its identity, which the check does not look at then.
-/

namespace DocumentQuery.Batch

open Store (identities)

/-- A mutation that addresses its row by a usable identity and does not change the identity of a
row. A creation may leave its identity to the store. -/
def Mutation.ByIdentity (store : Store) (mutation : Mutation) : Prop :=
  mutation.keyField = identityField ∧
  match mutation.change with
  | .create members => ∀ key, Members.get? identityField members = some key → Usable store key
  | .update key values =>
    Usable store key ∧ ∀ entry ∈ values, Path.head entry.1 ≠ identityField
  | .delete key => Usable store key

variable {start store : Store} {overlay next : Overlay} {changeField : String}
  {mutation : Mutation}

/-- A stamp leaves the identity of a document, as the change field is another. -/
theorem get_identity_stamp (store : Store) (apart : Path.head changeField ≠ identityField)
    (members : Members Json) :
    Members.get? identityField (store.stamp changeField members).1 =
      Members.get? identityField members := by
  have different : identityField ≠ changeField := by
    rintro rfl
    exact apart (by simp [Path.head, Path.ofText_plain identityField (by decide)])
  exact Members.get_insert_other changeField identityField _ members different

/-- A creation that passes the check finds its identity free, and the notes foresee the rows with
it. An identity of its own was looked up in the notes and the rows of the start, which by foresight
is to look it up in the rows as they are; without one, the store gives an identity that is new. -/
theorem check_create (startKeyed : start.KeyedByIdentity)
    (apart : Path.head changeField ≠ identityField)
    (foresees : overlay.Foresees start store) (members : Members Json)
    (created : mutation.change = .create members)
    (byIdentity : mutation.ByIdentity start)
    (checked : overlay.check start mutation = .ok next) :
    mutation.Fits changeField store ∧
      next.Foresees start ((store.stamp changeField members).2.withRow mutation.collection
        (store.stamp changeField members).1) := by
  have stamped := Overlay.foresees_stamp foresees changeField members
  have kept := get_identity_stamp store apart members
  obtain ⟨field, usable⟩ := byIdentity
  simp only [created] at usable
  simp only [Mutation.Fits, created]
  cases given : Members.get? identityField members with
  | none =>
    have same : overlay = next := by
      simpa [Overlay.check, created, Mutation.key?, field, given] using checked
    have free := foresees.unissued mutation.collection store.issued (Nat.le_refl _)
    refine ⟨?_, same ▸ Overlay.foresees_identified stamped mutation.collection _
      (kept.trans given)⟩
    rw [Store.identityOf, kept, given, Option.getD_none, ← Bool.not_eq_true,
      Store.hasIdentity_iff (foresees.keyed _) rfl]
    exact free
  | some key =>
    have keyUsable := usable key given
    obtain ⟨answer, looked, exists_iff⟩ :=
      Overlay.rowExists_foreseen startKeyed foresees mutation key field keyUsable
    have present : key.isNull = false := by
      cases key <;> simp_all [Usable, Json.isPlain, Json.isNull]
    have named : mutation.key? = some key := by
      simp [Mutation.key?, created, field, given, present]
    rw [Overlay.check_created created named looked] at checked
    cases answer with
    | true => simp at checked
    | false =>
      have same : overlay.noteMade mutation.collection key = next := by simpa using checked
      have new : some key ∉ identities (store.rows mutation.collection) := by
        simpa using exists_iff
      refine ⟨?_, same ▸ Overlay.foresees_made stamped mutation.collection key _
        (kept.trans given) keyUsable new⟩
      rw [Store.identityOf, kept, given, Option.getD_some, ← Bool.not_eq_true,
        Store.hasIdentity_iff (foresees.keyed _) keyUsable.1]
      exact new

/-- An update or a deletion of a row that exists finds its row. -/
theorem found_of_exists (foresees : overlay.Foresees start store) (key : Json)
    (usable : Usable start key)
    (existing : some key ∈ identities (store.rows mutation.collection)) :
    ∃ front row back, Store.FirstMeeting (Predicate.clause identityField key)
      (store.rows mutation.collection) front row back := by
  obtain ⟨position, found, listed⟩ :=
    Store.position_identity (foresees.keyed mutation.collection) usable.1
  obtain ⟨place, rfl⟩ := Option.isSome_iff_exists.mp (listed.mpr existing)
  obtain ⟨front, row, back, division, _⟩ := (Store.position_found_iff _ _ place).mp found
  exact ⟨front, row, back, division⟩

/-- An update that passes the check finds its row, and the notes foresee the rows behind it,
which have the same identities. -/
theorem check_update (startKeyed : start.KeyedByIdentity)
    (apart : Path.head changeField ≠ identityField)
    (foresees : overlay.Foresees start store) (key : Json) (values : Members Json)
    (updated : mutation.change = .update key values)
    (byIdentity : mutation.ByIdentity start)
    (checked : overlay.check start mutation = .ok next) :
    mutation.Fits changeField store ∧
      ∀ after, mutation.write changeField store = .ok after → next.Foresees start after := by
  obtain ⟨field, usable⟩ := byIdentity
  simp only [updated] at usable
  obtain ⟨keyUsable, others⟩ := usable
  obtain ⟨answer, looked, exists_iff⟩ :=
    Overlay.rowExists_foreseen startKeyed foresees mutation key field keyUsable
  rw [Overlay.check_updated updated looked] at checked
  cases answer with
  | false => simp at checked
  | true =>
    have same : overlay = next := by simpa using checked
    obtain ⟨front, row, back, division⟩ :=
      found_of_exists foresees key keyUsable (exists_iff.mp rfl)
    have found := (Store.position_found_iff _ _ _).mpr ⟨front, row, back, division, rfl⟩
    have predicate : mutation.predicate key = Predicate.clause identityField key := by
      rw [Mutation.predicate, keyPredicate, field]
    have stampedOthers : ∀ entry ∈ (store.stamp changeField values).1,
        Path.head entry.1 ≠ identityField := by
      intro entry present
      rcases Members.mem_insert changeField _ values entry present with rfl | before
      · exact apart
      · exact others entry before
    refine ⟨?_, ?_⟩
    · simp only [Mutation.Fits, updated, predicate]
      exact ⟨front.length, found⟩
    · intro after written
      simp only [Mutation.write, updated, predicate, Store.update_eq, Store.rows_stamp,
        found] at written
      rw [← same, ← Except.ok.inj written]
      refine Overlay.foresees_changed foresees _ rfl rfl fun collection => ?_
      by_cases equal : collection = mutation.collection
      · subst equal
        rw [Store.rows_setRows_same, division.divided]
        simp [identities, List.modify_eq_take_drop, Store.member_setPaths _ _ stampedOthers]
      · rw [Store.rows_setRows_other _ _ _ _ equal, Store.rows_stamp]

/-- A deletion that passes the check finds its row, and the notes foresee the rows without it. The
key was looked up in the notes and at the start, and so it is the identity of a row by now. -/
theorem check_delete (startKeyed : start.KeyedByIdentity)
    (foresees : overlay.Foresees start store) (key : Json)
    (deleted : mutation.change = .delete key)
    (byIdentity : mutation.ByIdentity start)
    (checked : overlay.check start mutation = .ok next) :
    mutation.Fits changeField store ∧
      ∀ after, mutation.write changeField store = .ok after → next.Foresees start after := by
  obtain ⟨field, usable⟩ := byIdentity
  simp only [deleted] at usable
  obtain ⟨answer, looked, exists_iff⟩ :=
    Overlay.rowExists_foreseen startKeyed foresees mutation key field usable
  rw [Overlay.check_deleted deleted looked] at checked
  cases answer with
  | false => simp at checked
  | true =>
    have same : overlay.noteRemoved mutation.collection key = next := by simpa using checked
    obtain ⟨front, row, back, division⟩ :=
      found_of_exists foresees key usable (exists_iff.mp rfl)
    have found := (Store.position_found_iff _ _ _).mpr ⟨front, row, back, division, rfl⟩
    have predicate : mutation.predicate key = Predicate.clause identityField key := by
      rw [Mutation.predicate, keyPredicate, field]
    refine ⟨?_, ?_⟩
    · simp only [Mutation.Fits, deleted, predicate]
      exact ⟨front.length, found⟩
    · intro after written
      have erased : (store.rows mutation.collection).eraseIdx front.length = front ++ back := by
        simp [division.divided, List.eraseIdx_append]
      simp only [Mutation.write, deleted, predicate, Store.delete_eq, found, erased] at written
      rw [← same, ← Except.ok.inj written]
      exact Overlay.foresees_removed foresees mutation.collection key usable front back row
        division

/-- Mutations that pass the check fit in turn: each fits the rows it finds, and the notes it
leaves foresee the rows for those behind it. -/
theorem fit_of_validateFrom (startKeyed : start.KeyedByIdentity)
    (apart : Path.head changeField ≠ identityField)
    (foresees : overlay.Foresees start store) (mutations : List Mutation)
    (byIdentity : ∀ mutation ∈ mutations, mutation.ByIdentity start)
    (checked : validateFrom start overlay mutations = .ok ()) :
    FitInTurn changeField store mutations := by
  induction mutations generalizing overlay store with
  | nil => trivial
  | cons mutation mutations inductionHypothesis =>
    cases passed : overlay.check start mutation with
    | error failure => simp [validateFrom, passed] at checked
    | ok next =>
      have later : validateFrom start next mutations = .ok () := by
        simpa [validateFrom, passed] using checked
      have others : ∀ mutation ∈ mutations, mutation.ByIdentity start :=
        fun mutation present => byIdentity mutation (List.mem_cons_of_mem _ present)
      have own := byIdentity mutation List.mem_cons_self
      cases change : mutation.change with
      | create members =>
        obtain ⟨fits, foreseen⟩ :=
          check_create startKeyed apart foresees members change own passed
        refine ⟨fits, fun after written => inductionHypothesis ?_ others later⟩
        simp only [Mutation.Fits, change] at fits
        rw [write_create changeField store mutation members change, fits] at written
        exact Except.ok.inj written ▸ foreseen
      | update key values =>
        obtain ⟨fits, foreseen⟩ :=
          check_update startKeyed apart foresees key values change own passed
        exact ⟨fits, fun after written =>
          inductionHypothesis (foreseen after written) others later⟩
      | delete key =>
        obtain ⟨fits, foreseen⟩ := check_delete startKeyed foresees key change own passed
        exact ⟨fits, fun after written =>
          inductionHypothesis (foreseen after written) others later⟩

/-- A group is all or nothing exactly when each of its mutations fits in its turn or the first
refusal meets the rows of the start. That is so of every group that addresses rows by plain
identities, in a store whose rows have them and whose change field is outside of them.

Proof: the condition is that of `group_atomic_iff`. Under plain identities the check of a group
foresees every store in which a mutation is written: what the overlay lists as made or removed is
what was inserted or taken out so far, and identities are what insertion asks for as well. So each
mutation that is checked fits in its turn. -/
theorem group_atomicity (coordinator : Coordinator) (store : Store) (name : String)
    (operations : List Operation) :
    (GroupIsAtomic coordinator store name operations ↔
      ∀ mutations, operations.mapM coordinator.mutation = .ok mutations →
        validate store mutations = .ok () →
        FitInTurn coordinator.changeField store mutations ∨
          RefusedUnchanged coordinator.changeField store store mutations) ∧
    (store.KeyedByIdentity → Path.head coordinator.changeField ≠ identityField →
      (∀ mutations, operations.mapM coordinator.mutation = .ok mutations →
        ∀ mutation ∈ mutations, mutation.ByIdentity store) →
      GroupIsAtomic coordinator store name operations) := by
  have condition := group_atomic_iff coordinator store name operations
  refine ⟨condition, fun keyed apart byIdentity => condition.mpr ?_⟩
  intro mutations made checked
  exact .inl (fit_of_validateFrom keyed apart (Overlay.foresees_start keyed) mutations
    (byIdentity mutations made) checked)

/-- A coordinator of items whose keys are compared with one field, which need not be
their identity. -/
def itemsBy (keyField : String) : Coordinator where
  base := "/odata"
  targets := [{ name := "Items", collection := ⟨"items", true⟩, keyField }]
  changeField := "_updatedAtMs"

/-- A store of two items, each with an identity and an article number. -/
def twoItems : Store where
  collections := [("items",
    [.object [(identityField, .ofNat 1), ("sku", "A")],
      .object [(identityField, .ofNat 2), ("sku", "B")]])]

/-- A group that removes an item and makes it anew under its identity. -/
def replacement : List Operation :=
  [{ method := some "DELETE", url := "/odata/Items(1)" },
    { method := some "POST", url := "/odata/Items",
      body := some (.object [(identityField, .ofNat 1), ("sku", "C")]) }]

/-- A group that changes an item and makes another with an identity that is taken. -/
def changeAndCopy : List Operation :=
  [{ method := some "PATCH", url := "/odata/Items('A')", body := some (.object [("name", "x")]) },
    { method := some "POST", url := "/odata/Items",
      body := some (.object [(identityField, .ofNat 2), ("sku", "C")]) }]

/-- The two items have plain identities, which are distinct numbers and so none of the texts that
the store gives; all other collections are empty. -/
theorem two_items_keyed : twoItems.KeyedByIdentity := by
  have listed (collection : String) : identities (twoItems.rows collection) = [] ∨
      identities (twoItems.rows collection) = [some (.ofNat 1), some (.ofNat 2)] := by
    by_cases same : "items" = collection
    · exact .inr (by rw [← same]; rfl)
    · exact .inl (by simp [Store.rows, twoItems, Members.get?, same, identities])
  constructor
  · intro collection
    rcases listed collection with empty | both
    · exact ⟨by simp [empty], by simp [empty]⟩
    · have first : (Json.ofNat 1).isPlain = true := rfl
      have second : (Json.ofNat 2).isPlain = true := rfl
      exact ⟨by simp [both, first, second], by simp [both, Json.ofNat, Json.ofInt]⟩
  · intro collection number _
    rcases listed collection with empty | both
    · simp [empty]
    · simp [both, Json.ofNat, Json.ofInt]

set_option maxRecDepth 20000 in
/-- The group that makes an item anew is all or nothing; it is carried out. Its deletion and its
creation address the row by one plain identity, the second relying on what the first has done. -/
theorem replacement_is_atomic :
    twoItems.KeyedByIdentity ∧
    GroupIsAtomic (itemsBy identityField) twoItems "g" replacement ∧
    ((itemsBy identityField).group twoItems "g" replacement).1.status = 200 := by
  have made : replacement.mapM (itemsBy identityField).mutation =
      .ok [⟨"items", .delete (.ofNat 1), identityField⟩,
        ⟨"items", .create [(identityField, .ofNat 1), ("sku", "C")], identityField⟩] := rfl
  have usable : Usable twoItems (.ofNat 1) :=
    ⟨rfl, fun _ _ => by simp [Json.ofNat, Json.ofInt]⟩
  refine ⟨two_items_keyed, ?_, by decide +kernel⟩
  refine (group_atomicity (itemsBy identityField) twoItems "g" replacement).2 two_items_keyed
    (by decide +kernel) ?_
  intro mutations same mutation present
  rw [← Except.ok.inj (made.symm.trans same), List.mem_cons, List.mem_singleton] at present
  rcases present with rfl | rfl
  · exact ⟨rfl, usable⟩
  · refine ⟨rfl, fun key given => ?_⟩
    have first : Json.ofNat 1 = key := by simpa [Members.get?] using given
    exact first ▸ usable

/-- Keyed by article numbers a group can fail and leave one of two changes behind: the creation
was not checked for its identity. -/
theorem change_and_copy_not_atomic :
    ¬ GroupIsAtomic (itemsBy "sku") twoItems "g" changeAndCopy := by
  intro atomic
  have failed : ((itemsBy "sku").group twoItems "g" changeAndCopy).1.status = 400 := by
    decide +kernel
  have unchanged := atomic.error_leaves_rows (by rw [failed]; decide) "items"
  have sizes : (((itemsBy "sku").group twoItems "g" changeAndCopy).2.rows "items").map
      (fun row => row.members.length) = [4, 2] := by decide +kernel
  rw [unchanged] at sizes
  exact absurd sizes (by decide +kernel)

end DocumentQuery.Batch
