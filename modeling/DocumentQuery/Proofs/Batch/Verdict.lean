import DocumentQuery.Proofs.Batch.IdentityKeys
import DocumentQuery.Proofs.Store.Built

/-!
# The verdict of the check

A group is checked against the rows that there are before any of it is written. Here the same
mutations are carried out one at a time, each on the rows that the ones before it left, and each
refused where its row exists already or is missing. For groups that address rows by plain
identities the two agree: the check passes exactly where no mutation is refused, what is written
then is what the mutations make one at a time, and else the check reports the first refusal.
-/

namespace DocumentQuery

/-- Whether a row has an identity, by value. -/
def Json.isIdentifiedBy (key row : Json) : Bool :=
  (row.member? identityField).any fun existing => existing.equal key

namespace Batch

/-- Carries out one mutation by itself. A creation is refused where its identity exists, and a
change or a removal where it does not. The row is found by its identity and not by a predicate. -/
def Mutation.alone (changeField : String) (store : Store) (mutation : Mutation) :
    Except Failure Store :=
  let collection := mutation.collection
  let rows := store.rows collection
  match mutation.change with
  | .create members =>
    if (Members.get? identityField members).any fun key => rows.any (Json.isIdentifiedBy key) then
      .error .duplicateId
    else
      let (members, store) := store.stamp changeField members
      .ok (store.withRow collection members)
  | .update key values =>
    if rows.any (Json.isIdentifiedBy key) then
      let (values, store) := store.stamp changeField values
      .ok (store.setRows collection (rows.map fun row =>
        if Json.isIdentifiedBy key row then Store.setPaths values row else row))
    else .error .missingId
  | .delete key =>
    if rows.any (Json.isIdentifiedBy key) then
      .ok (store.setRows collection (rows.filter fun row => !Json.isIdentifiedBy key row))
    else .error .missingId

/-- Carries out mutations one at a time up to the first that is refused. -/
def eachAlone (changeField : String) : Store → List Mutation → Except Failure Store
  | store, [] => .ok store
  | store, mutation :: mutations => do
    eachAlone changeField (← mutation.alone changeField store) mutations

/-- The first mutation that is refused when they are carried out one at a time. A creation is
refused as a bad request, any other mutation because its row is not found. -/
def FirstRefusal (changeField : String) (start : Store) (mutations : List Mutation)
    (failure : Failure) : Prop :=
  ∃ before mutation behind reached, mutations = before ++ mutation :: behind ∧
    eachAlone changeField start before = .ok reached ∧
    mutation.alone changeField reached = .error failure ∧
    match mutation.change with
    | .create _ => failure.code = "BadRequest" ∧ failure.message = "Duplicate id"
    | .update _ _ | .delete _ => failure.code = "NotFound" ∧ failure.message = "Missing id"

/-- The check of a group is right about mutations that are carried out one at a time. -/
structure CheckIsExact (changeField : String) (start : Store) (mutations : List Mutation) :
    Prop where
  /-- The check passes if no mutation is refused, and else answers with the first refusal. -/
  verdict : validate start mutations = (eachAlone changeField start mutations).map fun _ => ()
  refusal : ∀ failure, eachAlone changeField start mutations = .error failure →
    FirstRefusal changeField start mutations failure
  /-- All mutations are written, and the store is the one that they make one at a time. -/
  written : ∀ after, eachAlone changeField start mutations = .ok after →
    write changeField start mutations = ⟨after, mutations.length, none⟩
  /-- A group is answered so, and one that is refused leaves the store. -/
  answer : ∀ (coordinator : Coordinator) (name : String) (operations : List Operation),
    coordinator.changeField = changeField →
    operations.mapM coordinator.mutation = .ok mutations →
    coordinator.group start name operations =
      match eachAlone changeField start mutations with
      | .ok after => (groupResponse name none, after)
      | .error failure => (groupResponse name (some failure), start)

variable {start store : Store} {overlay : Overlay} {changeField : String} {mutation : Mutation}

/-- Rows are identified by a plain key exactly if it is listed. -/
theorem any_isIdentifiedBy_iff {rows : List Json} {key : Json} (keyed : Store.PlainlyKeyed rows)
    (keyPlain : key.isPlain = true) :
    rows.any (Json.isIdentifiedBy key) = true ↔ some key ∈ Store.identities rows :=
  Store.hasIdentity_iff keyed keyPlain

/-- Of plainly keyed rows the one that is found under a plain key is the one that the key
identifies. The rows around it do not have the key, since it is the identity of no second row. -/
theorem isIdentifiedBy_found {rows front back : List Json} {row key : Json}
    (keyed : Store.PlainlyKeyed rows) (keyPlain : key.isPlain = true)
    (division : Store.FirstMeeting (Predicate.clause identityField key) rows front row back) :
    Json.isIdentifiedBy key row = true ∧
      ∀ other ∈ front ++ back, Json.isIdentifiedBy key other = false := by
  constructor
  · simp [Json.isIdentifiedBy, Store.met_identity keyed keyPlain division,
      Json.equal_plain_iff key key keyPlain keyPlain]
  · have part : (front ++ back).Sublist rows := by
      rw [division.divided]
      exact (List.Sublist.refl front).append (List.sublist_cons_self row back)
    have absent : some key ∉ Store.identities (front ++ back) := by
      rw [Store.mem_identities_removed keyed keyPlain division]
      exact fun listed => listed.2 rfl
    rw [← any_isIdentifiedBy_iff (keyed.sublist part) keyPlain] at absent
    intro other present
    have unlisted := List.any_eq_false.mp (Bool.not_eq_true _ ▸ absent) other present
    exact Bool.eq_false_iff.mpr unlisted

/-- Changing the row that a plain key identifies is changing the one that is found under it. -/
theorem map_identified {rows front back : List Json} {row key : Json}
    (keyed : Store.PlainlyKeyed rows) (keyPlain : key.isPlain = true)
    (division : Store.FirstMeeting (Predicate.clause identityField key) rows front row back)
    (change : Json → Json) :
    (rows.map fun row => if Json.isIdentifiedBy key row then change row else row) =
      rows.modify front.length change := by
  obtain ⟨found, others⟩ := isIdentifiedBy_found keyed keyPlain division
  have kept (part : List Json) (inside : ∀ other ∈ part, other ∈ front ++ back) :
      (part.map fun row => if Json.isIdentifiedBy key row then change row else row) = part := by
    conv => rhs; rw [← List.map_id part]
    exact List.map_congr_left fun other present => by simp [others other (inside other present)]
  rw [division.divided, List.map_append, List.map_cons, if_pos found,
    kept front fun _ => List.mem_append_left back, kept back fun _ => List.mem_append_right front]
  simp [List.modify_eq_take_drop]

/-- Removing the row that a plain key identifies is removing the one that is found under it. -/
theorem filter_identified {rows front back : List Json} {row key : Json}
    (keyed : Store.PlainlyKeyed rows) (keyPlain : key.isPlain = true)
    (division : Store.FirstMeeting (Predicate.clause identityField key) rows front row back) :
    (rows.filter fun row => !Json.isIdentifiedBy key row) = rows.eraseIdx front.length := by
  obtain ⟨found, others⟩ := isIdentifiedBy_found keyed keyPlain division
  have kept (part : List Json) (inside : ∀ other ∈ part, other ∈ front ++ back) :
      (part.filter fun row => !Json.isIdentifiedBy key row) = part :=
    List.filter_eq_self.mpr fun other present => by simp [others other (inside other present)]
  rw [division.divided, List.filter_append, List.filter_cons_of_neg (by simp [found]),
    kept front fun _ => List.mem_append_left back, kept back fun _ => List.mem_append_right front]
  simp [List.eraseIdx_append]

/-- A mutation passes the check, is carried out, and is written with the same outcome, which the
notes then foresee; or it is refused by the check and when it is carried out. -/
def Agrees (changeField : String) (start : Store) (overlay : Overlay) (store : Store)
    (mutation : Mutation) : Prop :=
  (∃ next after, overlay.check start mutation = .ok next ∧
    mutation.alone changeField store = .ok after ∧
    mutation.write changeField store = .ok after ∧ next.Foresees start after) ∨
  ∃ failure, overlay.check start mutation = .error failure ∧
    mutation.alone changeField store = .error failure ∧
    match mutation.change with
    | .create _ => failure.code = "BadRequest" ∧ failure.message = "Duplicate id"
    | .update _ _ | .delete _ => failure.code = "NotFound" ∧ failure.message = "Missing id"

/-- The check and a creation agree. They ask for the same identity, the check in the notes and the
store in its rows; and where the one is content, so is the other, or both name the conflict. -/
theorem agrees_create (startKeyed : start.KeyedByIdentity)
    (apart : Path.head changeField ≠ identityField)
    (foresees : overlay.Foresees start store) (members : Members Json)
    (created : mutation.change = .create members)
    (byIdentity : mutation.ByIdentity start) :
    Agrees changeField start overlay store mutation := by
  cases checked : overlay.check start mutation with
  | ok next =>
    obtain ⟨fits, foreseen⟩ :=
      check_create startKeyed apart foresees members created byIdentity checked
    simp only [Mutation.Fits, created] at fits
    have free : ((Members.get? identityField members).any fun key =>
        (store.rows mutation.collection).any (Json.isIdentifiedBy key)) = false := by
      cases given : Members.get? identityField members with
      | none => rfl
      | some key =>
        rw [Store.identityOf, get_identity_stamp store apart, given] at fits
        exact fits
    refine .inl ⟨next, _, checked, ?_, ?_, foreseen⟩
    · simp only [Mutation.alone, created, free, Bool.false_eq_true, if_false]
    · rw [write_create changeField store mutation members created, fits]
      rfl
  | error failure =>
    obtain ⟨field, usable⟩ := byIdentity
    simp only [created] at usable
    cases given : Members.get? identityField members with
    | none => simp [Overlay.check, created, Mutation.key?, field, given] at checked
    | some key =>
      have keyUsable := usable key given
      obtain ⟨answer, looked, exists_iff⟩ :=
        Overlay.rowExists_foreseen startKeyed foresees mutation key field keyUsable
      have present : key.isNull = false := by
        cases key <;> simp_all [Usable, Json.isPlain, Json.isNull]
      have named : mutation.key? = some key := by
        simp [Mutation.key?, created, field, given, present]
      have decided := Overlay.check_created created named looked
      cases answer with
      | false => simp [decided] at checked
      | true =>
        have taken := (any_isIdentifiedBy_iff (foresees.keyed _) keyUsable.1).mpr
          (exists_iff.mp rfl)
        refine .inr ⟨_, decided, ?_, ?_⟩
        · simp [Mutation.alone, created, given, taken]
        · rw [created]
          exact ⟨rfl, rfl⟩

/-- What the check looks up for an update or a deletion, and the row that it then finds. -/
theorem looked_up (startKeyed : start.KeyedByIdentity) (foresees : overlay.Foresees start store)
    (field : mutation.keyField = identityField) (key : Json) (usable : Usable start key) :
    ∃ answer, overlay.rowExists start mutation key = .ok answer ∧
      (store.rows mutation.collection).any (Json.isIdentifiedBy key) = answer ∧
      (answer = true → ∃ front row back,
        Store.FirstMeeting (mutation.predicate key) (store.rows mutation.collection)
          front row back) := by
  obtain ⟨answer, looked, exists_iff⟩ :=
    Overlay.rowExists_foreseen startKeyed foresees mutation key field usable
  have listed := any_isIdentifiedBy_iff (foresees.keyed mutation.collection) usable.1
  refine ⟨answer, looked, Bool.eq_iff_iff.mpr (listed.trans exists_iff.symm), ?_⟩
  intro found
  rw [Mutation.predicate, keyPredicate, field]
  exact found_of_exists foresees key usable (exists_iff.mp found)

/-- The check and an update agree. What the key is looked up in shows whether a row has it, and the
row that an update finds is the one that the key identifies; without one the check and the mutation
alone say that it is missing. -/
theorem agrees_update (startKeyed : start.KeyedByIdentity)
    (apart : Path.head changeField ≠ identityField)
    (foresees : overlay.Foresees start store) (key : Json) (values : Members Json)
    (updated : mutation.change = .update key values)
    (byIdentity : mutation.ByIdentity start) :
    Agrees changeField start overlay store mutation := by
  obtain ⟨field, usable⟩ := id byIdentity
  simp only [updated] at usable
  obtain ⟨answer, looked, identified, found⟩ :=
    looked_up startKeyed foresees field key usable.1
  have checked := Overlay.check_updated updated looked
  cases answer with
  | false =>
    refine .inr ⟨_, checked, ?_, ?_⟩
    · simp [Mutation.alone, updated, identified]
    · rw [updated]
      exact ⟨rfl, rfl⟩
  | true =>
    obtain ⟨front, row, back, division⟩ := found rfl
    have place := (Store.position_found_iff _ _ _).mpr ⟨front, row, back, division, rfl⟩
    have written : mutation.write changeField store =
        .ok ((store.stamp changeField values).2.setRows mutation.collection
          ((store.rows mutation.collection).modify front.length
            (Store.setPaths (store.stamp changeField values).1))) := by
      simp only [Mutation.write, updated, Store.update_eq, Store.rows_stamp, place, Store.behind_ok]
    obtain ⟨-, foreseen⟩ :=
      check_update startKeyed apart foresees key values updated byIdentity checked
    refine .inl ⟨overlay, _, checked, ?_, written, foreseen _ written⟩
    rw [Mutation.predicate, keyPredicate, field] at division
    simp only [Mutation.alone, updated, identified, if_true,
      map_identified (foresees.keyed _) usable.1.1 division]

/-- The check and a deletion agree. If the key is found, the row that is taken out is the only one
that the key identifies, so leaving out the identified rows leaves out this one. -/
theorem agrees_delete (startKeyed : start.KeyedByIdentity)
    (foresees : overlay.Foresees start store) (key : Json)
    (deleted : mutation.change = .delete key)
    (byIdentity : mutation.ByIdentity start) :
    Agrees changeField start overlay store mutation := by
  obtain ⟨field, usable⟩ := id byIdentity
  simp only [deleted] at usable
  obtain ⟨answer, looked, identified, found⟩ := looked_up startKeyed foresees field key usable
  have checked := Overlay.check_deleted deleted looked
  cases answer with
  | false =>
    refine .inr ⟨_, checked, ?_, ?_⟩
    · simp [Mutation.alone, deleted, identified]
    · rw [deleted]
      exact ⟨rfl, rfl⟩
  | true =>
    obtain ⟨front, row, back, division⟩ := found rfl
    have place := (Store.position_found_iff _ _ _).mpr ⟨front, row, back, division, rfl⟩
    have written : mutation.write changeField store =
        .ok (store.setRows mutation.collection
          ((store.rows mutation.collection).eraseIdx front.length)) := by
      simp only [Mutation.write, deleted, Store.delete_eq, place, Store.behind_ok]
    obtain ⟨-, foreseen⟩ := check_delete startKeyed foresees key deleted byIdentity checked
    refine .inl ⟨_, _, checked, ?_, written, foreseen _ written⟩
    rw [Mutation.predicate, keyPredicate, field] at division
    simp only [Mutation.alone, deleted, identified, if_true,
      filter_identified (foresees.keyed _) usable.1 division]

/-- The check and a mutation that addresses its row by identity agree. -/
theorem agrees_of_byIdentity (startKeyed : start.KeyedByIdentity)
    (apart : Path.head changeField ≠ identityField)
    (foresees : overlay.Foresees start store)
    (byIdentity : mutation.ByIdentity start) :
    Agrees changeField start overlay store mutation := by
  cases change : mutation.change with
  | create members => exact agrees_create startKeyed apart foresees members change byIdentity
  | update key values =>
    exact agrees_update startKeyed apart foresees key values change byIdentity
  | delete key => exact agrees_delete startKeyed foresees key change byIdentity

/-- A whole group agrees with its check: the mutations are all carried out and written alike, or
both ways end at the same refusal. -/
theorem validateFrom_agrees (startKeyed : start.KeyedByIdentity)
    (apart : Path.head changeField ≠ identityField)
    (foresees : overlay.Foresees start store) (mutations : List Mutation)
    (byIdentity : ∀ mutation ∈ mutations, mutation.ByIdentity start) (count : Nat) :
    validateFrom start overlay mutations =
        (eachAlone changeField store mutations).map (fun _ => ()) ∧
      (∀ failure, eachAlone changeField store mutations = .error failure →
        FirstRefusal changeField store mutations failure) ∧
      ∀ after, eachAlone changeField store mutations = .ok after →
        writeFrom changeField store count mutations = ⟨after, count + mutations.length, none⟩ := by
  induction mutations generalizing overlay store count with
  | nil => simp [validateFrom, eachAlone, writeFrom, Except.map]
  | cons mutation mutations inductionHypothesis =>
    have others : ∀ mutation ∈ mutations, mutation.ByIdentity start :=
      fun mutation present => byIdentity mutation (List.mem_cons_of_mem _ present)
    rcases agrees_of_byIdentity startKeyed apart foresees (byIdentity mutation List.mem_cons_self)
      with ⟨next, middle, checked, alone, written, foreseen⟩ | ⟨failure, checked, alone, kind⟩
    · obtain ⟨verdict, refusal, all⟩ := inductionHypothesis foreseen others (count + 1)
      refine ⟨by simp [validateFrom, eachAlone, checked, alone, verdict], ?_, ?_⟩
      · intro failure failed
        have later : eachAlone changeField middle mutations = .error failure := by
          simpa [eachAlone, alone] using failed
        obtain ⟨before, bad, behind, reached, divided, made, refused, kind⟩ :=
          refusal failure later
        exact ⟨mutation :: before, bad, behind, reached, by simp [divided],
          by simpa [eachAlone, alone] using made, refused, kind⟩
      · intro after made
        have later : eachAlone changeField middle mutations = .ok after := by
          simpa [eachAlone, alone] using made
        simp only [writeFrom, written, all after later, List.length_cons]
        congr 1
        omega
    · refine ⟨by simp [validateFrom, eachAlone, checked, alone, Except.map], ?_, ?_⟩
      · intro other failed
        obtain rfl : failure = other := by simpa [eachAlone, alone] using failed
        exact ⟨[], mutation, mutations, store, rfl, rfl, alone, kind⟩
      · intro after made
        simp [eachAlone, alone] at made

/-- In a store that its operations made, whose identities are plain, the check of a group that
addresses rows by plain identities is exact: it passes where the mutations can be carried out one at
a time, they are then written with that outcome, and else the first refusal is the answer and
nothing is written. Identities that the store gives are new, and no update sets a path of the
identity, the path of the stamp among them.

Proof: what the check knows and what the store holds are kept in step. After each mutation the
overlay foresees the store behind it, so the next one is refused by the check exactly if the store
would refuse it, and with the same failure. The check starts with an empty overlay, which foresees
the store as it is, and `validateFrom_agrees` follows the two to the end of the group. -/
theorem check_is_exact (changeField : String) (start : Store) (mutations : List Mutation)
    (built : start.Built)
    (plain : ∀ collection, ∀ row ∈ start.rows collection, ∀ key,
      row.member? identityField = some key → key.isPlain = true)
    (new : ∀ collection number, start.issued ≤ number →
      some (.string (start.identifiers.text number)) ∉ Store.identities (start.rows collection))
    (apart : Path.head changeField ≠ identityField)
    (byIdentity : ∀ mutation ∈ mutations, mutation.ByIdentity start) :
    CheckIsExact changeField start mutations := by
  have keyed : start.KeyedByIdentity :=
    ⟨fun collection => (built.identified collection).plainlyKeyed (plain collection), new⟩
  obtain ⟨verdict, refusal, all⟩ :=
    validateFrom_agrees keyed apart (Overlay.foresees_start keyed) mutations byIdentity 0
  have written : ∀ after, eachAlone changeField start mutations = .ok after →
      write changeField start mutations = ⟨after, mutations.length, none⟩ := by
    intro after made
    simpa [write] using all after made
  refine ⟨verdict, refusal, written, ?_⟩
  rintro coordinator name operations rfl made
  cases outcome : eachAlone coordinator.changeField start mutations with
  | ok after =>
    have checked : validate start mutations = .ok () := by
      simpa [validate, outcome, Except.map] using verdict
    rw [group_checked coordinator start name operations mutations made checked,
      written after outcome]
  | error failure =>
    have checked : validate start mutations = .error failure := by
      simpa [validate, outcome, Except.map] using verdict
    simp [Coordinator.group, made, checked]

/-- A group that makes an item anew, changes it, adds an item without an identity, and then
removes one that is missing. -/
def renewal : List Mutation :=
  [⟨"items", .delete (.ofNat 1), identityField⟩,
    ⟨"items", .create [(identityField, .ofNat 1), ("sku", "C")], identityField⟩,
    ⟨"items", .update (.ofNat 1) [("sku", "D")], identityField⟩,
    ⟨"items", .create [("sku", "E")], identityField⟩,
    ⟨"items", .delete (.ofNat 3), identityField⟩]

/-- The two items are inserted one after the other. -/
theorem two_items_built : twoItems.Built := by
  have first : Store.Built { collections := [("items",
      [.object [(identityField, .ofNat 1), ("sku", "A")]])] } :=
    .inserted (.empty {} fun _ => rfl) "items"
      (.object [(identityField, .ofNat 1), ("sku", "A")]) _ rfl
  exact .inserted first "items" (.object [(identityField, .ofNat 2), ("sku", "B")]) _ rfl

/-- The check of the renewal is exact. It does not pass, for the last item is missing; without
the last mutation it does. -/
theorem renewal_checked_exactly :
    twoItems.Built ∧
    CheckIsExact "_updatedAtMs" twoItems renewal ∧
    (eachAlone "_updatedAtMs" twoItems renewal).toOption.isSome = false ∧
    (eachAlone "_updatedAtMs" twoItems renewal.dropLast).toOption.isSome = true := by
  have usable (number : Nat) (small : number < 4) : Usable twoItems (.ofNat number) := by
    refine ⟨?_, fun _ _ => by simp [Json.ofNat, Json.ofInt]⟩
    revert number
    decide
  refine ⟨two_items_built, ?_, by decide +kernel, by decide +kernel⟩
  refine check_is_exact "_updatedAtMs" twoItems renewal two_items_built ?_
    two_items_keyed.unissued (by decide +kernel) ?_
  · intro collection row present key named
    obtain ⟨other, same, plain⟩ := (two_items_keyed.keyed collection).row_plain row present
    rw [named, Option.some.injEq] at same
    exact same ▸ plain
  · intro mutation present
    simp only [renewal, List.mem_cons, List.not_mem_nil, or_false] at present
    rcases present with rfl | rfl | rfl | rfl | rfl
    · exact ⟨rfl, usable 1 (by decide)⟩
    · refine ⟨rfl, fun key given => ?_⟩
      have first : Json.ofNat 1 = key := by simpa [Members.get?] using given
      exact first ▸ usable 1 (by decide)
    · exact ⟨rfl, usable 1 (by decide), by decide +kernel⟩
    · exact ⟨rfl, fun key given => absurd given (by simp [Members.get?, identityField])⟩
    · exact ⟨rfl, usable 3 (by decide)⟩

end Batch

end DocumentQuery
