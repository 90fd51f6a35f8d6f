import DocumentQuery.Proofs.Batch.Effect
import DocumentQuery.Proofs.Batch.Writes
import DocumentQuery.Proofs.Json.Removal
import DocumentQuery.Proofs.Store.Built

/-!
# Mutations and the identities of rows

A creation is refused if its identity is taken, and a deletion takes a row away, so both leave rows
with distinct identities. An update sets paths in a row. It leaves the identity and the key of the
row if no path leads into them. The identity and the key themselves are taken out of the body of an
update; names with dots that lead into them are not.
-/

namespace DocumentQuery

namespace Json

/-- What a dotted text leads to in an object is found in the member that it leads into. -/
theorem valueAt_object (members : Members Json) (text : String) :
    (Json.object members).valueAt? text =
      (Members.get? (Path.head text) members).bind (get? (Path.ofText text).tail) := by
  obtain ⟨step, path, steps⟩ := Path.ofText_cons text
  simp only [valueAt?, Path.head, steps, get?, List.headD_cons, List.tail_cons]

/-- Setting a path leaves what is found in other members of an object. -/
theorem valueAt_setAt_other (members : Members Json) (value : Json) (text wanted : String)
    (different : Path.head wanted ≠ Path.head text) :
    ∃ others, (Json.object members).setAt text value = .object others ∧
      (Json.object others).valueAt? wanted = (Json.object members).valueAt? wanted := by
  obtain ⟨step, path, steps⟩ := Path.ofText_cons text
  have same := member_setAt_other (.object members) value text (Path.head wanted) different
  simp only [setAt, steps, set] at same ⊢
  refine ⟨_, rfl, ?_⟩
  rw [valueAt_object, valueAt_object]
  exact congrArg (Option.bind · _) same

end Json

/-- Setting paths leaves what is found in other members of an object. The paths are set one after
the other, and each of them leads into a member that the wanted path does not lead into. -/
theorem Store.valueAt_setPaths_other {wanted : String} (values : Members Json)
    (members : Members Json) (other : ∀ name ∈ Members.names values,
      Path.head name ≠ Path.head wanted) :
    (setPaths values (.object members)).valueAt? wanted =
      (Json.object members).valueAt? wanted := by
  induction values generalizing members with
  | nil => rfl
  | cons entry values inductionHypothesis =>
    obtain ⟨path, value⟩ := entry
    obtain ⟨others, set, same⟩ := Json.valueAt_setAt_other members value path wanted
      (Ne.symm (other path List.mem_cons_self))
    have rest := inductionHypothesis others fun name later =>
      other name (List.mem_cons_of_mem path later)
    rw [← same, ← rest, ← set]
    rfl

/-- Whether no name leads into the identity or the key of a row. -/
def Members.LeavesKeys (keyField : String) (members : Members Json) : Prop :=
  ∀ name ∈ names members, Path.head name ≠ identityField ∧ Path.head name ≠ Path.head keyField

/-- Whether every name that leads into the identity or the key of a row is that of the one or the
other. -/
def Members.NamesKeys (keyField : String) (members : Members Json) : Prop :=
  ∀ name ∈ names members, name = identityField ∨ name = keyField ∨
    (Path.head name ≠ identityField ∧ Path.head name ≠ Path.head keyField)

/-- Without the identity and the key, such members leave both. Of the names that lead into one of
these fields only the fields themselves were allowed, and each of them stood there once. -/
theorem Members.NamesKeys.erased {keyField : String} {members : Members Json}
    (named : members.NamesKeys keyField) (distinct : (names members).Nodup) :
    ((members.erase identityField).erase keyField).LeavesKeys keyField := by
  intro name inside
  have first := names_erase identityField members
  have second := names_erase keyField (members.erase identityField)
  have once : (names (members.erase identityField)).Nodup :=
    first.nodup_iff.mpr (distinct.erase identityField)
  obtain ⟨noKey, before⟩ := once.mem_erase_iff.mp (second.mem_iff.mp inside)
  obtain ⟨noIdentity, present⟩ := distinct.mem_erase_iff.mp (first.mem_iff.mp before)
  rcases named name present with isIdentity | isKey | apart
  · exact absurd isIdentity noIdentity
  · exact absurd isKey noKey
  · exact apart

namespace Store

/-- Rows with identities are objects. -/
theorem Identified.object {rows : List Json} (identified : Identified rows) (row : Json)
    (inside : row ∈ rows) : ∃ members, row = .object members := by
  have named := identified.present _ (List.mem_map_of_mem inside)
  cases row with
  | object members => exact ⟨members, rfl⟩
  | _ => exact absurd named Bool.false_ne_true

/-- Rows with distinct plain identities are identified. Plain identities that are equal by value are
the same, so identities that differ as values are not equal either. -/
theorem PlainlyKeyed.identified {rows : List Json} (keyed : PlainlyKeyed rows) :
    Identified rows := by
  constructor
  · intro identity inside
    obtain ⟨key, rfl, -⟩ := keyed.plain identity inside
    rfl
  · refine keyed.distinct.imp_of_mem ?_
    intro earlier later before behind different first isFirst second isSecond
    obtain rfl := Option.mem_def.mp isFirst
    obtain rfl := Option.mem_def.mp isSecond
    obtain ⟨key, same, firstPlain⟩ := keyed.plain _ before
    obtain rfl := Option.some.inj same
    obtain ⟨key, same, secondPlain⟩ := keyed.plain _ behind
    obtain rfl := Option.some.inj same
    by_contra equal
    have one := (Json.equal_plain_iff first second firstPlain secondPlain).mp
      (eq_true_of_ne_false equal)
    exact different (congrArg some one)

/-- Whether the rows of every collection have distinct identities. -/
def IsIdentified (store : Store) : Prop := ∀ collection, Identified (store.rows collection)

end Store

namespace Batch

/-- Whether an update sets no path that leads into the identity or the key of its row. -/
def Mutation.LeavesKeys (mutation : Mutation) : Prop :=
  match mutation.change with
  | .update _ values => values.LeavesKeys mutation.keyField
  | .create _ | .delete _ => True

/-- Whether, if a mutation is an update, every row has the identity and the key that it had. -/
def Mutation.KeepsKeys (mutation : Mutation) (before after : Store) : Prop :=
  match mutation.change with
  | .update _ _ =>
    (∀ collection, Store.identities (after.rows collection) =
      Store.identities (before.rows collection)) ∧
    (after.rows mutation.collection).map (Json.valueAt? · mutation.keyField) =
      (before.rows mutation.collection).map (Json.valueAt? · mutation.keyField)
  | .create _ | .delete _ => True

variable (mutation : Mutation) (changeField : String)

/-- Whether stamps lead neither into the identity nor into the key of the rows of a mutation. -/
def Mutation.StampsApart : Prop :=
  Path.head changeField ≠ identityField ∧ Path.head changeField ≠ Path.head mutation.keyField

variable {mutation changeField} {store after : Store}

/-- Stamped values leave the keys if the values and the stamp do. -/
theorem Mutation.StampsApart.leavesKeys (stamps : mutation.StampsApart changeField)
    (store : Store) (values : Members Json) (leaves : values.LeavesKeys mutation.keyField) :
    (store.stamp changeField values).1.LeavesKeys mutation.keyField := by
  intro name inside
  rcases Members.mem_names_insert changeField _ values name inside with rfl | before
  · exact stamps
  · exact leaves name before

/-- A row that an update changes keeps its identity and its key. -/
theorem setPaths_keeps (keyField : String) (values members : Members Json)
    (leaves : values.LeavesKeys keyField) :
    (Store.setPaths values (.object members)).member? identityField =
        (Json.object members).member? identityField ∧
      (Store.setPaths values (.object members)).valueAt? keyField =
        (Json.object members).valueAt? keyField := by
  constructor
  · refine Store.member_setPaths values _ fun entry inside => ?_
    exact (leaves entry.1 (List.mem_map_of_mem inside)).1
  · exact Store.valueAt_setPaths_other values members fun name inside => (leaves name inside).2

/-- A mutation that takes effect on rows with distinct identities leaves such rows, and an update
keeps the identity and the key of every row. -/
theorem Mutation.Effect.keeps (effect : mutation.Effect changeField store after)
    (written : mutation.write changeField store = .ok after) (identified : store.IsIdentified)
    (stamps : mutation.StampsApart changeField) (leaves : mutation.LeavesKeys) :
    after.IsIdentified ∧ mutation.KeepsKeys store after := by
  have fits := fits_of_effect changeField store mutation after written effect
  obtain ⟨others, effect⟩ := effect
  have rows := identified mutation.collection
  have everywhere (own : Store.Identified (after.rows mutation.collection)) :
      after.IsIdentified := by
    intro collection
    by_cases same : collection = mutation.collection
    · exact same ▸ own
    · exact others collection same ▸ identified collection
  cases change : mutation.change with
  | create members =>
    simp only [Mutation.Fits, change] at fits
    simp only [change] at effect
    refine ⟨everywhere ?_, by simp only [KeepsKeys, change]⟩
    rw [effect]
    exact rows.append (store.member_rowOf _) fits
  | update key values =>
    simp only [LeavesKeys, change] at leaves
    simp only [change] at effect
    obtain ⟨front, row, back, division, same⟩ := effect
    have inside : row ∈ store.rows mutation.collection := by simp [division.divided]
    obtain ⟨members, rfl⟩ := rows.object row inside
    obtain ⟨identity, own⟩ := setPaths_keeps mutation.keyField _ members
      (stamps.leavesKeys store values leaves)
    have kept : Store.identities (after.rows mutation.collection) =
        Store.identities (store.rows mutation.collection) := by
      simp only [same, division.divided, Store.identities, List.map_append, List.map_cons, identity]
    refine ⟨everywhere (rows.congr kept), ?_⟩
    simp only [KeepsKeys, change]
    constructor
    · intro collection
      by_cases found : collection = mutation.collection
      · rw [found, kept]
      · rw [others collection found]
    · simp only [same, division.divided, List.map_append, List.map_cons, own]
  | delete key =>
    simp only [change] at effect
    obtain ⟨front, row, back, division, same⟩ := effect
    refine ⟨everywhere ?_, by simp only [KeepsKeys, change]⟩
    rw [division.divided] at rows
    rw [same]
    exact rows.sublist ((List.Sublist.refl front).append (List.sublist_cons_self row back))

/-- A mutation that is written to rows with distinct identities leaves such rows, and an update
keeps the identity and the key of every row. -/
theorem Mutation.write_keeps (written : mutation.write changeField store = .ok after)
    (identified : store.IsIdentified) (stamps : mutation.StampsApart changeField)
    (leaves : mutation.LeavesKeys) :
    after.IsIdentified ∧ mutation.KeepsKeys store after := by
  rcases effect_or_unchanged changeField store mutation after written with effect | unchanged
  · exact effect.keeps written identified stamps leaves
  · constructor
    · intro collection
      rw [unchanged collection]
      exact identified collection
    · unfold KeepsKeys
      split
      · exact ⟨fun collection => by rw [unchanged collection], by rw [unchanged]⟩
      · trivial
      · trivial

end Batch

end DocumentQuery
