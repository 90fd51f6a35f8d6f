import DocumentQuery.Proofs.Store.PlainKeys

/-!
# Stores as their operations make them

A store begins without rows. Inserting refuses an identity that some row has, and neither a
deletion nor an update that sets no path of the identity gives two rows one identity. So every
row of such a store has an identity, and no two rows of a collection have identities that are
equal by value.
-/

namespace DocumentQuery

/-- Stores that are made by inserts, deletions, and updates that set no path of the identity.
Whatever is no row may change in between. -/
inductive Store.Built : Store → Prop where
  | empty (store : Store) (rowless : ∀ collection, store.rows collection = []) : Built store
  | inserted {store after : Store} (built : Built store) (collection : String)
      (document stored : Json) (done : store.insert collection document = .ok (stored, after)) :
      Built after
  | updated {store after : Store} (built : Built store) (collection : String) (predicate : Json)
      (values : Members Json) (found : Nat)
      (apart : ∀ entry ∈ values, Path.head entry.1 ≠ identityField)
      (done : store.update collection predicate values = .ok (found, after)) : Built after
  | deleted {store after : Store} (built : Built store) (collection : String) (predicate : Json)
      (found : Nat) (done : store.delete collection predicate = .ok (found, after)) : Built after
  | other {store after : Store} (built : Built store)
      (same : ∀ collection, after.rows collection = store.rows collection) : Built after

namespace Store

/-- Every row has an identity, and no identity is equal by value to one before it. -/
structure Identified (rows : List Json) : Prop where
  present : ∀ identity ∈ identities rows, identity.isSome = true
  apart : (identities rows).Pairwise fun earlier later =>
    ∀ first ∈ earlier, ∀ second ∈ later, first.equal second = false

/-- Rows with the same identities are identified alike. -/
theorem Identified.congr {rows others : List Json} (identified : Identified rows)
    (same : identities others = identities rows) : Identified others :=
  ⟨same ▸ identified.present, same ▸ identified.apart⟩

/-- Fewer rows are identified still. -/
theorem Identified.sublist {rows fewer : List Json} (identified : Identified rows)
    (part : fewer.Sublist rows) : Identified fewer :=
  ⟨fun identity inside => identified.present identity ((part.map _).mem inside),
    identified.apart.sublist (part.map _)⟩

/-- A row whose identity no row has can be added: the identities before it are apart already, and
each of them is apart from the new one. -/
theorem Identified.append {rows : List Json} {row key : Json} (identified : Identified rows)
    (named : row.member? identityField = some key) (free : hasIdentity rows key = false) :
    Identified (rows ++ [row]) := by
  have listed : identities (rows ++ [row]) = identities rows ++ [some key] := by
    simp [identities, named]
  constructor
  · intro identity inside
    rw [listed, List.mem_append, List.mem_singleton] at inside
    rcases inside with before | rfl
    · exact identified.present identity before
    · rfl
  · rw [listed, List.pairwise_append]
    refine ⟨identified.apart, List.pairwise_singleton _ _, ?_⟩
    intro earlier before later last first isFirst second isSecond
    obtain ⟨other, inside, rfl⟩ := List.mem_map.mp before
    rw [List.mem_singleton.mp last, Option.mem_some_iff] at isSecond
    have differs := List.any_eq_false.mp free other inside
    rw [Option.mem_def.mp isFirst, Option.any_some, Bool.not_eq_true] at differs
    exact isSecond ▸ differs

/-- Setting paths of one row beside the identity leaves all identities. -/
theorem identities_modify (rows : List Json) (place : Nat) (values : Members Json)
    (apart : ∀ entry ∈ values, Path.head entry.1 ≠ identityField) :
    identities (rows.modify place (setPaths values)) = identities rows := by
  induction rows generalizing place with
  | nil => simp
  | cons row rows inductionHypothesis =>
    cases place with
    | zero => simp [identities, member_setPaths values row apart]
    | succ place =>
      have later := inductionHypothesis place
      simpa [identities] using later

/-- The rows of a store that its operations make are identified. An insertion checks that the
identity is free, an update leaves identities alone, and a deletion takes one away; nothing else
changes rows. -/
theorem Built.identified {store : Store} (built : store.Built) (collection : String) :
    Identified (store.rows collection) := by
  induction built with
  | empty store rowless =>
    rw [rowless collection]
    exact ⟨by simp [identities], by simp [identities]⟩
  | @inserted store after built target document stored done inductionHypothesis =>
    cases document with
    | object members =>
      rw [insert_object] at done
      split at done
      · cases done
      · rename_i free
        obtain ⟨-, rfl⟩ := Prod.mk.inj (Except.ok.inj done)
        by_cases same : collection = target
        · subst same
          rw [rows_withRow_same]
          exact inductionHypothesis.append (store.member_rowOf members)
            (Bool.eq_false_iff.mpr free)
        · rw [rows_withRow_other _ _ _ _ same]
          exact inductionHypothesis
    | _ => cases done
  | @updated store after built target predicate values found apart done inductionHypothesis =>
    rcases (store.update_ok_iff target predicate values found after).mp done with
      ⟨-, -, rfl⟩ | ⟨place, -, -, rfl⟩
    · exact inductionHypothesis
    · by_cases same : collection = target
      · subst same
        rw [rows_setRows_same]
        exact inductionHypothesis.congr (identities_modify _ place values apart)
      · rw [rows_setRows_other _ _ _ _ same]
        exact inductionHypothesis
  | @deleted store after built target predicate found done inductionHypothesis =>
    rcases (store.delete_ok_iff target predicate found after).mp done with
      ⟨-, -, rfl⟩ | ⟨place, -, -, rfl⟩
    · exact inductionHypothesis
    · by_cases same : collection = target
      · subst same
        rw [rows_setRows_same]
        exact inductionHypothesis.sublist (List.eraseIdx_sublist _ _)
      · rw [rows_setRows_other _ _ _ _ same]
        exact inductionHypothesis
  | other built same inductionHypothesis =>
    rw [same collection]
    exact inductionHypothesis

/-- If the identities of identified rows are plain, no two of them are the same, because plain
values are equal to themselves and identities are not equal to each other. -/
theorem Identified.plainlyKeyed {rows : List Json} (identified : Identified rows)
    (plain : ∀ row ∈ rows, ∀ key, row.member? identityField = some key → key.isPlain = true) :
    PlainlyKeyed rows := by
  have keys : ∀ identity ∈ identities rows, ∃ key, identity = some key ∧ key.isPlain = true := by
    intro identity inside
    obtain ⟨key, rfl⟩ := Option.isSome_iff_exists.mp (identified.present identity inside)
    obtain ⟨row, present, named⟩ := List.mem_map.mp inside
    exact ⟨key, rfl, plain row present key named⟩
  refine ⟨keys, identified.apart.imp_of_mem ?_⟩
  rintro earlier later inside - apart rfl
  obtain ⟨key, rfl, keyPlain⟩ := keys earlier inside
  have itself := (Json.equal_plain_iff key key keyPlain keyPlain).mpr rfl
  exact absurd itself (by simp [apart key rfl key rfl])

end Store

end DocumentQuery
