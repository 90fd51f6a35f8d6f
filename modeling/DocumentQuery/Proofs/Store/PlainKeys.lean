import DocumentQuery.Proofs.Json.Order
import DocumentQuery.Proofs.Predicate
import DocumentQuery.Proofs.Store.Writing

/-!
# Rows under plain identities

An identity is plain if it is a text or a 64-bit signed integer. Among plain identities equality
by value is equality, and the predicate that addresses a row by its identity never has a fault:
it is met by the row with exactly that identity. What the store finds under a plain key is then
decided by the list of identities of the rows.
-/

namespace DocumentQuery

/-- Whether a value is a text or a 64-bit signed integer. Such values are compared exactly. -/
def Json.isPlain : Json → Bool
  | .string _ => true
  | .number value => value.signed?.isSome
  | _ => false

/-- Plain values are equal by value only to themselves. They are texts and signed integers, and
neither is compared after rounding. -/
theorem Json.equal_plain_iff (left right : Json) (leftPlain : left.isPlain = true)
    (rightPlain : right.isPlain = true) : left.equal right = true ↔ left = right := by
  cases left with
  | string text => cases right <;> simp_all [isPlain, equal]
  | number value =>
    cases right with
    | number other =>
      obtain ⟨first, firstHeld⟩ := Option.isSome_iff_exists.mp leftPlain
      obtain ⟨second, secondHeld⟩ := Option.isSome_iff_exists.mp rightPlain
      obtain rfl := Number.eq_of_signed value first firstHeld
      obtain rfl := Number.eq_of_signed other second secondHeld
      simp [equal, Number.equal, firstHeld, secondHeld]
    | string text => simp [equal]
    | _ => simp [isPlain] at rightPlain
  | _ => simp [isPlain] at leftPlain

/-- A row that has an identity shows it under the path of the identity. -/
theorem Json.valueAt_identity (row key : Json) (identified : row.member? identityField = some key) :
    row.valueAt? identityField = some key := by
  cases row with
  | object members =>
    have path : Path.ofText identityField = [identityField] := Path.ofText_plain _ (by decide)
    have value : Members.get? identityField members = some key := identified
    simp [valueAt?, path, get?, value]
  | _ => simp [member?, members, Members.get?] at identified

/-- The predicate of a plain identity can be decided on a row with a plain identity, and is met if
the two are the same. -/
theorem Predicate.holds_identity (row existing key : Json)
    (identified : row.member? identityField = some existing)
    (existingPlain : existing.isPlain = true) (keyPlain : key.isPlain = true) :
    ∃ answer, Predicate.holds row (Predicate.clause identityField key) = .ok answer ∧
      (answer = true ↔ existing = key) := by
  have scalar : ∀ members, key ≠ .object members := by
    rintro members rfl
    simp [Json.isPlain] at keyPlain
  refine ⟨Predicate.equals (some existing) key, ?_, ?_⟩
  · rw [holds_field row identityField key (by decide), meets_value _ key scalar,
      Json.valueAt_identity row existing identified]
  · have same := Json.equal_plain_iff existing key existingPlain keyPlain
    cases existing <;> simp_all [equals, Json.isPlain]

namespace Store

/-- The identities of rows, in order. -/
def identities (rows : List Json) : List (Option Json) := rows.map (Json.member? identityField)

/-- Every row has a plain identity, and no two rows share one. -/
structure PlainlyKeyed (rows : List Json) : Prop where
  plain : ∀ identity ∈ identities rows, ∃ key, identity = some key ∧ key.isPlain = true
  distinct : (identities rows).Nodup

variable {rows : List Json} {key : Json}

/-- The identity of a row is plain. -/
theorem PlainlyKeyed.row_plain (keyed : PlainlyKeyed rows) (row : Json) (present : row ∈ rows) :
    ∃ key, row.member? identityField = some key ∧ key.isPlain = true :=
  keyed.plain _ (List.mem_map_of_mem present)

/-- Fewer rows are plainly keyed still. -/
theorem PlainlyKeyed.sublist {fewer : List Json} (keyed : PlainlyKeyed rows)
    (part : fewer.Sublist rows) : PlainlyKeyed fewer :=
  ⟨fun identity present => keyed.plain identity ((part.map _).mem present),
    keyed.distinct.sublist (part.map _)⟩

/-- A row with a new plain identity can be added, and the rows stay keyed by distinct
plain values. -/
theorem PlainlyKeyed.append (keyed : PlainlyKeyed rows) (row : Json)
    (identified : row.member? identityField = some key) (keyPlain : key.isPlain = true)
    (new : some key ∉ identities rows) : PlainlyKeyed (rows ++ [row]) := by
  have listed : identities (rows ++ [row]) = identities rows ++ [some key] := by
    simp [identities, identified]
  constructor
  · intro identity present
    rw [listed, List.mem_append, List.mem_singleton] at present
    rcases present with before | rfl
    · exact keyed.plain identity before
    · exact ⟨key, rfl, keyPlain⟩
  · rw [listed, List.nodup_append]
    refine ⟨keyed.distinct, by simp, ?_⟩
    rintro identity before last final same
    rw [List.mem_singleton.mp final] at same
    exact new (same ▸ before)

/-- An identity is taken exactly if it is listed, for equality of plain values is that of the values
themselves. -/
theorem hasIdentity_iff (keyed : PlainlyKeyed rows) (keyPlain : key.isPlain = true) :
    hasIdentity rows key = true ↔ some key ∈ identities rows := by
  simp only [hasIdentity, identities, List.any_eq_true, List.mem_map]
  constructor
  · rintro ⟨row, present, equal⟩
    obtain ⟨existing, identified, existingPlain⟩ := keyed.row_plain row present
    have same : existing.equal key = true := by simpa [identified] using equal
    exact ⟨row, present, by
      rw [identified, (Json.equal_plain_iff existing key existingPlain keyPlain).mp same]⟩
  · rintro ⟨row, present, identified⟩
    exact ⟨row, present, by
      simp [identified, Json.equal_plain_iff key key keyPlain keyPlain]⟩

/-- Some row is counted under a plain key exactly if the key is listed, and counting does not fail:
the predicate of an identity is decided on every row. -/
theorem select_identity (keyed : PlainlyKeyed rows) (keyPlain : key.isPlain = true) :
    ∃ found, Predicate.select (Predicate.clause identityField key) rows = .ok found ∧
      (0 < found.length ↔ some key ∈ identities rows) := by
  induction rows with
  | nil => exact ⟨[], rfl, by simp [identities]⟩
  | cons row rows inductionHypothesis =>
    obtain ⟨existing, identified, existingPlain⟩ := keyed.row_plain row List.mem_cons_self
    obtain ⟨answer, decided, met⟩ :=
      Predicate.holds_identity row existing key identified existingPlain keyPlain
    obtain ⟨others, selected, counted⟩ :=
      inductionHypothesis (keyed.sublist (List.sublist_cons_self row rows))
    refine ⟨if answer then row :: others else others, ?_, ?_⟩
    · simp [Predicate.select, decided, selected]
    · simp only [identities, List.map_cons, List.mem_cons, identified, Option.some.injEq]
      cases answer with
      | true => simp [met.mp rfl]
      | false =>
        have different : key ≠ existing := fun same => by simpa using met.mpr same.symm
        simpa [different, identities] using counted

/-- A row is found under a plain key exactly if the key is listed, and the search does not fail: the
predicate of an identity is decided on every row. -/
theorem position_identity (keyed : PlainlyKeyed rows) (keyPlain : key.isPlain = true) :
    ∃ position, position? (Predicate.clause identityField key) rows = .ok position ∧
      (position.isSome = true ↔ some key ∈ identities rows) := by
  induction rows with
  | nil => exact ⟨none, rfl, by simp [identities]⟩
  | cons row rows inductionHypothesis =>
    obtain ⟨existing, identified, existingPlain⟩ := keyed.row_plain row List.mem_cons_self
    obtain ⟨answer, decided, met⟩ :=
      Predicate.holds_identity row existing key identified existingPlain keyPlain
    obtain ⟨position, found, listed⟩ :=
      inductionHypothesis (keyed.sublist (List.sublist_cons_self row rows))
    simp only [identities, List.map_cons, List.mem_cons, identified, Option.some.injEq]
    cases answer with
    | true => exact ⟨some 0, by simp [position?, decided], by simp [met.mp rfl]⟩
    | false =>
      have different : key ≠ existing := fun same => by simpa using met.mpr same.symm
      refine ⟨position.map (· + 1), ?_, by simpa [different, identities] using listed⟩
      simp [position?, decided, found]

/-- The row that is found under a plain key has that key as its identity. -/
theorem met_identity (keyed : PlainlyKeyed rows) (keyPlain : key.isPlain = true)
    {front back : List Json} {row : Json}
    (division : FirstMeeting (Predicate.clause identityField key) rows front row back) :
    row.member? identityField = some key := by
  obtain ⟨existing, identified, existingPlain⟩ :=
    keyed.row_plain row (by simp [division.divided])
  obtain ⟨answer, decided, met⟩ :=
    Predicate.holds_identity row existing key identified existingPlain keyPlain
  have answered : true = answer := Except.ok.inj (division.met.symm.trans decided)
  rw [identified, met.mp answered.symm]

/-- Without the row that is found under a plain key all other identities are listed still, and
the key is not. -/
theorem mem_identities_removed (keyed : PlainlyKeyed rows) (keyPlain : key.isPlain = true)
    {front back : List Json} {row : Json}
    (division : FirstMeeting (Predicate.clause identityField key) rows front row back)
    (wanted : Json) :
    some wanted ∈ identities (front ++ back) ↔ some wanted ∈ identities rows ∧ wanted ≠ key := by
  have identified := met_identity keyed keyPlain division
  have listed : identities rows = identities front ++ some key :: identities back := by
    simp [division.divided, identities, identified]
  have moved : (some key :: (identities front ++ identities back)).Nodup :=
    List.perm_middle.nodup_iff.mp (listed ▸ keyed.distinct)
  have absent : some key ∉ identities front ++ identities back := (List.nodup_cons.mp moved).1
  have joined : identities (front ++ back) = identities front ++ identities back := by
    simp [identities]
  rw [listed, joined]
  simp only [List.mem_append, List.mem_cons, Option.some.injEq] at absent ⊢
  constructor
  · intro present
    exact ⟨present.imp id .inr, fun same => absent (same ▸ present)⟩
  · rintro ⟨before | same | behind, different⟩
    · exact .inl before
    · exact absurd same different
    · exact .inr behind

/-- Setting paths that do not lead into a member leaves the member. -/
theorem member_setPaths {wanted : String} (values : Members Json) (row : Json)
    (other : ∀ entry ∈ values, Path.head entry.1 ≠ wanted) :
    (setPaths values row).member? wanted = row.member? wanted := by
  induction values generalizing row with
  | nil => rfl
  | cons entry values inductionHypothesis =>
    obtain ⟨path, value⟩ := entry
    have first : wanted ≠ Path.head path := Ne.symm (other _ List.mem_cons_self)
    have rest := inductionHypothesis (row.setAt path value) fun later present =>
      other later (List.mem_cons_of_mem _ present)
    exact rest.trans (Json.member_setAt_other row value path wanted first)

end Store

end DocumentQuery
