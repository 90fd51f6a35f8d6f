import DocumentQuery.Proofs.Json.Distinct
import DocumentQuery.Proofs.Store.PlainKeys
import Mathlib.Algebra.Group.Nat.Defs
import Mathlib.Data.List.Forall2

/-!
# Stamps of rows

A write puts a reading of the clock into the change field of its row. That is what the row shows
there afterwards, if nothing else that is written leads into the field. A checkpoint is resolved
by comparing the stamps with its own reading, which is exact for readings below `2^63`: numbers
from there on are compared as binary64 numbers.

The change field has no dot in its name, and its name is not that of an operator.
-/

namespace DocumentQuery

/-- A dotted text begins with the step that it names first, which is the whole text or is followed
by a dot. -/
theorem Path.head_cases (text : String) :
    text = Path.head text ∨ (Path.head text).toList ++ ['.'] <+: text.toList := by
  have cut (chars : List Char) : ∃ piece others, Text.split '.' chars = piece :: others ∧
      (chars = piece ∨ piece ++ ['.'] <+: chars) := by
    induction chars with
    | nil => exact ⟨[], [], rfl, .inl rfl⟩
    | cons char chars inductionHypothesis =>
      obtain ⟨piece, others, pieces, begins⟩ := inductionHypothesis
      by_cases dot : char = '.'
      · exact ⟨[], piece :: others, by simp [Text.split, dot, pieces], .inr (by simp [dot])⟩
      · refine ⟨char :: piece, others, by simp [Text.split, dot, pieces], ?_⟩
        rcases begins with same | longer
        · exact .inl (by rw [same])
        · exact .inr ((List.prefix_cons_inj char).mpr longer)
  obtain ⟨piece, others, pieces, begins⟩ := cut text.toList
  have head : Path.head text = String.ofList piece := by
    simp [Path.head, Path.ofText, pieces]
  rw [head, String.toList_ofList]
  rcases begins with same | longer
  · exact .inl (by rw [← same, String.ofList_toList])
  · exact .inr longer

/-- The value of a member of an object, under its name as a path. -/
theorem Json.valueAt_member (members : Members Json) (name : String) (plain : '.' ∉ name.toList) :
    (Json.object members).valueAt? name = members.get? name := by
  rw [valueAt?, Path.ofText_plain name plain]
  cases value : Members.get? name members <;> simp [get?, value]

/-- Different numbers are different values. -/
theorem Json.ofNat_inj {first second : Nat} :
    Json.ofNat first = .ofNat second ↔ first = second := by
  simp only [Json.ofNat, Json.ofInt, Json.number.injEq, Number.integer.injEq, Int.natCast_inj]

/-- Whether no name begins with the change field and a dot, so that none leads into the field
but its own. -/
def Members.Apart (changeField : String) (members : Members Json) : Prop :=
  ∀ name ∈ names members, ¬ changeField.toList ++ ['.'] <+: name.toList

/-- Members that can be written beside a change field: no name is repeated, and none but that of
the change field leads into it. -/
structure Members.Ordinary (changeField : String) (members : Members Json) : Prop where
  distinct : (names members).Nodup
  apart : Apart changeField members

namespace Members

/-- Stamped members are ordinary if the members are. -/
theorem Ordinary.insert {changeField : String} {members : Members Json}
    (ordinary : members.Ordinary changeField) (value : Json) :
    (members.insert changeField value).Ordinary changeField := by
  constructor
  · exact distinct_insert changeField value members ordinary.distinct
  · intro name present
    rcases mem_names_insert changeField value members name present with rfl | before
    · intro longer
      have length := longer.length_le
      rw [List.length_append, List.length_singleton] at length
      omega
    · exact ordinary.apart name before

/-- Members of which some are removed are ordinary if all are. -/
theorem Ordinary.erase {changeField : String} {members : Members Json}
    (ordinary : members.Ordinary changeField) (name : String) :
    (members.erase name).Ordinary changeField := by
  have left := names_erase name members
  constructor
  · exact left.nodup_iff.mpr (ordinary.distinct.erase name)
  · intro other present
    exact ordinary.apart other (List.mem_of_mem_erase (left.mem_iff.mp present))

end Members

/-- A document of which a path was set is an object. -/
theorem Json.valueAt_setAt (document value : Json) (text name : String)
    (plain : '.' ∉ name.toList) :
    (document.setAt text value).valueAt? name = (document.setAt text value).member? name := by
  obtain ⟨step, path, steps⟩ := Path.ofText_cons text
  rw [setAt, steps, set]
  exact valueAt_member _ name plain

namespace Store

/-- A row of which paths were set is an object. -/
theorem valueAt_setPaths (values : Members Json) (some : values ≠ []) (row : Json)
    (name : String) (plain : '.' ∉ name.toList) :
    (setPaths values row).valueAt? name = (setPaths values row).member? name := by
  induction values generalizing row with
  | nil => exact absurd rfl some
  | cons entry values inductionHypothesis =>
    cases values with
    | nil => exact Json.valueAt_setAt row entry.2 entry.1 name plain
    | cons next values => exact inductionHypothesis (List.cons_ne_nil next values) _

/-- The stamp that is set among other paths is a member of the row. No later entry leads into the
change field, so its member stays. -/
theorem member_stamped (changeField : String) (plain : '.' ∉ changeField.toList)
    (values : Members Json) (ordinary : Members.Ordinary changeField values) (stamp : Json)
    (stamped : Members.get? changeField values = some stamp) (row : Json) :
    (setPaths values row).member? changeField = some stamp := by
  induction values generalizing row with
  | nil => simp [Members.get?] at stamped
  | cons entry values inductionHypothesis =>
    obtain ⟨name, value⟩ := entry
    have distinct := List.nodup_cons.mp ordinary.distinct
    by_cases same : name = changeField
    · subst same
      obtain rfl : value = stamp := by simpa [Members.get?] using stamped
      have others : ∀ entry ∈ values, Path.head entry.1 ≠ name := by
        rintro ⟨other, later⟩ present head
        have listed : other ∈ Members.names values := List.mem_map_of_mem present
        rcases Path.head_cases other with whole | longer
        · exact distinct.1 (head ▸ whole ▸ listed)
        · exact ordinary.apart other (List.mem_cons_of_mem name listed) (head ▸ longer)
      have set : (row.setAt name value).member? name = some value := by
        rw [Json.setAt, Path.ofText_plain name plain]
        exact Members.get_insert_same name value row.members
      exact (member_setPaths values (row.setAt name value) others).trans set
    · have rest : Members.Ordinary changeField values :=
        ⟨distinct.2, fun other present => ordinary.apart other (List.mem_cons_of_mem name present)⟩
      exact inductionHypothesis rest (by simpa [Members.get?, same] using stamped) _

/-- A row shows the stamp that was set among other paths. -/
theorem valueAt_stamped (changeField : String) (plain : '.' ∉ changeField.toList)
    (values : Members Json) (ordinary : Members.Ordinary changeField values) (stamp : Json)
    (stamped : Members.get? changeField values = some stamp) (row : Json) :
    (setPaths values row).valueAt? changeField = some stamp := by
  have some : values ≠ [] := by rintro rfl; simp [Members.get?] at stamped
  rw [valueAt_setPaths values some row changeField plain,
    member_stamped changeField plain values ordinary stamp stamped row]

/-- A new row shows the stamp of its document. -/
theorem valueAt_rowOf (store : Store) (changeField : String) (plain : '.' ∉ changeField.toList)
    (members : Members Json) (stamp : Json)
    (stamped : Members.get? changeField members = some stamp) :
    (store.rowOf members).valueAt? changeField = some stamp := by
  rw [rowOf, Json.valueAt_member _ changeField plain, Members.get_append, stamped]
  rfl

/-- Whether a value is a reading of the clock that is later than another. -/
def IsLater (since : Nat) (value : Option Json) : Prop :=
  ∃ reading, value = some (.ofNat reading) ∧ since < reading

/-- Whether a value is absent or a reading of the clock before it showed a time. -/
def IsPast (now : Nat) (value : Option Json) : Prop :=
  ∀ stamp, value = some stamp → ∃ reading, stamp = .ofNat reading ∧ reading < now

/-- What is in the past stays there. -/
theorem IsPast.mono {now after : Nat} {value : Option Json} (past : IsPast now value)
    (later : now ≤ after) : IsPast after value := by
  intro stamp shown
  obtain ⟨reading, same, before⟩ := past stamp shown
  exact ⟨reading, same, Nat.lt_of_lt_of_le before later⟩

/-- Nothing in the past is later than the present. -/
theorem IsPast.not_later {now : Nat} {value : Option Json} (past : IsPast now value) :
    ¬ IsLater now value := by
  rintro ⟨reading, shown, later⟩
  obtain ⟨other, same, before⟩ := past _ shown
  obtain rfl : reading = other := Json.ofNat_inj.mp same
  exact absurd before (Nat.lt_asymm later)

/-- A reading is in the past once the clock shows a later time, and is later than another if it is
greater. -/
theorem isLater_reading (since reading : Nat) :
    IsLater since (some (.ofNat reading)) ↔ since < reading := by
  constructor
  · rintro ⟨other, same, later⟩
    obtain rfl : reading = other := Json.ofNat_inj.mp (Option.some.inj same)
    exact later
  · intro later
    exact ⟨reading, rfl, later⟩

/-- A number below `2^63` is held as a signed integer. -/
theorem signed_small (value : Nat) (small : value < 2 ^ 63) :
    (Number.integer value).signed? = some (value : Int) := by
  have range : -Int.pow 2 63 ≤ (value : Int) ∧ (value : Int) < Int.pow 2 63 := by
    have power : Int.pow 2 63 = 9223372036854775808 := by decide
    omega
  rw [Number.signed?, if_pos range]

/-- Readings below `2^63` are compared as integers. From there on they would be compared after
rounding, and two of them could be taken for the same. -/
theorem compares_readings (since reading : Nat) (early : since < 2 ^ 63) (late : reading < 2 ^ 63) :
    Predicate.compares (some (.ofNat reading)) (.ofNat since) (· == .gt) =
      decide (since < reading) := by
  have compared : (Number.integer reading).compare (.integer since) =
      Ord.compare (reading : Int) since := by
    rw [Number.compare, signed_small since early, signed_small reading late]
  have order : (Json.ofNat reading).compareLike? (.ofNat since) =
      some (Ord.compare (reading : Int) since) := congrArg some compared
  have check : Predicate.compares (some (.ofNat reading)) (.ofNat since) (· == .gt) =
      (Ord.compare (reading : Int) since == .gt) := by
    simp only [Predicate.compares, Json.ofNat, Json.ofInt] at order ⊢
    rw [order]
    rfl
  rw [check, Bool.eq_iff_iff, beq_iff_eq, decide_eq_true_iff, Int.compare_eq_gt]
  exact Int.ofNat_lt

/-- The predicate of later rows is met by those whose stamp is later. A row without a stamp does not
meet it, and the stamp of any other is a reading that is compared exactly. -/
theorem holds_changedSince (changeField : String) (field : Predicate.isOperator changeField = false)
    (since now : Nat) (started : since < now) (bounded : now ≤ 2 ^ 63) (row : Json)
    (past : IsPast now (row.valueAt? changeField)) :
    ∃ answer, Predicate.holds row (changedSince changeField since) = .ok answer ∧
      (answer = true ↔ IsLater since (row.valueAt? changeField)) := by
  refine ⟨Predicate.compares (row.valueAt? changeField) (.ofNat since) (· == .gt), ?_, ?_⟩
  · rw [changedSince, Predicate.holds_field row changeField _ field]
    refine Predicate.meets_operator _ "$gt" _ _ (by decide) ?_
    simp only [Predicate.meetsAll, ok_bind]
  · cases shown : row.valueAt? changeField with
    | none =>
      constructor
      · intro compared
        simp [Predicate.compares] at compared
      · rintro ⟨reading, same, _⟩
        simp at same
    | some stamp =>
      obtain ⟨reading, rfl, before⟩ := past stamp shown
      rw [compares_readings since reading (by omega) (by omega), isLater_reading,
        decide_eq_true_iff]

/-- The rows that are marked, in order, where the marks are listed beside the rows. -/
def marked : List Json → List Bool → List Json
  | row :: rows, mark :: marks => if mark then row :: marked rows marks else marked rows marks
  | _, _ => []

/-- Whether each row is marked exactly if its stamp is later than a reading. -/
def MarkedLater (changeField : String) (since : Nat) (rows : List Json) (marks : List Bool) :
    Prop :=
  List.Forall₂ (fun row mark => mark = true ↔ IsLater since (row.valueAt? changeField)) rows marks

/-- Selecting the later rows gives the marked ones. -/
theorem select_marked (changeField : String) (field : Predicate.isOperator changeField = false)
    (since now : Nat) (started : since < now) (bounded : now ≤ 2 ^ 63) (rows : List Json)
    (past : ∀ row ∈ rows, IsPast now (row.valueAt? changeField)) (marks : List Bool)
    (later : MarkedLater changeField since rows marks) :
    Predicate.select (changedSince changeField since) rows = .ok (marked rows marks) := by
  induction later with
  | nil => rfl
  | @cons row mark rows marks first _ inductionHypothesis =>
    obtain ⟨answer, holds, decides⟩ := holds_changedSince changeField field since now started
      bounded row (past row List.mem_cons_self)
    have others := inductionHypothesis fun other present =>
      past other (List.mem_cons_of_mem row present)
    have same : answer = mark := Bool.eq_iff_iff.mpr (decides.trans first.symm)
    simp only [Predicate.select, holds, others, ok_bind, pure_eq_ok, same, marked]

/-- Resolving a token answers with the rows that were marked since its checkpoint. -/
theorem resolve_marked (store : Store) (changeField : String)
    (field : Predicate.isOperator changeField = false) (checkpoint : Checkpoint) (token : String)
    (kept : store.checkpoint? token = some checkpoint)
    (started : checkpoint.since < store.clock.now) (bounded : store.clock.now ≤ 2 ^ 63)
    (collection : Collection)
    (past : ∀ row ∈ store.rows collection.name,
      IsPast store.clock.now (row.valueAt? changeField)) (marks : List Bool)
    (later : MarkedLater changeField checkpoint.since (store.rows collection.name) marks) :
    store.resolve changeField token collection =
      .ok (marked (store.rows collection.name) marks) := by
  have selected := select_marked changeField field checkpoint.since store.clock.now started bounded
    (store.rows collection.name) past marks later
  simp [resolve, kept, find, FindOptions.stages, Pipeline.run, Stage.run, selected,
    Pipeline.ofPredicate]

end Store

end DocumentQuery
