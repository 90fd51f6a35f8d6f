import DocumentQuery.Proofs.Json.Repeats
import DocumentQuery.Proofs.Pipeline.Groups
import DocumentQuery.Proofs.Pipeline.Rows
import DocumentQuery.Proofs.Pipeline.Stability

/-!
# Keys that are repeated

Sort keys that repeat a field sort as the first key of the field does, since rows that are equal at
it are equal at the others. Kept with each field once, the keys have its last direction, so they
sort alike exactly if no field is given another direction in the end than at first. A grouping that
repeats a key or the name of a result makes the same rows as with each of them once.
-/

namespace DocumentQuery

open Members (earliest firstNames get? names ofList)

section Sorting

/-- A sort key as a field with its direction. -/
def SortKey.entry (key : SortKey) : String × Direction := (key.field, key.direction)

/-- The sort key of a field with a direction. -/
def SortKey.ofEntry (entry : String × Direction) : SortKey := ⟨entry.1, entry.2⟩

/-- Sort keys with each field once, in its first place and with its last direction. -/
def SortKey.once (keys : List SortKey) : List SortKey :=
  (ofList (keys.map SortKey.entry)).map SortKey.ofEntry

/-- A sort key is that of its entry. -/
theorem SortKey.map_ofEntry (keys : List SortKey) :
    (keys.map SortKey.entry).map SortKey.ofEntry = keys := by
  rw [List.map_map]
  exact List.map_id keys

/-- The last key decides between rows that tie at the others. -/
theorem compareRows_concat (keys : List SortKey) (key : SortKey) (left right : Json) :
    compareRows (keys ++ [key]) left right =
      (compareRows keys left right).then (key.compare left right) := by
  induction keys with
  | nil => simp [compareRows_cons, compareRows]
  | cons first keys inductionHypothesis =>
    rw [List.cons_append, compareRows_cons, compareRows_cons, inductionHypothesis,
      Ordering.then_assoc]

/-- Rows are compared by the first key of each field. Those that tie at it tie at the others too,
which ask for the same values. -/
theorem compareRows_earliest (keys : List SortKey) (left right : Json) :
    compareRows ((earliest (keys.map SortKey.entry)).map SortKey.ofEntry) left right =
      compareRows keys left right := by
  induction keys using List.reverseRecOn with
  | nil => rfl
  | append_singleton keys key inductionHypothesis =>
    rw [List.map_append, List.map_singleton, Members.earliest_concat, compareRows_concat]
    split
    · next known =>
      rw [Members.names_earliest, Members.mem_firstNames] at known
      obtain ⟨entry, inside, field⟩ := List.mem_map.mp known
      obtain ⟨earlier, listed, rfl⟩ := List.mem_map.mp inside
      rw [inductionHypothesis]
      cases order : compareRows keys left right with
      | eq =>
        have ties : earlier.Ties left right :=
          (compareRows_eq_iff keys left right).mp order earlier listed
        have same : earlier.field = key.field := field
        rw [SortKey.Ties, same] at ties
        exact ((key.compare_eq_iff left right).mpr ties).symm
      | _ => rfl
    · rw [List.map_append, List.map_singleton, compareRows_concat, inductionHypothesis]
      rfl

/-- Sorting depends on the comparisons of rows only. -/
theorem sortRows_congr (keys others : List SortKey)
    (same : ∀ left right, compareRows keys left right = compareRows others left right) :
    sortRows keys = sortRows others := by
  have inserted (row : Json) (sorted : List Json) :
      insertRow keys row sorted = insertRow others row sorted := by
    induction sorted with
    | nil => rfl
    | cons last sorted inductionHypothesis =>
      rw [insertRow, insertRow, same, inductionHypothesis]
  funext rows
  simp only [sortRows, inserted]

/-- A document with a number at a path is like one with another number there at all other paths. At
those within which the path lies there are objects, which are not told apart, and at others
nothing. -/
theorem Json.compare_apart (path other : Path) (different : other ≠ path) (first second : Number) :
    compareOptional (get? other (set (.number first) path (.object [])))
      (get? other (set (.number second) path (.object []))) = .eq := by
  induction path generalizing other with
  | nil =>
    cases other with
    | nil => exact absurd rfl different
    | cons step other => rfl
  | cons step path inductionHypothesis =>
    cases other with
    | nil => rfl
    | cons next other =>
      by_cases same : next = step
      · subst same
        have inner := inductionHypothesis other fun same => different (same ▸ rfl)
        simpa [set, get?, member?, members, Members.insert, Members.get?] using inner
      · simp [set, get?, member?, members, Members.insert, Members.get?, Ne.symm same,
          compareOptional]

/-- The row with a number where a field leads. -/
def numbered (field : String) (number : Int) : Json :=
  (Json.object []).setAt field (.ofInt number)

/-- Rows with numbers at one field are compared by the first key of this field. All other keys tie,
since the rows have nothing at other fields. -/
theorem compareRows_numbered (field : String) (keys : List SortKey) :
    compareRows keys (numbered field 2) (numbered field 1) =
      match get? field (keys.map SortKey.entry) with
      | none => .eq
      | some .ascending => .gt
      | some .descending => .lt := by
  induction keys with
  | nil => rfl
  | cons key keys inductionHypothesis =>
    obtain ⟨other, direction⟩ := key
    rw [compareRows_cons]
    by_cases same : other = field
    · subst same
      have greater : Json.compareOptional ((numbered other 2).valueAt? other)
          ((numbered other 1).valueAt? other) = .gt := by
        rw [numbered, numbered, Json.valueAt_setAt_same, Json.valueAt_setAt_same]
        decide
      cases direction <;> simp [SortKey.compare, greater, SortKey.entry, get?]
    · have ties : (SortKey.mk other direction).Ties (numbered field 2) (numbered field 1) :=
        Json.compare_apart _ _ (fun paths => same (Path.ofText_injective other field paths)) _ _
      have equal := (SortKey.compare_eq_iff _ _ _).mpr ties
      simpa [equal, SortKey.entry, get?, same] using inductionHypothesis

/-- Two rows with numbers at one field change places exactly if the first key of this field is a
descending one. -/
theorem sortRows_numbered (field : String) (keys : List SortKey) :
    sortRows keys [numbered field 1, numbered field 2] =
        [numbered field 2, numbered field 1] ↔
      get? field (keys.map SortKey.entry) = some .descending := by
  have different : numbered field 1 ≠ numbered field 2 := by
    intro same
    have values := congrArg (Json.valueAt? · field) same
    simp [numbered, Json.valueAt_setAt_same, Json.ofInt] at values
  have order := compareRows_numbered field keys
  cases found : get? field (keys.map SortKey.entry) with
  | none => simp [sortRows, insertRow, order, found, different]
  | some direction => cases direction <;> simp [sortRows, insertRow, order, found, different]

/-- Whether the first direction of each field is its last one. Rows are sorted by the first, and a
document shows the last. -/
def SortKey.AreSteady (keys : List SortKey) : Prop :=
  ∀ key ∈ keys, get? key.field (keys.map SortKey.entry) =
    get? key.field (keys.map SortKey.entry).reverse

instance (keys : List SortKey) : Decidable (SortKey.AreSteady keys) :=
  inferInstanceAs (Decidable (∀ key ∈ keys, get? key.field (keys.map SortKey.entry) =
    get? key.field (keys.map SortKey.entry).reverse))

/-- Keys that are kept with each field once sort alike exactly if the first direction of each field
is its last one. There are only two directions, so it is enough to know for one of them whether the
field has it. -/
theorem sortRows_once_iff (keys : List SortKey) :
    (∀ rows, sortRows (SortKey.once keys) rows = sortRows keys rows) ↔ SortKey.AreSteady keys := by
  have missing (field : String) := Members.get_reverse_none field (keys.map SortKey.entry)
  constructor
  · intro alike key listed
    have entries : (SortKey.once keys).map SortKey.entry = ofList (keys.map SortKey.entry) := by
      rw [SortKey.once, List.map_map]
      exact List.map_id _
    have last := sortRows_numbered key.field (SortKey.once keys)
    rw [alike, sortRows_numbered, entries, Members.get_ofList] at last
    cases first : get? key.field (keys.map SortKey.entry) with
    | none => exact ((missing key.field).mp first).symm
    | some direction =>
      cases final : get? key.field (keys.map SortKey.entry).reverse with
      | none => exact absurd ((missing key.field).mpr final) (by simp [first])
      | some other => cases direction <;> cases other <;> simp [first, final] at last ⊢
  · intro steady rows
    have all (field : String) : get? field (keys.map SortKey.entry) =
        get? field (keys.map SortKey.entry).reverse := by
      by_cases listed : field ∈ names (keys.map SortKey.entry)
      · obtain ⟨entry, inside, rfl⟩ := List.mem_map.mp listed
        obtain ⟨key, present, rfl⟩ := List.mem_map.mp inside
        exact steady key present
      · have none := (Members.get_none_iff field _).mpr listed
        exact none.trans ((missing field).mp none).symm
    rw [SortKey.once, (Members.ofList_eq_earliest _).mpr all]
    exact congrFun (sortRows_congr _ _ (compareRows_earliest keys)) rows

end Sorting

section Grouping

/-- An accumulator as a name with an operator and its input. -/
def Accumulator.entry (accumulator : Accumulator) : String × String × Json :=
  (accumulator.name, accumulator.operator, accumulator.input)

/-- The accumulator of a name with an operator and its input. -/
def Accumulator.ofEntry (entry : String × String × Json) : Accumulator :=
  ⟨entry.1, entry.2.1, entry.2.2⟩

/-- Accumulators with each name once, in its first place and with its last operator and input. -/
def Accumulator.once (accumulators : List Accumulator) : List Accumulator :=
  (ofList (accumulators.map Accumulator.entry)).map Accumulator.ofEntry

/-- Accumulators are those of their entries. -/
theorem Accumulator.map_ofEntry (accumulators : List Accumulator) :
    (accumulators.map Accumulator.entry).map Accumulator.ofEntry = accumulators := by
  rw [List.map_map]
  exact List.map_id accumulators

/-- Whether an expression has a value on every row. -/
def Expression.IsTotal (expression : Json) : Prop :=
  ∀ row, ∃ value, Expression.evaluate row expression = .ok value

/-- What an operator with an input makes of rows, null standing for an input that fails. -/
def accumulated (rows : List Json) (computed : String × Json) : Json :=
  accumulate computed.1 (rows.map fun row =>
    (Expression.evaluate row computed.2).toOption.getD .null)

/-- Accumulators whose inputs have values on every row do not fail, and each computes its result
from these values without regard to the others. -/
theorem accumulateAll_total (rows : List Json) (entries : List (String × String × Json))
    (total : ∀ entry ∈ entries, Expression.IsTotal entry.2.2) :
    accumulateAll rows (entries.map Accumulator.ofEntry) =
      .ok (entries.map fun entry => (entry.1, accumulated rows entry.2)) := by
  induction entries with
  | nil => rfl
  | cons entry entries inductionHypothesis =>
    obtain ⟨first, others⟩ := List.forall_mem_cons.mp total
    have values : rows.mapM (fun row => Expression.evaluate row entry.2.2) =
        .ok (rows.map fun row => (Expression.evaluate row entry.2.2).toOption.getD .null) :=
      mapM_made _ _ rows fun row _ => by
        obtain ⟨value, made⟩ := first row
        rw [made]
        rfl
    rw [List.map_cons, accumulateAll, inductionHypothesis others]
    simp only [Accumulator.ofEntry, values, ok_bind]
    rfl

/-- A group makes the same row if each result is computed once, if none of them has the name of the
identity. -/
theorem RowGroup.row_once (accumulators : List Accumulator) (group : RowGroup)
    (total : ∀ accumulator ∈ accumulators, Expression.IsTotal accumulator.input)
    (apart : identityField ∉ accumulators.map Accumulator.name) :
    group.row (Accumulator.once accumulators) = group.row accumulators := by
  have totalEntries : ∀ entry ∈ accumulators.map Accumulator.entry,
      Expression.IsTotal entry.2.2 := List.forall_mem_map.mpr total
  have all := accumulateAll_total group.rows _ totalEntries
  have once := accumulateAll_total group.rows (ofList (accumulators.map Accumulator.entry))
    fun entry present => totalEntries entry (Members.mem_ofList _ entry present)
  rw [Accumulator.map_ofEntry] at all
  rw [← Members.ofList_map_values] at once
  have fresh : identityField ∉ names ((accumulators.map Accumulator.entry).map
      fun entry => (entry.1, accumulated group.rows entry.2)) := by
    simpa [names, Accumulator.entry] using apart
  rw [RowGroup.row, RowGroup.row, all, Accumulator.once, once, ok_bind, ok_bind,
    Members.ofList_cons _ _ _ fresh, Members.ofList_cons,
    Members.ofList_distinct _ (Members.distinct_ofList _)]
  rwa [Members.names_ofList, Members.mem_firstNames]

/-- The keys of a row are the same if each is listed once. -/
theorem groupKey_firstNames (keys : List String) (row : Json) :
    groupKey (firstNames keys) row = groupKey keys row := by
  have once := Members.ofList_distinct _
    (Members.distinct_ofList (keys.map fun key => (key, keyValue row key)))
  rw [Members.ofList_map] at once
  rw [groupKey_eq keys]
  exact congrArg Json.object once

/-- Rows fall into the same groups if each key is listed once. -/
theorem groupRows_firstNames (keys : List String) (rows : List Json) :
    groupRows (firstNames keys) rows = groupRows keys rows := by
  simp only [groupRows, groupKey_firstNames]

end Grouping

end DocumentQuery
