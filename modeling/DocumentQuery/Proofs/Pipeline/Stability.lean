import DocumentQuery.Proofs.Json.Sameness
import DocumentQuery.Proofs.Pipeline.Sorting

/-!
# The one order of rows

Keys put one row before another if the first key at which the two do not tie does: an ascending key
the row with the lower value, a descending one the row with the higher, where a missing value is the
lowest. Where all numbers at the keys are signed integers, rows have exactly one arrangement in
which no row is put before an earlier one and rows that tie at all keys stand as they stood. Sorting
finds it, so it does not matter by which stable method rows are sorted.
-/

namespace DocumentQuery

namespace SortKey

/-- Whether two rows have values at a key that are not told apart. -/
def Ties (key : SortKey) (first second : Json) : Prop :=
  Json.compareOptional (first.valueAt? key.field) (second.valueAt? key.field) = .eq

/-- Whether a key puts a row before another: an ascending key the one with the lower value, and a
descending key the one with the higher value. -/
def PutsBefore (key : SortKey) (first second : Json) : Prop :=
  match key.direction with
  | .ascending => Json.compareOptional (first.valueAt? key.field) (second.valueAt? key.field) = .lt
  | .descending => Json.compareOptional (second.valueAt? key.field) (first.valueAt? key.field) = .lt

instance (key : SortKey) (first second : Json) : Decidable (key.Ties first second) :=
  inferInstanceAs (Decidable (_ = _))

/-- Rows that tie at a key are those that compare equal there. -/
theorem compare_eq_iff (key : SortKey) (first second : Json) :
    key.compare first second = .eq ↔ key.Ties first second := by
  unfold SortKey.compare Ties
  cases key.direction with
  | ascending => rfl
  | descending => exact Ordering.swap_eq_eq

/-- A key puts a row before those that it compares less than. -/
theorem compare_lt_iff (key : SortKey) (first second : Json) :
    key.compare first second = .lt ↔ key.PutsBefore first second := by
  unfold SortKey.compare PutsBefore
  cases key.direction with
  | ascending => rfl
  | descending =>
    dsimp only
    rw [Json.compareOptional_swap (first.valueAt? key.field), Ordering.swap_eq_lt]

/-- A missing value is the lowest, so an ascending key puts the row without it first, and a
descending key last. -/
theorem missing_lowest (key : SortKey) (bare full : Json) (value : Json)
    (missing : bare.valueAt? key.field = none) (present : full.valueAt? key.field = some value) :
    match key.direction with
    | .ascending => key.PutsBefore bare full
    | .descending => key.PutsBefore full bare := by
  have lowest : Json.compareOptional (bare.valueAt? key.field) (full.valueAt? key.field) = .lt := by
    rw [missing, present]
    rfl
  cases direction : key.direction <;> simpa only [PutsBefore, direction] using lowest

end SortKey

/-- Whether two rows tie at all keys. -/
def Tied (keys : List SortKey) (first second : Json) : Prop :=
  ∀ key ∈ keys, key.Ties first second

instance (keys : List SortKey) (first second : Json) : Decidable (Tied keys first second) :=
  inferInstanceAs (Decidable (∀ key ∈ keys, key.Ties first second))

/-- Whether keys put a row before another: the first key at which they do not tie does. -/
inductive Precedes : List SortKey → Json → Json → Prop where
  | here {key : SortKey} {keys : List SortKey} {first second : Json}
      (before : key.PutsBefore first second) : Precedes (key :: keys) first second
  | later {key : SortKey} {keys : List SortKey} {first second : Json}
      (ties : key.Ties first second) (others : Precedes keys first second) :
      Precedes (key :: keys) first second

/-- Whether a list is an arrangement of rows that keys ask for: it has the same rows, none of which
is put before an earlier one, and those that tie at all keys stand in it as in the rows. -/
structure IsArrangement (keys : List SortKey) (rows arranged : List Json) : Prop where
  complete : arranged.Perm rows
  inOrder : arranged.Pairwise fun earlier later =>
    Precedes keys earlier later ∨ Tied keys earlier later
  stable : ∀ row ∈ rows, arranged.filter (Tied keys row ·) = rows.filter (Tied keys row ·)

variable (keys : List SortKey)

/-- Rows that tie at all keys are those that compare equal. -/
theorem compareRows_eq_iff (first second : Json) :
    compareRows keys first second = .eq ↔ Tied keys first second := by
  induction keys with
  | nil => simp [compareRows, Tied]
  | cons key keys inductionHypothesis =>
    rw [compareRows_cons, Ordering.then_eq_eq, inductionHypothesis, key.compare_eq_iff, Tied, Tied,
      List.forall_mem_cons]

/-- Keys put a row before those that it compares less than: the first key that does not tie decides
in the order of its direction. -/
theorem compareRows_lt_iff (first second : Json) :
    compareRows keys first second = .lt ↔ Precedes keys first second := by
  induction keys with
  | nil =>
    simp only [compareRows, reduceCtorEq, false_iff]
    intro before
    cases before
  | cons key keys inductionHypothesis =>
    rw [compareRows_cons, Ordering.then_eq_lt, inductionHypothesis, key.compare_lt_iff,
      key.compare_eq_iff]
    constructor
    · rintro (before | ⟨ties, others⟩)
      · exact .here before
      · exact .later ties others
    · rintro (before | ⟨ties, others⟩)
      · exact .inl before
      · exact .inr ⟨ties, others⟩

/-- One row is put before another or ties with it exactly if it does not compare greater. -/
theorem compareRows_ne_gt_iff (first second : Json) :
    compareRows keys first second ≠ .gt ↔
      Precedes keys first second ∨ Tied keys first second := by
  rw [← compareRows_lt_iff, ← compareRows_eq_iff]
  cases compareRows keys first second <;> decide

/-- Two rows of which neither compares greater tie. -/
theorem tied_of_neither (first second : Json) (forth : compareRows keys first second ≠ .gt)
    (back : compareRows keys second first ≠ .gt) : Tied keys first second := by
  rw [compareRows_swap keys first second] at back
  rw [← compareRows_eq_iff]
  cases order : compareRows keys first second with
  | eq => rfl
  | gt => exact absurd order forth
  | lt => exact absurd (congrArg Ordering.swap order) back

/-- A row ties with itself. -/
theorem tied_self (row : Json) : Tied keys row row := by
  have reversed := compareRows_swap keys row row
  rw [← compareRows_eq_iff]
  cases order : compareRows keys row row <;> simp [order] at reversed ⊢

/-- Lists of the same rows in order, in which rows that tie stand alike, are the same list. Their
first rows tie, since neither compares greater, and so they are the first of the rows that tie. -/
theorem arranged_unique (firsts seconds : List Json) (same : firsts.Perm seconds)
    (firstsInOrder : firsts.Pairwise fun earlier later => compareRows keys earlier later ≠ .gt)
    (secondsInOrder : seconds.Pairwise fun earlier later => compareRows keys earlier later ≠ .gt)
    (alike : ∀ row ∈ firsts, firsts.filter (Tied keys row ·) = seconds.filter (Tied keys row ·)) :
    firsts = seconds := by
  induction firsts generalizing seconds with
  | nil => exact same.nil_eq
  | cons first firsts inductionHypothesis =>
    cases seconds with
    | nil => exact absurd same.length_eq (by simp)
    | cons second seconds =>
      obtain ⟨firstLeast, firstsLater⟩ := List.pairwise_cons.mp firstsInOrder
      obtain ⟨secondLeast, secondsLater⟩ := List.pairwise_cons.mp secondsInOrder
      have itself (row : Json) : compareRows keys row row ≠ .gt := by
        rw [(compareRows_eq_iff keys row row).mpr (tied_self keys row)]
        decide
      have forth : compareRows keys first second ≠ .gt := by
        rcases List.mem_cons.mp (same.mem_iff.mpr List.mem_cons_self) with rfl | later
        · exact itself second
        · exact firstLeast second later
      have back : compareRows keys second first ≠ .gt := by
        rcases List.mem_cons.mp (same.mem_iff.mp List.mem_cons_self) with rfl | later
        · exact itself first
        · exact secondLeast first later
      have ties := tied_of_neither keys first second forth back
      have heads := alike first List.mem_cons_self
      simp only [List.filter_cons, tied_self, ties, decide_true, if_true] at heads
      obtain ⟨rfl, -⟩ := List.cons.inj heads
      refine congrArg _ (inductionHypothesis seconds same.cons_inv firstsLater secondsLater ?_)
      intro row later
      have whole := alike row (List.mem_cons_of_mem first later)
      by_cases inFront : Tied keys row first
      · simpa only [List.filter_cons, inFront, decide_true, if_true, List.cons.injEq, true_and]
          using whole
      · simpa only [List.filter_cons, inFront, decide_false, Bool.false_eq_true, if_false]
          using whole

section Clear

variable {among : Number → Prop} (clear : Number.Clear among)

include clear

/-- An inserted row stands in front of those that it ties with. The rows that are passed over are
greater, so none of them ties with it. -/
theorem insertRow_tied (row other : Json) (sorted : List Json)
    (isRow : SortsBy among keys row) (isOther : SortsBy among keys other)
    (areRows : ∀ later ∈ sorted, SortsBy among keys later) :
    (insertRow keys row sorted).filter (Tied keys other ·) =
      (row :: sorted).filter (Tied keys other ·) := by
  induction sorted with
  | nil => rfl
  | cons last others inductionHypothesis =>
    have remaining := inductionHypothesis fun later inside => areRows later (.tail last inside)
    unfold insertRow
    split
    · next greater =>
      rw [List.filter_cons, remaining]
      by_cases ties : Tied keys other row
      · have together := compareRows_goTogether clear keys other row last isOther isRow
          (areRows last List.mem_cons_self)
        rw [(compareRows_eq_iff keys other row).mpr ties, greater] at together
        have apart : ¬ Tied keys other last := by
          rw [← compareRows_eq_iff, together (by decide) (by decide)]
          decide
        simp [ties, apart]
      · simp [List.filter_cons, ties]
    · rfl

/-- Sorting keeps the order of the rows that tie with one of them. Insertion puts a row behind those
that it ties with, and the induction follows the tied rows through all insertions. -/
theorem sortRows_tied (other : Json) (rows : List Json) (isOther : SortsBy among keys other)
    (areRows : ∀ row ∈ rows, SortsBy among keys row) :
    (sortRows keys rows).filter (Tied keys other ·) = rows.filter (Tied keys other ·) := by
  have folded (sorted : List Json) (areSorted : ∀ row ∈ sorted, SortsBy among keys row) :
      (rows.foldl (fun sorted row => insertRow keys row sorted) sorted).filter
          (Tied keys other ·) =
        (rows.reverse ++ sorted).filter (Tied keys other ·) := by
    induction rows generalizing sorted with
    | nil => rfl
    | cons row rows inductionHypothesis =>
      have isRow := areRows row List.mem_cons_self
      have inserted : ∀ later ∈ insertRow keys row sorted, SortsBy among keys later := by
        intro later inside
        rcases List.mem_cons.mp ((insertRow_perm keys row sorted).mem_iff.mp inside) with
          rfl | inside
        · exact isRow
        · exact areSorted later inside
      rw [List.foldl_cons, inductionHypothesis (fun row later => areRows row (.tail _ later)) _
        inserted, List.filter_append, insertRow_tied keys clear row other sorted isRow isOther
        areSorted, ← List.filter_append, List.reverse_cons, List.append_assoc]
      rfl
  rw [sortRows, List.filter_reverse, folded [] (by simp), List.append_nil, List.filter_reverse,
    List.reverse_reverse]

end Clear

/-- Whether a number is held as a 64-bit signed integer. -/
def Number.IsSigned (number : Number) : Prop := number.signed?.isSome

/-- Signed integers are compared as integers, so none of them blurs two others. -/
theorem Number.clear_signed : Number.Clear Number.IsSigned := by
  intro between left right isBetween _ _ blurs
  rw [IsSigned, blurs.unsigned] at isBetween
  exact absurd isBetween (by decide)

/-- Rows whose numbers at the keys are signed integers, at any depth of arrays, have one arrangement
that the keys ask for, and sorting finds it. A row without the value at a key is put first by an
ascending key and last by a descending one.

Proof: sorting keeps the rows, puts them in order, and leaves rows that tie as they stood, because a
row is inserted behind those that are not greater. By `arranged_unique` lists with these properties
are one list: neither of their first rows compares greater, so these tie, and both stand in front of
the rows that tie with them. -/
theorem arrangement_unique (rows arranged : List Json)
    (signed : ∀ row ∈ rows, SortsBy Number.IsSigned keys row) :
    (IsArrangement keys rows arranged ↔ arranged = sortRows keys rows) ∧
    ∀ key ∈ keys, ∀ bare full value, bare.valueAt? key.field = none →
      full.valueAt? key.field = some value →
        match key.direction with
        | .ascending => key.PutsBefore bare full
        | .descending => key.PutsBefore full bare := by
  have complete := sortRows_perm keys rows
  have inOrder := sortRows_sorted Number.clear_signed keys rows signed
  have stable : ∀ row ∈ rows,
      (sortRows keys rows).filter (Tied keys row ·) = rows.filter (Tied keys row ·) :=
    fun row inside => sortRows_tied keys Number.clear_signed row rows (signed row inside) signed
  refine ⟨⟨?_, ?_⟩, fun key _ => key.missing_lowest⟩
  · intro arrangement
    refine arranged_unique keys arranged _ (arrangement.complete.trans complete.symm) ?_ inOrder ?_
    · exact arrangement.inOrder.imp (compareRows_ne_gt_iff keys _ _).mpr
    · intro row inside
      have listed := arrangement.complete.mem_iff.mp inside
      rw [arrangement.stable row listed, stable row listed]
  · rintro rfl
    exact ⟨complete, inOrder.imp (compareRows_ne_gt_iff keys _ _).mp, stable⟩

/-- Parcels with the sizes they have been packed in and a shelf. The first and the fourth tie. -/
def parcels : List Json :=
  [.object [("_id", .ofInt 1), ("sizes", .array [.ofInt 1, .ofInt 2]), ("shelf", "b")],
    .object [("_id", .ofInt 2), ("sizes", .array [.ofInt 1, .ofInt 2]), ("shelf", "a")],
    .object [("_id", .ofInt 3), ("shelf", "a")],
    .object [("_id", .ofInt 4), ("sizes", .array [.ofInt 1, .ofInt 2]), ("shelf", "b")],
    .object [("_id", .ofInt 5), ("sizes", .array [.ofInt 1]), ("shelf", "b")],
    .object [("_id", .ofInt 6), ("sizes", .array [.ofInt 1])]]

/-- The parcels by descending sizes and ascending shelves: the one without sizes comes last, and of
those of one size the one without a shelf comes first. -/
theorem parcels_arranged :
    let keys : List SortKey := [⟨"sizes", .descending⟩, ⟨"shelf", .ascending⟩]
    (∀ row ∈ parcels, SortsBy Number.IsSigned keys row) ∧
    IsArrangement keys parcels (sortRows keys parcels) ∧
    (sortRows keys parcels).map (Json.member? "_id") =
      [2, 1, 4, 6, 5, 3].map fun number => some (.ofInt number) := by
  intro keys
  have checked : (parcels.all fun row => keys.all fun key =>
      ((row.valueAt? key.field).elim [] Json.numbers).all fun number => number.signed?.isSome) =
        true := by
    decide +kernel
  have signed : ∀ row ∈ parcels, SortsBy Number.IsSigned keys row := by
    intro row inside key isKey present found number listed
    have atKey := List.all_eq_true.mp (List.all_eq_true.mp checked row inside) key isKey
    rw [Option.mem_def.mp found] at atKey
    exact List.all_eq_true.mp atKey number listed
  exact ⟨signed, (arrangement_unique keys parcels _ signed).1.mpr rfl, by decide +kernel⟩

end DocumentQuery
