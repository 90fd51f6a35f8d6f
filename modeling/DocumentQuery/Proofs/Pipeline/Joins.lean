import DocumentQuery.Plan.Basic
import DocumentQuery.Proofs.Json.Path
import DocumentQuery.Proofs.Pipeline.Lengths

/-!
# How many rows joins make

A join takes every row for itself. It finds the row's partners in another collection and puts the
list of them into the row. Who is a partner is told by three rules: a value that is missing or null
finds those without a value, an array finds those that one of its items equals, and any other value
finds those that it equals. Where the join is single the list is taken apart, so the row becomes as
many rows as it has partners, and stays one row if it has none. The rows of a page are therefore as
many behind the joins as before exactly if no single join finds several partners of a row.
-/

namespace DocumentQuery

/-- Which values of other rows the value of a row finds. A missing value of another row counts as
null, also for the items of an array and for objects. -/
inductive Join.Finds : Option Json → Option Json → Prop where
  /-- A missing value finds no value. -/
  | missing {foreignValue : Option Json} (empty : foreignValue.getD .null = .null) :
      Finds none foreignValue
  /-- So does null. -/
  | null {foreignValue : Option Json} (empty : foreignValue.getD .null = .null) :
      Finds (some .null) foreignValue
  /-- An array finds what equals one of its items. -/
  | item {items : List Json} {item : Json} {foreignValue : Option Json} (present : item ∈ items)
      (same : item.equal (foreignValue.getD .null) = true) :
      Finds (some (.array items)) foreignValue
  /-- Any other value finds what equals it. -/
  | single {value : Json} {foreignValue : Option Json} (given : value ≠ .null)
      (whole : ∀ items, value ≠ .array items)
      (same : value.equal (foreignValue.getD .null) = true) : Finds (some value) foreignValue

/-- Values are matched exactly by the rules of what a join finds: the program's case distinction on
the local value is the one of the rules. -/
theorem Join.matches_iff (localValue foreignValue : Option Json) :
    Join.matches localValue foreignValue = true ↔ Join.Finds localValue foreignValue := by
  have empty : (foreignValue.getD .null).isNull = true ↔ foreignValue.getD .null = .null := by
    cases foreignValue.getD .null <;> simp [Json.isNull]
  constructor
  · intro found
    cases localValue with
    | none => exact .missing (empty.mp found)
    | some value =>
      cases value with
      | null => exact .null (empty.mp found)
      | array items =>
        obtain ⟨item, present, same⟩ := List.any_eq_true.mp found
        exact .item present same
      | _ => exact .single nofun nofun found
  · intro finds
    cases finds with
    | missing absent => exact empty.mpr absent
    | null absent => exact empty.mpr absent
    | item present same => exact List.any_eq_true.mpr ⟨_, present, same⟩
    | @single value _ given whole same =>
      cases value with
      | null => exact absurd rfl given
      | array items => exact absurd rfl (whole items)
      | _ => exact same

instance (localValue foreignValue : Option Json) : Decidable (Join.Finds localValue foreignValue) :=
  decidable_of_iff _ (Join.matches_iff localValue foreignValue)

namespace Expansion

variable (source : Pipeline.Source) (expansion : Expansion) (row : Json)

/-- The join of an expansion. -/
def join : Join :=
  ⟨expansion.collection, expansion.localField, expansion.foreignField, expansion.outputField⟩

/-- The rows of the other collection that an expansion finds for a row, as they are stored. -/
def partners : List Json :=
  (source expansion.collection).filter fun other =>
    Join.Finds (row.valueAt? expansion.localField) (other.valueAt? expansion.foreignField)

/-- The join of an expansion puts the list of its partners into a row. -/
theorem join_row : expansion.join.row (source expansion.collection) row =
    row.setAt expansion.outputField (.array (expansion.partners source row)) := by
  have rules (other : Json) : decide (Join.Finds (row.valueAt? expansion.localField)
      (other.valueAt? expansion.foreignField)) = Join.matches
        (row.valueAt? expansion.localField) (other.valueAt? expansion.foreignField) :=
    Bool.eq_iff_iff.mpr (decide_eq_true_iff.trans (Join.matches_iff _ _).symm)
  simp only [partners, rules]
  rfl

/-- The rows that a row becomes by an expansion: one with all partners in an array, or one for each
partner where a single one is expected. -/
def rowsOf : List Json :=
  let joined := expansion.join.row (source expansion.collection) row
  if expansion.single then unwindRow expansion.outputField true joined else [joined]

/-- A row becomes one row for each of its partners if the join is single, and else one row; it
becomes one row also if it has no partner. -/
theorem rowsOf_length : (expansion.rowsOf source row).length =
    if expansion.single then max 1 (expansion.partners source row).length else 1 := by
  have found : (expansion.join.row (source expansion.collection) row).valueAt?
      expansion.outputField = some (.array (expansion.partners source row)) := by
    rw [join_row, Json.valueAt_setAt_same]
  unfold rowsOf
  split
  · rw [unwindRow, found]
    cases expansion.partners source row with
    | nil => rfl
    | cons partner partners =>
      rw [List.length_map, List.length_cons]
      omega
  · rfl

/-- No row is lost by an expansion. -/
theorem rowsOf_ne_nil : expansion.rowsOf source row ≠ [] := by
  intro none
  have length := expansion.rowsOf_length source row
  rw [none, List.length_nil] at length
  split at length <;> omega

/-- The stages of an expansion turn every row into its rows. A join of a single partner is followed
by a stage that unwinds the partners, and any other join shows all of them in one array. -/
theorem run_stages (rows : List Json) :
    Pipeline.run source (Plan.expansionStages expansion) rows =
      .ok (rows.flatMap (expansion.rowsOf source)) := by
  cases single : expansion.single with
  | true =>
    have taken : expansion.rowsOf source = fun row => unwindRow expansion.outputField true
        (expansion.join.row (source expansion.collection) row) := by
      funext row
      simp only [rowsOf, single, if_true]
    rw [taken]
    simp [Plan.expansionStages, single, Pipeline.run, Stage.run, join, List.flatMap_map]
  | false =>
    have alone : expansion.rowsOf source = fun row =>
        [expansion.join.row (source expansion.collection) row] := by
      funext row
      simp [rowsOf, single]
    rw [alone, ← List.map_eq_flatMap]
    simp [Plan.expansionStages, single, Pipeline.run, Stage.run, join]

end Expansion

/-- The rows that a row becomes by expansions in turn, each of which is applied to all rows that the
ones before it have made. -/
def expandRow (source : Pipeline.Source) : List Expansion → Json → List Json
  | [], row => [row]
  | expansion :: expansions, row =>
    (expansion.rowsOf source row).flatMap (expandRow source expansions)

/-- Whether no single join finds several partners of a row, or of a row that it has become by the
joins before. -/
def JoinsAlone (source : Pipeline.Source) : List Expansion → Json → Prop
  | [], _ => True
  | expansion :: expansions, row =>
    (expansion.single = true → (expansion.partners source row).length ≤ 1) ∧
      ∀ next ∈ expansion.rowsOf source row, JoinsAlone source expansions next

section Expansions

variable (source : Pipeline.Source)

/-- The stages of expansions turn every row into its rows. -/
theorem run_expansions (expansions : List Expansion) (rows : List Json) :
    Pipeline.run source (expansions.flatMap Plan.expansionStages) rows =
      .ok (rows.flatMap (expandRow source expansions)) := by
  induction expansions generalizing rows with
  | nil => simp [Pipeline.run, expandRow]
  | cons expansion expansions inductionHypothesis =>
    rw [List.flatMap_cons, Pipeline.run_append, expansion.run_stages, ok_bind, inductionHypothesis,
      List.flatMap_assoc]
    rfl

/-- Lists that are put together from lists that are not empty have no fewer items than lists are
put together. -/
theorem length_le_flatMap (rows : List Json) (next : Json → List Json)
    (kept : ∀ row ∈ rows, next row ≠ []) : rows.length ≤ (rows.flatMap next).length := by
  induction rows with
  | nil => exact Nat.le_refl _
  | cons row rows inductionHypothesis =>
    have first := List.length_pos_iff.mpr (kept row List.mem_cons_self)
    have others := inductionHypothesis fun other later =>
      kept other (List.mem_cons_of_mem row later)
    rw [List.flatMap_cons, List.length_append, List.length_cons]
    omega

/-- Lists that are made of some items each have as many together exactly if each has one: none has
fewer, so that no surplus can be made up for. -/
theorem length_flatMap_eq_iff (rows : List Json) (next : Json → List Json)
    (kept : ∀ row ∈ rows, next row ≠ []) :
    (rows.flatMap next).length = rows.length ↔ ∀ row ∈ rows, (next row).length = 1 := by
  induction rows with
  | nil => simp
  | cons row rows inductionHypothesis =>
    have others : ∀ other ∈ rows, next other ≠ [] :=
      fun other later => kept other (List.mem_cons_of_mem row later)
    have first := List.length_pos_iff.mpr (kept row List.mem_cons_self)
    have least := length_le_flatMap rows next others
    rw [List.flatMap_cons, List.length_append, List.length_cons, List.forall_mem_cons,
      ← inductionHypothesis others]
    omega

/-- No row is lost by expansions. -/
theorem expandRow_ne_nil (expansions : List Expansion) (row : Json) :
    expandRow source expansions row ≠ [] := by
  induction expansions generalizing row with
  | nil => exact List.cons_ne_nil row []
  | cons expansion expansions inductionHypothesis =>
    obtain ⟨next, others, rows⟩ := List.exists_cons_of_ne_nil (expansion.rowsOf_ne_nil source row)
    rw [expandRow, rows, List.flatMap_cons]
    exact List.append_ne_nil_of_left_ne_nil (inductionHypothesis next) _

/-- A row stays one row by expansions exactly if no single join finds several partners of it. As
no row is ever lost, the rows are one only if the first expansion makes one and the others keep
it one. -/
theorem expandRow_alone_iff (expansions : List Expansion) (row : Json) :
    (expandRow source expansions row).length = 1 ↔ JoinsAlone source expansions row := by
  induction expansions generalizing row with
  | nil => simp [expandRow, JoinsAlone]
  | cons expansion expansions inductionHypothesis =>
    have counted := expansion.rowsOf_length source row
    have least := length_le_flatMap (expansion.rowsOf source row) (expandRow source expansions)
      fun next _ => expandRow_ne_nil source expansions next
    have exactly := length_flatMap_eq_iff (expansion.rowsOf source row)
      (expandRow source expansions) fun next _ => expandRow_ne_nil source expansions next
    have present := List.length_pos_iff.mpr (expansion.rowsOf_ne_nil source row)
    have singly : (expansion.single = true → (expansion.partners source row).length ≤ 1) ↔
        (expansion.rowsOf source row).length = 1 := by
      rw [counted]
      split
      · next single => simp only [single, forall_const]; omega
      · next plural => simp [plural]
    simp only [expandRow, JoinsAlone, singly, ← inductionHypothesis, ← exactly]
    omega

end Expansions

end DocumentQuery
