import DocumentQuery.Proofs.Execution.Answers
import DocumentQuery.Proofs.Pipeline.Aggregates
import DocumentQuery.Proofs.Store.Stamps
import DocumentQuery.Proofs.Text.Lists
import Mathlib.Data.List.Pairwise

/-!
# The keys of a group as fields

The row of a group holds its keys under the identity field, each as one member named by the whole
key. Flattening reads them back by paths. A key without dots is found that way. A dotted key is not:
its path leads into a member named by its first piece, which no group has, so the key becomes null.
-/

namespace DocumentQuery

/-- The path behind a name without dots. -/
theorem Path.ofText_behind (name text : String) (plain : '.' ∉ name.toList) :
    Path.ofText (name ++ "." ++ text) = name :: Path.ofText text := by
  have cut : (name ++ "." ++ text).toList = name.toList ++ '.' :: text.toList := by simp
  rw [Path.ofText, cut, Text.split_append '.' name.toList _ plain, List.map_cons,
    String.ofList_toList]
  rfl

/-- The first piece of a dotted text has no dots. -/
theorem Path.head_plain (text : String) : '.' ∉ (Path.head text).toList := by
  cases pieces : Text.split '.' text.toList with
  | nil => exact absurd pieces (Text.split_ne_nil '.' text.toList)
  | cons piece others =>
    have apart := Text.split_apart '.' text.toList piece (by simp [pieces])
    simpa [Path.head, Path.ofText, pieces] using apart

/-- Keys none of whose paths leads into another's. -/
def KeysApart (keys : List String) : Prop :=
  keys.Pairwise fun first second => (Path.ofText first).IsApart (Path.ofText second)

section Setting

variable (value : String → Json)

/-- A document with values set at some paths in turn. -/
def setEach (names : List String) (document : Json) : Json :=
  names.foldl (fun document name => document.setAt name (value name)) document

/-- What is reached at a path is the same after paths apart are set. -/
theorem reach_setEach_apart (names : List String) (path : Path) (document : Json)
    (apart : ∀ name ∈ names, path.IsApart (Path.ofText name)) :
    Json.reach? path (setEach value names document) = Json.reach? path document := by
  induction names generalizing document with
  | nil => rfl
  | cons name names inductionHypothesis =>
    obtain ⟨first, others⟩ := List.forall_mem_cons.mp apart
    exact (inductionHypothesis _ others).trans
      (Json.reach_set_apart path (Path.ofText name) document (value name) first)

/-- The values that are set at keys apart are all reached. -/
theorem reach_setEach (names : List String) (apart : KeysApart names) (document : Json)
    (name : String) (listed : name ∈ names) :
    Json.reach? (Path.ofText name) (setEach value names document) = some (value name) := by
  induction names generalizing document with
  | nil => exact absurd listed List.not_mem_nil
  | cons first names inductionHypothesis =>
    obtain ⟨head, others⟩ := List.pairwise_cons.mp apart
    rcases List.mem_cons.mp listed with rfl | later
    · exact (reach_setEach_apart value names _ _ head).trans
        (Json.reach_set_same (Path.ofText name) document (value name))
    · exact inductionHypothesis others _ later

/-- Fields that are computed are set in turn, and the fields behind them are treated as they would
be on what was set. -/
theorem keepFields_computed (row : Json) (names : List String) (expression : String → Json)
    (computes : ∀ name ∈ names, Expression.evaluate row (expression name) = .ok (value name))
    (others : Projection) (start : Json) :
    keepFields row (names.map (fun name => (name, Shape.computed (expression name))) ++ others)
        start =
      keepFields row others (setEach value names start) := by
  induction names generalizing start with
  | nil => rfl
  | cons name names inductionHypothesis =>
    obtain ⟨first, later⟩ := List.forall_mem_cons.mp computes
    have kept : keepField row start name (.computed (expression name)) =
        .ok (start.setAt name (value name)) := by
      rw [keepField, first]
      rfl
    rw [List.map_cons, List.cons_append, keepFields, kept, ok_bind, inductionHypothesis later]
    rfl

end Setting

variable (keys : List String) (first : Json)

/-- The value that flattening reads of a key. -/
def flattened (key : String) : Json := keyValue (groupKey keys first) key

/-- The value of a key without dots is read. -/
theorem flattened_plain (key : String) (listed : key ∈ keys) (plain : '.' ∉ key.toList) :
    flattened keys first key = keyValue first key := by
  rw [flattened, keyValue, groupKey_eq, Json.valueAt_member _ key plain,
    Members.get_map _ _ key ((Members.mem_firstNames keys key).mpr listed), Option.getD_some]

/-- A dotted key is not found, whatever its value: the first piece of the key would have to be a key
of its own, whose path leads into the other's, and the keys are apart. -/
theorem flattened_dotted (apart : KeysApart keys) (key : String) (listed : key ∈ keys)
    (dotted : '.' ∈ key.toList) : flattened keys first key = .null := by
  obtain ⟨step, rest, path⟩ := Path.ofText_cons key
  have plain : '.' ∉ step.toList := by simpa [Path.head, path] using Path.head_plain key
  have absent : step ∉ keys := by
    intro present
    have different : step ≠ key := fun same => plain (same ▸ dotted)
    have symmetric : Std.Symm fun first second : String =>
        (Path.ofText first).IsApart (Path.ofText second) := ⟨fun _ _ => And.symm⟩
    have within := (List.Pairwise.forall apart present listed different).1
    rw [Path.ofText_plain step plain, path] at within
    exact within ⟨rest, rfl⟩
  have nothing : Members.get? step
      ((Members.firstNames keys).map fun key => (key, keyValue first key)) = none := by
    refine Members.get_absent step _ fun named => absent ?_
    simpa [Members.names, Members.mem_firstNames] using named
  rw [flattened, keyValue, groupKey_eq, Json.valueAt?, path]
  simp only [Json.get?, nothing, Option.bind_none, Option.getD_none]

/-- Whether a result can stand beside keys: it is a field of its own. -/
structure IsBeside (name : String) : Prop where
  plain : '.' ∉ name.toList
  field : name ≠ identityField
  apart : ∀ key ∈ keys, Path.head key ≠ name

/-- The projection that flattens the keys of groups beside a result. The keys are read below the
identity, where grouping puts them, and the identity is dropped. -/
def flattening (name : String) : Projection :=
  keys.map (fun key => (key, Shape.computed (fieldReference (identityField ++ "." ++ key))))
    ++ [(name, .kept), (identityField, .dropped)]

namespace Combination

variable (aggregate : Aggregate) (combination : Combination)

/-- The row of a combination's group: the object of its keys, and the result of an aggregate. -/
def grouped : Json :=
  .object [(identityField, groupKey keys combination.first),
    (aggregate.name, aggregate.over combination.rows)]

/-- The row of a combination with the keys as fields, behind flattening. -/
def flat : Json :=
  (setEach (flattened keys combination.first) keys (.object [])).setAt aggregate.name
    (aggregate.over combination.rows)

/-- A row shows a combination: it has the value of every key without dots and null at every dotted
one, and the result of the aggregate over the rows of the combination. -/
structure IsShown (row : Json) : Prop where
  plain : ∀ key ∈ keys, '.' ∉ key.toList →
    row.valueAt? key = some (keyValue combination.first key)
  dotted : ∀ key ∈ keys, '.' ∈ key.toList → row.valueAt? key = some .null
  result : row.valueAt? aggregate.name = some (aggregate.over combination.rows)

/-- Grouping makes the row of the group. -/
theorem row_grouped (field : aggregate.name ≠ identityField)
    (small : combination.rows.length < 9000000000000000) :
    RowGroup.row [Plan.accumulator aggregate]
        ⟨groupKey keys combination.first, combination.rows⟩ =
      .ok (combination.grouped keys aggregate) := by
  have computed := accumulateAll_aggregate aggregate combination.rows small
  rw [RowGroup.row, computed, ok_bind, pure_eq_ok]
  simp [grouped, Members.ofList, Members.insert, field.symm]

/-- Flattening sets the keys that it reads, and the result. The keys are read below the identity of
the group, the result is kept from beside it, and the identity itself is dropped. -/
theorem projectRow_grouped (beside : IsBeside keys aggregate.name) :
    projectRow (flattening keys aggregate.name) (combination.grouped keys aggregate) =
      .ok (combination.flat keys aggregate) := by
  have computes (key : String) (_ : key ∈ keys) :
      Expression.evaluate (combination.grouped keys aggregate)
          (fieldReference (identityField ++ "." ++ key)) =
        .ok (flattened keys combination.first key) := by
    have path := Path.ofText_behind identityField key (by decide)
    rw [evaluate_reference, Json.valueAt?, path]
    simp [grouped, Json.get?, Members.get?, flattened, keyValue, Json.valueAt?]
  have found : (combination.grouped keys aggregate).valueAt? aggregate.name =
      some (aggregate.over combination.rows) := by
    rw [grouped, Json.valueAt_member _ aggregate.name beside.plain]
    simp [Members.get?, beside.field.symm]
  have drops : ((flattening keys aggregate.name).any fun entry =>
      entry.1 == identityField && !entry.2.isKept) = true := by
    simp [flattening, Shape.isKept]
  rw [projectRow_keeping _ _ true ⟨(aggregate.name, .kept), by simp [flattening], rfl⟩ drops,
    flattening, keepFields_computed _ _ _ _ computes]
  simp [keepFields, keepField, found, flat]

/-- The flat row shows the combination. Keys that stand apart do not overwrite each other, and the
result stands beside all of them, so each is read as it was set. -/
theorem flat_shows (apart : KeysApart keys) (beside : IsBeside keys aggregate.name) :
    combination.IsShown keys aggregate (combination.flat keys aggregate) := by
  have reads (key : String) (listed : key ∈ keys) :
      (combination.flat keys aggregate).valueAt? key =
        some (flattened keys combination.first key) := by
    refine Json.get_of_reach (Path.ofText key) _ _ ?_
    have own : (Path.ofText key).IsApart (Path.ofText aggregate.name) := by
      obtain ⟨step, rest, path⟩ := Path.ofText_cons key
      have different : step ≠ aggregate.name := by
        simpa [Path.head, path] using beside.apart key listed
      rw [path, Path.ofText_plain aggregate.name beside.plain]
      exact ⟨fun within => different (List.cons_prefix_cons.mp within).1,
        fun within => different (List.cons_prefix_cons.mp within).1.symm⟩
    exact (Json.reach_set_apart _ _ _ _ own).trans
      (reach_setEach _ keys apart (.object []) key listed)
  constructor
  · intro key listed plain
    rw [reads key listed, flattened_plain keys combination.first key listed plain]
  · intro key listed dotted
    rw [reads key listed, flattened_dotted keys combination.first apart key listed dotted]
  · exact Json.valueAt_setAt_same _ _ _

end Combination

/-- The stages of a grouping make one row of each combination, in order, that shows it. The first
stage makes the rows of the combinations, and the second flattens each of them. -/
theorem run_grouping (source : Pipeline.Source) (aggregate : Aggregate) (apart : KeysApart keys)
    (beside : IsBeside keys aggregate.name) (rows : List Json)
    (small : rows.length < 9000000000000000) :
    ∃ shown, Pipeline.run source (Plan.groupStages ⟨keys, [aggregate]⟩) rows = .ok shown ∧
      List.Forall₂ (Combination.IsShown keys aggregate) (combinations keys rows) shown := by
  have stages : Plan.groupStages ⟨keys, [aggregate]⟩ =
      [.group keys [Plan.accumulator aggregate],
        .project (flattening keys aggregate.name)] := by
    simp [Plan.groupStages, flattening]
  have grouped : (groupRows keys rows).mapM (RowGroup.row [Plan.accumulator aggregate]) =
      .ok ((combinations keys rows).map (Combination.grouped keys aggregate)) := by
    rw [groupRows_eq, mapM_ok_iff, List.forall₂_map_left_iff, List.forall₂_map_right_iff,
      List.forall₂_same]
    intro combination listed
    have fewer := ((combinations_are keys rows).rowsInOrder combination listed).length_le
    exact combination.row_grouped keys aggregate beside.field (Nat.lt_of_le_of_lt fewer small)
  have projected : ((combinations keys rows).map (Combination.grouped keys aggregate)).mapM
        (projectRow (flattening keys aggregate.name)) =
      .ok ((combinations keys rows).map (Combination.flat keys aggregate)) := by
    rw [mapM_ok_iff, List.forall₂_map_left_iff, List.forall₂_map_right_iff, List.forall₂_same]
    exact fun combination _ => combination.projectRow_grouped keys aggregate beside
  refine ⟨(combinations keys rows).map (Combination.flat keys aggregate), ?_, ?_⟩
  · simp only [stages, Pipeline.run, Stage.run, grouped, projected, Pipeline.ofExpression,
      mapError_ok, ok_bind]
  · rw [List.forall₂_map_right_iff, List.forall₂_same]
    exact fun combination _ => combination.flat_shows keys aggregate apart beside

end DocumentQuery
