import DocumentQuery.Proofs.Compute.Simulation
import DocumentQuery.Proofs.Pipeline.RepeatedFields
import DocumentQuery.Proofs.Plan.Documents

/-!
# What the document of a plan means

A store that is sent the document of a plan reads each stage with each name once. That is the stage
which the plan runs, if the lists of the query lose nothing but repetitions: no field is sorted by
in another direction at the end than at first, a selected field that is repeated is not changed by
the others, and the names of a grouping are told apart. The document shows the last direction of a
field that is sorted by in both, while rows are sorted by the first.
-/

namespace DocumentQuery

open Members (names ofList)

/-- Whether a stage makes of all rows what another makes of them. -/
def Stage.RunsAs (stage other : Stage) : Prop :=
  ∀ source rows, stage.run source rows = other.run source rows

/-- Whether the lists of a stage lose nothing but repetitions if they have each name once. -/
def Stage.IsSteady : Stage → Prop
  | .group _ accumulators => ∀ accumulator ∈ accumulators, Expression.IsTotal accumulator.input
  | .project projection => projection.IsSteady
  | .compute fields => (names fields).Nodup
  | .sort keys => SortKey.AreSteady keys
  | _ => True

/-- A steady stage whose document can be read runs as it does with each name once. Stages without a
table of names are unchanged; each of the others has its own law of repeated names. -/
theorem Stage.once_runsAs (stage : Stage) (readable : stage.IsReadable) (steady : stage.IsSteady) :
    stage.once.RunsAs stage := by
  intro source rows
  cases stage with
  | group keys accumulators =>
    have row : RowGroup.row (Accumulator.once accumulators) = RowGroup.row accumulators :=
      funext fun group => group.row_once accumulators steady readable
    simp only [once, run, groupRows_firstNames, row]
  | project projection =>
    have row : projectRow (ofList projection) = projectRow projection :=
      funext fun row => Projection.IsSteady.projectRow_once steady row
    simp only [once, run, row]
  | compute fields => rw [once, Members.ofList_distinct fields steady]
  | sort keys =>
    exact congrArg Except.ok ((sortRows_once_iff keys).mpr steady rows)
  | _ => rfl

/-- Stages that run as others in turn make the same of all rows together. -/
theorem Pipeline.run_as (source : Source) (stages others : List Stage)
    (alike : List.Forall₂ Stage.RunsAs stages others) (rows : List Json) :
    Pipeline.run source stages rows = Pipeline.run source others rows := by
  induction alike generalizing rows with
  | nil => rfl
  | cons first _ inductionHypothesis =>
    rw [Pipeline.run, Pipeline.run, first]
    exact congrArg _ (funext inductionHypothesis)

/-- Whether a stage is shown as it is run: its document can be read, and its lists lose nothing but
repetitions in it. -/
def Stage.IsShown (stage : Stage) : Prop := stage.IsReadable ∧ stage.IsSteady

/-- What clauses set is shown, since each stage sets one field. -/
theorem Compute.SetsOne.isShown {stage : Stage} (sets : SetsOne stage) : stage.IsShown := by
  cases sets with
  | set name expression => exact ⟨trivial, List.nodup_singleton name⟩
  | unset fields => exact ⟨trivial, trivial⟩

namespace Query

/-- Whether the selected fields that are repeated are shown as the row has them: each other field
leads elsewhere, or neither path goes through an array. -/
def SelectsSteadily (fields : List String) : Prop :=
  ∀ field ∈ fields, fields.Duplicate field → ∀ other ∈ fields, other = field ∨
    (Path.ofText field).IsApart (Path.ofText other) ∨
      (Path.ofText field).HasNoIndex ∧ (Path.ofText other).HasNoIndex

instance (fields : List String) : Decidable (SelectsSteadily fields) :=
  inferInstanceAs (Decidable (∀ field ∈ fields, fields.Duplicate field → ∀ other ∈ fields,
    other = field ∨ (Path.ofText field).IsApart (Path.ofText other) ∨
      (Path.ofText field).HasNoIndex ∧ (Path.ofText other).HasNoIndex))

/-- The projection of a steady selection is shown as it is run. A field that is selected twice is
kept twice from the same row, and dropping the identity at the end touches none of the others. -/
theorem selection_isShown (fields : List String) (steadily : SelectsSteadily fields)
    (projection : Projection) (selects : Plan.selection? fields = some projection) :
    (Stage.project projection).IsShown := by
  unfold Plan.selection? at selects
  split at selects
  · exact absurd selects (by simp)
  · next listed =>
    obtain rfl := Option.some.inj selects
    have names_kept : names (fields.map fun field => (field, Shape.kept)) = fields := by
      rw [names, List.map_map]
      exact List.map_id fields
    have steady : Projection.IsSteady (fields.map fun field => (field, Shape.kept)) :=
      { shows := by
          obtain ⟨field, rest, rfl⟩ := List.exists_cons_of_ne_nil (by simpa using listed)
          exact ⟨(field, .kept), List.mem_cons_self, rfl⟩
        harmless := by
          rw [names_kept]
          intro entry first repeated other second
          obtain ⟨field, listed, rfl⟩ := List.mem_map.mp first
          obtain ⟨beside, inside, rfl⟩ := List.mem_map.mp second
          rcases steadily field listed repeated beside inside with rfl | apart | ⟨path, otherPath⟩
          · exact .same rfl
          · exact .apart apart
          · exact .kept rfl rfl path otherPath }
    have readable : ∀ entry ∈ fields.map fun field => (field, Shape.kept),
        entry.2.IsReadable := List.forall_mem_map.mpr fun _ _ => Shape.kept_readable
    split
    · exact ⟨readable, steady⟩
    · next absent =>
      refine ⟨List.forall_mem_append.mpr
        ⟨readable, List.forall_mem_singleton.mpr Shape.dropped_readable⟩,
        steady.dropping identityField ?_⟩
      simpa [names_kept] using absent

end Query

/-- The names of the fields that a grouping makes. -/
def Grouping.names (grouping : Grouping) : List String :=
  grouping.keys ++ grouping.aggregates.map Aggregate.name

/-- Whether the names of a grouping are told apart: none is that of the identity, no result has the
name of a key, and each that is repeated leads elsewhere than the others. -/
structure Grouping.NamesApart (grouping : Grouping) : Prop where
  identity : identityField ∉ grouping.names
  results : ∀ key ∈ grouping.keys, key ∉ grouping.aggregates.map Aggregate.name
  others : ∀ name ∈ grouping.names, grouping.names.Duplicate name → ∀ other ∈ grouping.names,
    other = name ∨ (Path.ofText name).IsApart (Path.ofText other)

/-- An accumulator has the name of its aggregate, and its input has a value on every row. -/
theorem Plan.accumulator_total (aggregate : Aggregate) :
    (Plan.accumulator aggregate).name = aggregate.name ∧
      Expression.IsTotal (Plan.accumulator aggregate).input := by
  obtain ⟨source, aggregation, name⟩ := aggregate
  cases aggregation with
  | count => exact ⟨rfl, fun row => ⟨_, Expression.evaluate_number row _⟩⟩
  | _ => exact ⟨rfl, fun row => ⟨_, evaluate_reference row source⟩⟩

/-- The fields of a grouping: its keys, which are read under the identity, and its results. -/
def Grouping.fields (grouping : Grouping) : Projection :=
  grouping.keys.map (fun key => (key, .computed (fieldReference (identityField ++ "." ++ key))))
    ++ grouping.aggregates.map fun aggregate => (aggregate.name, .kept)

/-- The fields of a grouping have its names. -/
theorem Grouping.names_fields (grouping : Grouping) :
    Members.names grouping.fields = grouping.names := by
  simp [Members.names, fields, names, Function.comp_def]

/-- Fields of one name are both keys or both results of a grouping whose names are told apart, and
so they are one. -/
theorem Grouping.NamesApart.field_unique {grouping : Grouping} (apart : grouping.NamesApart)
    (entry other : String × Shape) (first : entry ∈ grouping.fields)
    (second : other ∈ grouping.fields) (same : other.1 = entry.1) : other = entry := by
  rcases List.mem_append.mp first with isKey | isResult
  · obtain ⟨key, listed, rfl⟩ := List.mem_map.mp isKey
    rcases List.mem_append.mp second with alsoKey | alsoResult
    · obtain ⟨otherKey, -, rfl⟩ := List.mem_map.mp alsoKey
      obtain rfl : otherKey = key := same
      rfl
    · obtain ⟨result, present, rfl⟩ := List.mem_map.mp alsoResult
      exact absurd (List.mem_map.mpr ⟨result, present, same⟩) (apart.results key listed)
  · obtain ⟨aggregate, listed, rfl⟩ := List.mem_map.mp isResult
    rcases List.mem_append.mp second with alsoKey | alsoResult
    · obtain ⟨key, present, rfl⟩ := List.mem_map.mp alsoKey
      exact absurd (List.mem_map.mpr ⟨aggregate, listed, same.symm⟩) (apart.results key present)
    · obtain ⟨result, -, rfl⟩ := List.mem_map.mp alsoResult
      exact Prod.ext same rfl

/-- The fields of a grouping whose names are told apart are steady: a repeated name stands for the
same field again, or for one whose path is apart from all the others. -/
theorem Grouping.NamesApart.fields_steady {grouping : Grouping} (apart : grouping.NamesApart)
    (usable : grouping.isUsable = true) : grouping.fields.IsSteady where
  shows := by
    obtain ⟨keys, aggregates⟩ := grouping
    cases keys with
    | nil => simp [isUsable] at usable
    | cons key keys => exact ⟨_, List.mem_cons_self, rfl⟩
  harmless entry first repeated other second := by
    have otherName : other.1 ∈ grouping.names := by
      rw [← grouping.names_fields]
      exact List.mem_map_of_mem second
    rw [grouping.names_fields] at repeated
    rcases apart.others entry.1 repeated.mem repeated other.1 otherName with same | paths
    · exact .same (apart.field_unique entry other first second same)
    · exact .apart paths

/-- The stages of a grouping whose names are told apart are shown. The grouping names no result as
it names the identity, and the projection behind it is that of steady fields. -/
theorem Grouping.NamesApart.isShown {grouping : Grouping} (apart : grouping.NamesApart)
    (usable : grouping.isUsable = true) :
    ∀ stage ∈ Plan.groupStages grouping, stage.IsShown := by
  have results : grouping.aggregates.map (Accumulator.name ∘ Plan.accumulator) =
      grouping.aggregates.map Aggregate.name :=
    List.map_congr_left fun aggregate _ => (Plan.accumulator_total aggregate).1
  refine List.forall_mem_cons.mpr ⟨⟨?_, ?_⟩, List.forall_mem_singleton.mpr ⟨?_, ?_⟩⟩
  · rw [Stage.IsReadable, List.map_map, results]
    exact fun listed => apart.identity (List.mem_append_right _ listed)
  · exact List.forall_mem_map.mpr fun aggregate _ => (Plan.accumulator_total aggregate).2
  · refine List.forall_mem_append.mpr ⟨List.forall_mem_append.mpr ⟨?_, ?_⟩,
      List.forall_mem_singleton.mpr Shape.dropped_readable⟩
    · exact List.forall_mem_map.mpr fun key _ => Shape.reference_readable _
    · exact List.forall_mem_map.mpr fun _ _ => Shape.kept_readable
  · refine (apart.fields_steady usable).dropping identityField ?_
    rw [grouping.names_fields]
    exact apart.identity

/-- Whether the lists of a query are shown as they are meant. -/
structure Query.ListsSteadily (query : Query) : Prop where
  order : SortKey.AreSteady query.orderBy
  selection : Query.SelectsSteadily query.select
  grouping : ∀ grouping, query.grouping? = some grouping → grouping.NamesApart

/-- A stage that may be left out is shown if it is when it is there. -/
theorem Stage.optional_isShown {Part : Type} (part : Option Part) (made : Part → Stage)
    (shown : ∀ given, part = some given → (made given).IsShown) :
    ∀ stage ∈ (part.map made).toList, stage.IsShown := by
  cases part with
  | none => exact List.forall_mem_nil _
  | some given => exact List.forall_mem_singleton.mpr (shown given rfl)

/-- The stages of an expansion are shown. -/
theorem Plan.expansion_isShown (expansion : Expansion) :
    ∀ stage ∈ Plan.expansionStages expansion, stage.IsShown := by
  unfold Plan.expansionStages
  split
  · exact List.forall_mem_cons.mpr
      ⟨⟨trivial, trivial⟩, List.forall_mem_singleton.mpr ⟨trivial, trivial⟩⟩
  · exact List.forall_mem_singleton.mpr ⟨trivial, trivial⟩

/-- Steady sort keys and the bounds of a page are shown. -/
theorem FindOptions.paging_isShown (options : FindOptions)
    (steady : SortKey.AreSteady options.sort) : ∀ stage ∈ options.paging, stage.IsShown := by
  refine List.forall_mem_append.mpr ⟨List.forall_mem_append.mpr ⟨?_, ?_⟩, ?_⟩
  · split
    · exact List.forall_mem_nil _
    · exact List.forall_mem_singleton.mpr ⟨trivial, steady⟩
  · exact Stage.optional_isShown _ _ fun _ _ => ⟨trivial, trivial⟩
  · exact Stage.optional_isShown _ _ fun _ _ => ⟨trivial, trivial⟩

namespace Query.ListsSteadily

variable {query : Query} (steadily : query.ListsSteadily) (settings : Settings)
  (canAggregate : Bool) (predicate : Json)

include steadily

/-- The stages that choose and make the rows of a query that lists its names steadily are
shown. Only the stages of a grouping ask for anything; matching, computing and joining set one
name each. -/
theorem making_isShown :
    ∀ stage ∈ settings.making query canAggregate predicate, stage.IsShown := by
  unfold Settings.making
  split
  · refine List.forall_mem_append.mpr ⟨List.forall_mem_append.mpr ⟨List.forall_mem_append.mpr
      ⟨?_, Stage.optional_isShown _ _ fun _ _ => ⟨trivial, trivial⟩⟩, ?_⟩, ?_⟩
    · split
      · exact List.forall_mem_nil _
      · exact List.forall_mem_singleton.mpr ⟨trivial, trivial⟩
    · cases asked : query.grouping? with
      | none => exact List.forall_mem_nil _
      | some grouping =>
        exact (steadily.grouping grouping asked).isShown (Option.filter_eq_some_iff.mp asked).2
    · exact fun stage inside => (Compute.stagesFrom_setsOne 0 query.compute stage inside).isShown
  · exact List.forall_mem_singleton.mpr ⟨trivial, trivial⟩

/-- All stages of a query that lists its names steadily are shown. -/
theorem stages_isShown :
    ∀ stage ∈ settings.stages query canAggregate predicate, stage.IsShown := by
  refine List.forall_mem_append.mpr ⟨List.forall_mem_append.mpr ⟨List.forall_mem_append.mpr
    ⟨steadily.making_isShown settings canAggregate predicate,
      (settings.options query).paging_isShown steadily.order⟩, ?_⟩, ?_⟩
  · split
    · exact List.forall_mem_flatMap.mpr fun expansion _ => Plan.expansion_isShown expansion
    · exact List.forall_mem_nil _
  · exact Stage.optional_isShown _ _ fun projection selects =>
      selection_isShown query.select steadily.selection projection selects

end Query.ListsSteadily

/-- A store that is sent the document of a plan does what the plan does, if the query lists its
names steadily: each stage that it reads runs as the stage of the plan, on any rows, and so do all
together. The sort keys that are read sort alike exactly if no field has another direction in the
end than at first.

Proof: a document has each name once, so what is read from the document of a stage is the stage with
each name once. For all stages but sorting that makes no difference if names are listed steadily: a
later listing then does what the earlier one has done. For sorting, the last direction of a field
stands at its first place. -/
theorem shown_as_run (settings : Settings) (canAggregate : Bool) (query : Query) (plan : Plan)
    (planned : Plan.ofQuery settings canAggregate query = .ok plan) :
    (query.ListsSteadily → ∃ shown, Plan.stagesOf? plan.document = some shown ∧
      List.Forall₂ Stage.RunsAs shown plan.stages ∧
      ∀ source rows, Pipeline.run source shown rows = Pipeline.run source plan.stages rows) ∧
    ∃ keys, SortKey.ofDocument? (sortDocument query.orderBy) = some keys ∧
      ((∀ rows, sortRows keys rows = sortRows query.orderBy rows) ↔
        SortKey.AreSteady query.orderBy) := by
  refine ⟨fun steadily => ?_, SortKey.once query.orderBy, SortKey.read_document query.orderBy,
    sortRows_once_iff query.orderBy⟩
  obtain ⟨predicate, compiled, -⟩ := (bind_ok_iff _ _ _).mp planned
  obtain ⟨same, again, stages, -⟩ := settings.planned query canAggregate predicate compiled
  obtain rfl := Except.ok.inj (planned.symm.trans again)
  have shown : ∀ stage ∈ plan.stages, stage.IsShown := by
    rw [stages]
    exact steadily.stages_isShown settings canAggregate predicate
  have alike : List.Forall₂ Stage.RunsAs (plan.stages.map Stage.once) plan.stages := by
    rw [List.forall₂_map_left_iff, List.forall₂_same]
    exact fun stage listed => stage.once_runsAs (shown stage listed).1 (shown stage listed).2
  exact ⟨plan.stages.map Stage.once, plan.read_document fun stage listed => (shown stage listed).1,
    alike, fun source => Pipeline.run_as source _ _ alike⟩

/-- A query that repeats a key to group by, a field to sort by and a selected field, of which a part
is selected as well. -/
def repeating : Query :=
  { apply := some ⟨["town", "town"], [⟨"hours", .sum, "total"⟩]⟩
    orderBy := [⟨"town", .ascending⟩, ⟨"total", .descending⟩, ⟨"town", .ascending⟩]
    select := ["town", "total", "town.name", "town"] }

/-- The repetitions are lost in the document of the plan, and nothing else is: the grouping, the
flattening of its rows, the sorting and the selection are run as they are shown. -/
theorem repeating_shown :
    ∃ plan shown, Plan.ofQuery {} true repeating = .ok plan ∧ repeating.ListsSteadily ∧
      Plan.stagesOf? plan.document = some shown ∧ shown.length = 4 ∧
      List.Forall₂ Stage.RunsAs shown plan.stages := by
  have steadily : repeating.ListsSteadily :=
    { order := by decide +kernel
      selection := by decide +kernel
      grouping := by
        intro grouping asked
        obtain rfl := Option.some.inj asked
        exact ⟨by decide +kernel, by decide +kernel, by decide +kernel⟩ }
  obtain ⟨shown, read, alike, -⟩ := (shown_as_run {} true repeating _ rfl).1 steadily
  refine ⟨_, shown, rfl, steadily, read, ?_, alike⟩
  rw [alike.length_eq]
  rfl

/-- Rows that are sorted by a field in both directions stand in the first one, and the document of
the plan shows the second. -/
theorem opposed_order_shown :
    let query : Query := { orderBy := [⟨"a", .ascending⟩, ⟨"a", .descending⟩] }
    let rows : List Json := [.object [("a", .ofInt 1)], .object [("a", .ofInt 2)]]
    ∃ plan shown, Plan.ofQuery {} true query = .ok plan ∧
      Plan.stagesOf? plan.document = some shown ∧
      (∀ source, Pipeline.run source plan.stages rows = .ok rows ∧
        Pipeline.run source shown rows = .ok rows.reverse) ∧
      ¬ List.Forall₂ Stage.RunsAs shown plan.stages := by
  intro query rows
  have run : ∀ source, Pipeline.run source
      [.matching (.object []), .sort query.orderBy] rows = .ok rows ∧
        Pipeline.run source [.matching (.object []), .sort [⟨"a", .descending⟩]] rows =
          .ok rows.reverse := fun source => ⟨rfl, rfl⟩
  refine ⟨_, _, rfl, rfl, run, fun alike => ?_⟩
  have different : rows ≠ rows.reverse := by simp [rows, Json.ofInt]
  have same := Pipeline.run_as (fun _ => []) _ _ alike rows
  exact different (Except.ok.inj ((run _).1.symm.trans (same.symm.trans (run _).2)))

end DocumentQuery
