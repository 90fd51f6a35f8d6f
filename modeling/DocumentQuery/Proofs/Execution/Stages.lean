import DocumentQuery.Proofs.Execution.Answers
import DocumentQuery.Proofs.Pipeline.Joins

/-!
# The stages of a query, in both forms

Both forms of a plan are one sequence of stages: those that choose and make the rows, then
sorting and paging, then the joins, and the selection of fields at the end. A collection that cannot
aggregate goes without groupings, computed fields and joins, and chooses its rows by one predicate
where a pipeline has one for the filter and one for the search. The count is taken by that one
predicate in both forms.
-/

namespace DocumentQuery

namespace Settings

variable (settings : Settings) (query : Query)

/-- The expansions that a query asks for and that are laid down. -/
def joins : List Expansion := query.expand.filterMap fun path => settings.expansions.get? path

/-- The stages that choose rows by a filter and by the search. -/
def choosing (predicate : Json) : List Stage :=
  (if Plan.isAlways predicate then [] else [.matching predicate])
    ++ ((Plan.searchPredicate? settings query).map Stage.matching).toList

/-- The stages that choose the rows of a query and make groups and computed fields of them. -/
def making (canAggregate : Bool) (predicate : Json) : List Stage :=
  if Plan.needsPipeline query (Plan.searchPredicate? settings query) && canAggregate then
    settings.choosing query predicate
      ++ ((query.grouping?.map Plan.groupStages).getD [])
      ++ Compute.stages query.compute
  else [.matching (settings.joined query predicate)]

/-- All stages of a query whose filter has a predicate: those that make the rows, the page, the
joins where the collection aggregates, and the fields that are shown. -/
def stages (canAggregate : Bool) (predicate : Json) : List Stage :=
  settings.making query canAggregate predicate
    ++ (settings.options query).paging
    ++ (if canAggregate then (settings.joins query).flatMap Plan.expansionStages else [])
    ++ (settings.options query).shaping

/-- A query that needs no pipeline has no search, asks for no join and computes nothing. -/
theorem direct_parts
    (direct : Plan.needsPipeline query (Plan.searchPredicate? settings query) = false) :
    Plan.searchPredicate? settings query = none ∧ settings.joins query = [] ∧
      query.compute = [] := by
  simp only [Plan.needsPipeline, Bool.or_eq_false_iff, Option.isSome_eq_false_iff,
    Option.isNone_iff_eq_none, Bool.not_eq_false', List.isEmpty_iff] at direct
  obtain ⟨⟨⟨unjoined, unsearched⟩, -⟩, uncomputed⟩ := direct
  exact ⟨unsearched, by rw [joins, unjoined, List.filterMap_nil], uncomputed⟩

/-- A query whose filter is compiled is planned, and its plan has the stages of the query and counts
by the filter and the search. It is a pipeline only for collections that can aggregate: a plan is a
find because it needs no pipeline, or because there is none to be had. -/
theorem planned (canAggregate : Bool) (predicate : Json)
    (compiled : settings.policy.compile query.filter = .ok predicate) :
    ∃ plan, Plan.ofQuery settings canAggregate query = .ok plan ∧
      plan.stages = settings.stages query canAggregate predicate ∧
      plan.countPredicate = settings.joined query predicate ∧
      ∀ stages, plan.form = .pipeline stages → canAggregate = true := by
  cases needed : Plan.needsPipeline query (Plan.searchPredicate? settings query) with
  | false =>
    obtain ⟨unsearched, unjoined, -⟩ := settings.direct_parts query needed
    have alone : settings.joined query predicate = predicate := by rw [joined, unsearched]
    refine ⟨⟨predicate, predicate, .direct (settings.options query)⟩, ?_, ?_, alone.symm,
      fun _ form => absurd form (by simp)⟩
    · rw [unsearched] at needed
      simp [Plan.ofQuery, compiled, needed, unsearched, options]
    · simp [Plan.stages, stages, making, needed, unjoined, alone, FindOptions.stages_eq,
        FindOptions.behind_eq]
  | true =>
    cases canAggregate with
    | false =>
      refine ⟨⟨settings.joined query predicate, settings.joined query predicate,
        .direct (settings.options query)⟩, ?_, ?_, rfl, fun _ form => absurd form (by simp)⟩
      · simp [Plan.ofQuery, compiled, needed, options]
        rfl
      · simp [Plan.stages, stages, making, FindOptions.stages_eq, FindOptions.behind_eq]
    | true =>
      refine ⟨⟨predicate, settings.joined query predicate,
        .pipeline (Plan.pipelineStages settings query predicate
          (Plan.searchPredicate? settings query) (settings.options query))⟩, ?_, ?_, rfl,
        fun _ _ => rfl⟩
      · simp [Plan.ofQuery, compiled, needed, options]
        rfl
      · simp [Plan.stages, stages, making, choosing, needed, Plan.pipelineStages,
          FindOptions.paging, FindOptions.shaping, joins]

end Settings

/-- What the execution of a query does: the filter is compiled, the rows of the collection go
through the stages of the query, and those that the filter and the search keep are counted where a
count is asked for. -/
theorem execute_eq (store : Store) (collection : Collection) (settings : Settings) (query : Query) :
    execute store collection settings query = do
      let predicate ← (settings.policy.compile query.filter).mapError Failure.filter
      let rows ← (Pipeline.run store.rows
        (settings.stages query collection.canAggregate predicate)
        (store.rows collection.name)).mapError Failure.pipeline
      let count ←
        if query.count = some true then
          (store.count collection.name (settings.joined query predicate)).map some
        else pure none
      return { rows, count, nextLink := query.nextLink? settings.base rows.length } := by
  cases compiled : settings.policy.compile query.filter with
  | error refusal =>
    simp [execute, Plan.ofQuery, compiled]
  | ok predicate =>
    obtain ⟨plan, planned, stages, counts, able⟩ :=
      settings.planned query collection.canAggregate predicate compiled
    simp only [execute, planned, mapError_ok, ok_bind, plan.run_stages store collection able,
      stages, counts]

/-- A query is answered if its filter is compiled, its rows come through its stages, and they are
counted where a count is asked for. -/
theorem execute_ok_iff (store : Store) (collection : Collection) (settings : Settings)
    (query : Query) (envelope : Envelope) :
    execute store collection settings query = .ok envelope ↔
      ∃ predicate rows count, settings.policy.compile query.filter = .ok predicate ∧
        Pipeline.run store.rows (settings.stages query collection.canAggregate predicate)
          (store.rows collection.name) = .ok rows ∧
        (if query.count = some true then
          (store.count collection.name (settings.joined query predicate)).map some
        else .ok none) = .ok count ∧
        envelope = ⟨rows, count, query.nextLink? settings.base rows.length⟩ := by
  rw [execute_eq]
  constructor
  · intro answered
    obtain ⟨predicate, compiled, answered⟩ := (bind_ok_iff _ _ _).mp answered
    obtain ⟨rows, ran, answered⟩ := (bind_ok_iff _ _ _).mp answered
    refine ⟨predicate, rows, envelope.count, (mapError_ok_iff _ _ _).mp compiled,
      (mapError_ok_iff _ _ _).mp ran, ?_⟩
    by_cases asked : query.count = some true
    · rw [if_pos asked] at answered ⊢
      obtain ⟨count, counted, answered⟩ := (bind_ok_iff _ _ _).mp answered
      obtain rfl := Except.ok.inj answered
      exact ⟨counted, rfl⟩
    · rw [if_neg asked] at answered ⊢
      obtain rfl := Except.ok.inj answered
      exact ⟨rfl, rfl⟩
  · rintro ⟨predicate, rows, count, compiled, ran, counted, rfl⟩
    rw [compiled, mapError_ok, ok_bind, ran, mapError_ok, ok_bind]
    by_cases asked : query.count = some true
    · rw [if_pos asked] at counted
      simp only [asked, if_true, counted]
      rfl
    · rw [if_neg asked] at counted
      obtain rfl := Except.ok.inj counted
      simp only [asked, if_false]
      rfl

namespace Pipeline

/-- A stage that chooses rows selects by its predicate. -/
theorem run_matching (source : Source) (predicate : Json) (rows : List Json) :
    Pipeline.run source [.matching predicate] rows =
      ofPredicate (Predicate.select predicate rows) := by
  simp only [Pipeline.run, Stage.run]
  cases Predicate.select predicate rows <;> rfl

end Pipeline

namespace Settings

variable (settings : Settings) (query : Query) (source : Pipeline.Source)

/-- The stages that choose rows select by the filter, and then by the search if there is one. The
predicate that every row meets is left out of them, and it would have selected all rows. -/
theorem run_choosing (predicate : Json) (rows : List Json) :
    Pipeline.run source (settings.choosing query predicate) rows =
      Pipeline.ofPredicate (Predicate.select predicate rows >>= fun kept =>
        (Plan.searchPredicate? settings query).elim (.ok kept) fun search =>
          Predicate.select search kept) := by
  have first : Pipeline.run source
      (if Plan.isAlways predicate then [] else [.matching predicate]) rows =
        Pipeline.ofPredicate (Predicate.select predicate rows) := by
    split
    · next always =>
      have every : predicate = Predicate.always := by
        unfold Plan.isAlways at always
        split at always
        · rfl
        · exact absurd always Bool.false_ne_true
      rw [every, Predicate.select_always]
      rfl
    · exact Pipeline.run_matching source predicate rows
  rw [choosing, Pipeline.run_append, first]
  cases Predicate.select predicate rows with
  | error fault => rfl
  | ok kept =>
    cases Plan.searchPredicate? settings query with
    | none => rfl
    | some search => exact Pipeline.run_matching source search kept

/-- The rows that are chosen are those that meet the filter and the search. Choosing by the one and
then by the other is choosing by both, and the predicate of both is their conjunction. -/
theorem chosen_met (predicate : Json) (rows kept : List Json)
    (ran : Pipeline.run source (settings.choosing query predicate) rows = .ok kept) :
    kept = rows.filter (Predicate.isMet (settings.joined query predicate)) := by
  rw [run_choosing, Pipeline.ofPredicate_ok_iff] at ran
  obtain ⟨front, filtered, searched⟩ := (bind_ok_iff _ _ _).mp ran
  obtain rfl := Predicate.select_met predicate rows front filtered
  unfold joined
  cases search : Plan.searchPredicate? settings query with
  | none =>
    rw [search] at searched
    exact (Except.ok.inj searched).symm
  | some clause =>
    rw [search] at searched
    rw [Predicate.select_met clause _ kept searched, List.filter_filter]
    refine List.filter_congr fun row _ => ?_
    rw [Predicate.isMet_both, Bool.and_comm]

/-- What a query that does not group makes are the rows that meet the filter and the search, with
their computed fields, which a collection that cannot aggregate goes without. -/
theorem made_of_met (ungrouped : query.grouping? = none) (canAggregate : Bool) (predicate : Json)
    (rows made : List Json)
    (ran : Pipeline.run source (settings.making query canAggregate predicate) rows = .ok made) :
    Pipeline.run source (if canAggregate then Compute.stages query.compute else [])
      (rows.filter (Predicate.isMet (settings.joined query predicate))) = .ok made := by
  unfold making at ran
  split at ran
  · next piped =>
    obtain ⟨-, rfl⟩ := Bool.and_eq_true_iff.mp piped
    rw [ungrouped, Option.map_none, Option.getD_none, List.append_nil, Pipeline.run_append] at ran
    obtain ⟨kept, chosen, computed⟩ := (bind_ok_iff _ _ _).mp ran
    obtain rfl := settings.chosen_met query source predicate rows kept chosen
    exact computed
  · next found =>
    rw [Pipeline.run_matching, Pipeline.ofPredicate_ok_iff] at ran
    obtain rfl := Predicate.select_met _ rows made ran
    cases canAggregate with
    | false => rfl
    | true =>
      obtain ⟨-, -, uncomputed⟩ := settings.direct_parts query (by simpa using found)
      rw [uncomputed]
      rfl

/-- What a query makes of rows is paged, joined and shaped, and nothing fails any more. Joins are
left out for collections that cannot aggregate. -/
theorem run_stages (canAggregate : Bool) (predicate : Json) (rows : List Json) :
    Pipeline.run source (settings.stages query canAggregate predicate) rows =
      (Pipeline.run source (settings.making query canAggregate predicate) rows).map fun made =>
        ((query.paged settings.limits made).flatMap
          (expandRow source (if canAggregate then settings.joins query else []))).map
            (shown query.select) := by
  have expanded (page : List Json) : Pipeline.run source
      (if canAggregate then (settings.joins query).flatMap Plan.expansionStages else []) page =
        .ok (page.flatMap
          (expandRow source (if canAggregate then settings.joins query else []))) := by
    cases canAggregate with
    | false => exact run_expansions source [] page
    | true => exact run_expansions source (settings.joins query) page
  rw [stages, Pipeline.run_append, Pipeline.run_append, Pipeline.run_append]
  cases Pipeline.run source (settings.making query canAggregate predicate) rows with
  | error fault => rfl
  | ok made =>
    simp only [ok_bind, run_paging, expanded, run_shaping]
    rfl

/-- What a query that does not join makes is paged and shaped. -/
theorem run_stages_unjoined (unjoined : settings.joins query = []) (canAggregate : Bool)
    (predicate : Json) (rows : List Json) :
    Pipeline.run source (settings.stages query canAggregate predicate) rows =
      (Pipeline.run source (settings.making query canAggregate predicate) rows).map
        (query.page settings.limits) := by
  have alone : expandRow source [] = fun row => [row] := rfl
  have shaped : query.page settings.limits = fun made =>
      (query.paged settings.limits made).map (shown query.select) :=
    funext (query.page_paged settings.limits)
  simp only [run_stages, unjoined, ite_self, alone, List.flatMap_singleton', shaped]

end Settings

/-- A query that keeps rows is answered with a page of those that meet its filter and its search,
whichever form its plan has, and they are what is counted. -/
theorem execute_kept (store : Store) (collection : Collection) {settings : Settings}
    {query : Query} (keeps : settings.KeepsRows query) (envelope : Envelope)
    (answered : execute store collection settings query = .ok envelope) :
    ∃ predicate, settings.policy.compile query.filter = .ok predicate ∧
      let kept := (store.rows collection.name).filter
        (Predicate.isMet (settings.joined query predicate))
      envelope.rows = query.page settings.limits kept ∧
        ∀ total, envelope.count = some total → total = kept.length := by
  obtain ⟨predicate, rows, count, compiled, ran, counted, rfl⟩ :=
    (execute_ok_iff store collection settings query envelope).mp answered
  have unjoined : settings.joins query = [] := List.filterMap_eq_nil_iff.mpr keeps.joins
  rw [settings.run_stages_unjoined query store.rows unjoined] at ran
  obtain ⟨made, chosen, rfl⟩ := (map_ok_iff _ _ _).mp ran
  have uncomputed :
      (if collection.canAggregate then Compute.stages query.compute else []) = [] := by
    rw [keeps.compute]
    exact ite_self []
  have computed := settings.made_of_met query store.rows keeps.grouping _ predicate _ made chosen
  rw [uncomputed] at computed
  obtain rfl := Except.ok.inj computed
  refine ⟨predicate, compiled, rfl, fun total given => ?_⟩
  obtain rfl : count = some total := given
  split at counted
  · obtain ⟨number, found, same⟩ := (map_ok_iff _ _ _).mp counted
    obtain rfl := Option.some.inj same
    exact count_met store collection _ number found
  · exact absurd counted (by simp)

/-- Three named rows, two of which are found by one search. -/
def named : Store :=
  { collections := [("items", [.object [("_id", .ofNat 1), ("name", .string "Ann")],
      .object [("_id", .ofNat 2), ("name", .string "Ben")],
      .object [("_id", .ofNat 3), ("name", .string "Hanna")]])] }

/-- Settings under which names are searched. -/
def searchingNames : Settings := { searched := ["name"] }

/-- The query for the second row with a text in its name, and for the count of all such rows. -/
def secondNamed : Query :=
  { search := some "an"
    filter := some (.predicate (Predicate.clause "_id" (Predicate.clause "$gt" (.ofNat 0))))
    top := some 1
    skip := some 1
    count := some true }

end DocumentQuery
