import DocumentQuery.Proofs.Execution.Stages

/-!
# What a count counts

The count of a query is taken by a predicate of its own. It is the number of rows that the same
query gives when it asks for no page: computed fields, sorting and the selection make one row of
each, so all rows that are chosen are in the answer. Whether the query without a page is answered
does not depend on the page either, because nothing behind the computed fields can fail.
-/

namespace DocumentQuery

/-- The query without a page. -/
def Query.unpaged (query : Query) : Query := { query with top := none, skip := none }

/-- The settings without a usual page size. -/
def Settings.unpaged (settings : Settings) : Settings :=
  { settings with limits := { settings.limits with pageSize := none } }

/-- Where no page is asked for, all rows are on it. -/
theorem Query.page_unpaged_length (query : Query) (settings : Settings) (rows : List Json) :
    (query.unpaged.page settings.unpaged.limits rows).length = rows.length := by
  have sorted : query.unpaged.paged settings.unpaged.limits rows = sortRows query.orderBy rows :=
    rfl
  rw [page_paged, List.length_map, sorted, (sortRows_perm query.orderBy rows).length_eq]

section Counts

variable (store : Store) (collection : Collection) (settings : Settings) (query : Query)

/-- Stages that work on each row by itself make one row of each. -/
theorem Pipeline.run_single_length (source : Source) (stages : List Stage)
    (rows answers : List Json) (single : ∀ stage ∈ stages, stage.WorksOnRows)
    (ran : Pipeline.run source stages rows = .ok answers) : answers.length = rows.length :=
  ((Pipeline.run_ok_iff source stages rows answers single).mp ran).length_eq.symm

/-- A query that does not group makes one row of each that meets the filter and the search. -/
theorem Settings.made_length (ungrouped : query.grouping? = none) (canAggregate : Bool)
    (source : Pipeline.Source) (predicate : Json) (rows made : List Json)
    (ran : Pipeline.run source (settings.making query canAggregate predicate) rows = .ok made) :
    made.length = (rows.filter (Predicate.isMet (settings.joined query predicate))).length := by
  refine Pipeline.run_single_length source _ _ made ?_
    (settings.made_of_met query source ungrouped canAggregate predicate rows made ran)
  split
  · exact Compute.stagesFrom_single 0 query.compute
  · exact fun stage inside => absurd inside List.not_mem_nil

/-- The count of a query that neither groups nor joins is the number of rows that it gives without a
page, with which it is answered as well. Neither the page nor the order nor the selection nor what
is computed has a part in the count, nor whether the collection can aggregate.

Proof: the filter, what it chooses and what is counted are the same for the query without a page,
which therefore comes through like the query itself. Its rows are as many as those that the filter
keeps, since computing and shaping make one row of each. -/
theorem count_of_whole_answer (asked : query.count = some true)
    (ungrouped : query.grouping? = none)
    (unjoined : ∀ path ∈ query.expand, settings.expansions.get? path = none)
    (envelope : Envelope)
    (answered : execute store collection settings query = .ok envelope) :
    ∃ whole, execute store collection settings.unpaged query.unpaged = .ok whole ∧
      envelope.count = some whole.rows.length := by
  have noJoins : settings.joins query = [] := List.filterMap_eq_nil_iff.mpr unjoined
  obtain ⟨predicate, rows, count, compiled, ran, counted, rfl⟩ :=
    (execute_ok_iff store collection settings query envelope).mp answered
  rw [settings.run_stages_unjoined query store.rows noJoins] at ran
  obtain ⟨made, chosen, rfl⟩ := (map_ok_iff _ _ _).mp ran
  rw [if_pos asked] at counted
  obtain ⟨total, found, rfl⟩ := (map_ok_iff _ _ _).mp counted
  have ranWhole : Pipeline.run store.rows
      (settings.unpaged.stages query.unpaged collection.canAggregate predicate)
      (store.rows collection.name) = .ok (query.unpaged.page settings.unpaged.limits made) := by
    rw [settings.unpaged.run_stages_unjoined query.unpaged store.rows noJoins]
    exact (map_ok_iff _ _ _).mpr ⟨made, chosen, rfl⟩
  have answeredWhole := (execute_ok_iff store collection settings.unpaged query.unpaged _).mpr
    ⟨predicate, _, some total, compiled, ranWhole, (if_pos asked).trans counted, rfl⟩
  refine ⟨_, answeredWhole, congrArg some ?_⟩
  calc total
    _ = ((store.rows collection.name).filter
          (Predicate.isMet (settings.joined query predicate))).length :=
        count_met store collection _ total found
    _ = made.length := (settings.made_length query ungrouped _ _ predicate _ made chosen).symm
    _ = (query.unpaged.page settings.unpaged.limits made).length :=
        (query.page_unpaged_length settings made).symm

end Counts

/-- One of two rows that are found is on the page, and both are counted. -/
theorem secondNamed_counted :
    secondNamed.count = some true ∧ secondNamed.grouping? = none ∧
    (∀ path ∈ secondNamed.expand, searchingNames.expansions.get? path = none) ∧
    ∃ envelope whole,
      execute named ⟨"items", true⟩ searchingNames secondNamed = .ok envelope ∧
      execute named ⟨"items", true⟩ searchingNames.unpaged secondNamed.unpaged = .ok whole ∧
      envelope.rows.length = 1 ∧ whole.rows.length = 2 ∧
      envelope.count = some whole.rows.length := by
  have unjoined : ∀ path ∈ secondNamed.expand, searchingNames.expansions.get? path = none :=
    fun path asked => absurd asked List.not_mem_nil
  obtain ⟨whole, answered, counted⟩ := count_of_whole_answer named ⟨"items", true⟩ searchingNames
    secondNamed rfl rfl unjoined _ rfl
  refine ⟨rfl, rfl, unjoined, _, whole, rfl, answered, rfl, ?_, counted⟩
  exact (Option.some.inj counted).symm

end DocumentQuery
