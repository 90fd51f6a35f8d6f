import DocumentQuery.Proofs.Execution.Pages
import DocumentQuery.Proofs.Execution.Stages
import DocumentQuery.Proofs.Filter.Admission

/-!
# A condition laid down for all filters

The owner of a collection may have every filter joined with a condition, so that clients see only
the rows that meet it. The condition is a part of what the filter is compiled to. It bounds the
rows of the answer and their count in both forms of a plan, whatever else the query asks for.

A query without a filter, or with a blank one, has nothing compiled, and so nothing is joined: it
is answered as if no condition had been laid down.
-/

namespace DocumentQuery

namespace Settings

/-- The settings without a change of filters. -/
def unchanged (settings : Settings) : Settings := { settings with transform := none }

/-- Whether every compiled filter is joined with a condition, as a transform can demand it of all
queries. -/
def Demands (settings : Settings) (condition : Json) : Prop :=
  settings.transform =
    some fun predicate => Predicate.clause "$and" (.array [predicate, condition])

/-- What meets a joined filter and the search meets the filter, the search and the condition. -/
theorem isMet_joined (settings : Settings) (query : Query) (predicate condition : Json) :
    Predicate.isMet
        (settings.joined query (Predicate.clause "$and" (.array [predicate, condition]))) =
      fun row => Predicate.isMet (settings.joined query predicate) row &&
        Predicate.isMet condition row := by
  funext row
  unfold joined
  cases Plan.searchPredicate? settings query with
  | none => exact Predicate.isMet_and predicate condition row
  | some search =>
    simp only [Predicate.isMet_both, Predicate.isMet_and]
    rw [Bool.and_right_comm]

/-- Nothing in the answer to a query depends on the change of filters if the query's filter is not
written as text. -/
theorem execute_unchanged (store : Store) (collection : Collection) (settings : Settings)
    (query : Query) (unwritten : ¬ Filter.Source.IsWritten query.filter) :
    execute store collection settings query =
      execute store collection settings.unchanged query := by
  have planned : Plan.ofQuery settings collection.canAggregate query =
      Plan.ofQuery settings.unchanged collection.canAggregate query := by
    unfold Plan.ofQuery
    rw [settings.policy.compile_unwritten query.filter unwritten]
    rfl
  unfold execute
  rw [planned]
  rfl

end Settings

/-- Without a selection, the rows of a page are rows that are kept. A page is part of what is left
behind the place of the query in the sorted rows, and sorting has the same rows. -/
theorem Query.mem_of_mem_page (query : Query) (limits : Limits) (kept : List Json) (row : Json)
    (whole : query.select = []) (inside : row ∈ query.page limits kept) : row ∈ kept := by
  have unshaped : query.answer kept = (sortRows query.orderBy kept).drop (query.skip.getD 0) := by
    have same : shown [] = id := rfl
    rw [answer, whole, same, List.map_id]
  have answered : row ∈ query.answer kept := by
    unfold page at inside
    cases size : pageLimit query.top limits with
    | none => simpa only [size, Option.elim_none] using inside
    | some size =>
      simp only [size, Option.elim_some] at inside
      exact List.mem_of_mem_take inside
  rw [unshaped] at answered
  exact (sortRows_perm query.orderBy kept).mem_iff.mp (List.mem_of_mem_drop answered)

/-- Where a condition is laid down for filters, a query from a URL with a filter that is not blank
is answered with rows that meet the condition, and with no others: they are a page of the rows that
meet the filter, the search and the condition, and these are what is counted. A query without a
filter, or with a blank one, is answered as if nothing had been laid down.

The query neither groups nor computes nor joins, and it shows its rows as they are.

Proof: a filter that is written is compiled to the conjunction of its predicate and the condition,
so what is kept is what meets both, and a page of it has no other rows. A filter that is not written
is compiled to the empty predicate, to which the change is not made. -/
theorem demand_bounds_answers (store : Store) (collection : Collection) (settings : Settings)
    (url : String) (condition : Json) (demands : settings.Demands condition)
    (keeps : settings.KeepsRows (Query.ofUrl url)) (whole : (Query.ofUrl url).select = []) :
    (Filter.Source.IsWritten (Query.ofUrl url).filter →
      ∀ envelope, execute store collection settings (Query.ofUrl url) = .ok envelope →
        (∀ row ∈ envelope.rows,
          row ∈ store.rows collection.name ∧ Predicate.holds row condition = .ok true) ∧
        ∃ predicate kept,
          settings.unchanged.policy.compile (Query.ofUrl url).filter = .ok predicate ∧
          kept = (store.rows collection.name).filter (fun row =>
            Predicate.isMet (settings.joined (Query.ofUrl url) predicate) row &&
              Predicate.isMet condition row) ∧
          envelope.rows = (Query.ofUrl url).page settings.limits kept ∧
          ∀ total, envelope.count = some total → total = kept.length) ∧
    (¬ Filter.Source.IsWritten (Query.ofUrl url).filter →
      execute store collection settings (Query.ofUrl url) =
        execute store collection settings.unchanged (Query.ofUrl url)) := by
  constructor
  · intro written envelope answered
    obtain ⟨compiled, filtered, page, counted⟩ :=
      execute_kept store collection keeps envelope answered
    obtain ⟨predicate, stored, changed⟩ :=
      (settings.policy.compile_written _ compiled written).mp filtered
    have change : settings.policy.transform =
        some fun predicate => Predicate.clause "$and" (.array [predicate, condition]) := demands
    rw [change, Option.elim_some] at changed
    rw [changed, Settings.isMet_joined] at page counted
    constructor
    · intro row inside
      rw [page] at inside
      have kept := Query.mem_of_mem_page _ _ _ row whole inside
      obtain ⟨stands, met⟩ := List.mem_filter.mp kept
      have demanded := (Bool.and_eq_true_iff.mp met).2
      exact ⟨stands, (Predicate.isMet_iff condition row).mp demanded⟩
    · exact ⟨predicate, _, stored, rfl, page, counted⟩
  · exact fun unwritten => settings.execute_unchanged store collection _ unwritten

/-- The condition that the number of a row is below three. -/
def belowThree : Json := Predicate.clause "n" (Predicate.clause "$lt" (.ofNat 3))

/-- Settings that lay the condition down. -/
def demanding : Settings :=
  { transform := some fun predicate => Predicate.clause "$and" (.array [predicate, belowThree]) }

/-- The request for the numbers above one, with their count. -/
def countedAboveOne : String := "/odata/Items?$top=5&$filter=n+gt%201&$count=true"

/-- Of two rows that meet the filter, the one that meets the condition is given. The predicate that
was compiled is the conjunction of the two, and both numbers are looked at in one row. -/
theorem countedAboveOne_bounded :
    demanding.Demands belowThree ∧ demanding.KeepsRows (Query.ofUrl countedAboveOne) ∧
    (Query.ofUrl countedAboveOne).select = [] ∧
    Filter.Source.IsWritten (Query.ofUrl countedAboveOne).filter ∧
    ∃ envelope,
      execute stock ⟨"items", true⟩ demanding (Query.ofUrl countedAboveOne) = .ok envelope ∧
      envelope.rows = [.object [("_id", .ofNat 3), ("n", .ofNat 2)]] ∧
      ∀ row ∈ envelope.rows, Predicate.holds row belowThree = .ok true := by
  have source : (Query.ofUrl countedAboveOne).filter = some (.text "n gt 1") :=
    Query.filter_of_filterText? _ _ (by decide +kernel)
  have written : Filter.Source.IsWritten (Query.ofUrl countedAboveOne).filter :=
    ⟨"n gt 1", source, by decide⟩
  have keeps : demanding.KeepsRows (Query.ofUrl countedAboveOne) :=
    ⟨by decide +kernel, by decide +kernel, fun _ _ => rfl⟩
  have whole : (Query.ofUrl countedAboveOne).select = [] := by decide +kernel
  have compiled : demanding.policy.compile (Query.ofUrl countedAboveOne).filter = .ok
      (Predicate.clause "$and" (.array
        [Predicate.clause "n" (Predicate.clause "$gt" (.ofNat 1)), belowThree])) := by
    rw [source, Filter.Policy.compile_text _ _ (by decide), Filter.Policy.compileText_iff]
    exact ⟨_, ⟨nofun, aboveOne_read, nofun⟩, rfl⟩
  have plain : (Query.ofUrl countedAboveOne).IsPlain :=
    ⟨by decide +kernel, by decide +kernel, by decide +kernel, by decide +kernel⟩
  obtain ⟨count, answered⟩ := execute_page stock ⟨"items", true⟩ demanding
    (Query.ofUrl countedAboveOne) 5 _ [.object [("_id", .ofNat 3), ("n", .ofNat 2)]] plain
    (by decide +kernel) (by decide) (by decide) compiled rfl
  have page : ((Query.ofUrl countedAboveOne).answer
      [.object [("_id", .ofNat 3), ("n", .ofNat 2)]]).take 5 =
        [.object [("_id", .ofNat 3), ("n", .ofNat 2)]] := by
    have orderBy : (Query.ofUrl countedAboveOne).orderBy = [] := by decide +kernel
    have skip : (Query.ofUrl countedAboveOne).skip = none := by decide +kernel
    rw [Query.answer, orderBy, skip, whole]
    rfl
  obtain ⟨bounded, -⟩ := demand_bounds_answers stock ⟨"items", true⟩ demanding countedAboveOne
    belowThree rfl keeps whole
  obtain ⟨met, -⟩ := bounded written _ answered
  exact ⟨rfl, keeps, whole, written, _, answered, page, fun row inside => (met row inside).2⟩

/-- Without a filter, and with a blank one, a row is given that does not meet the condition, and
it is counted. -/
theorem demand_passed_over :
    demanding.Demands belowThree ∧
    ∀ url ∈ ["/odata/Items?$count=true", "/odata/Items?$filter=%20&$count=true"],
      ∃ envelope, execute stock ⟨"items", true⟩ demanding (Query.ofUrl url) = .ok envelope ∧
        envelope.count = some 3 ∧
        ∃ row ∈ envelope.rows, Predicate.isMet belowThree row = false := by
  have opened (answer : Except Failure Envelope)
      (seen : (answer.toOption.any fun envelope => envelope.count == some 3 &&
        envelope.rows.any fun row => !Predicate.isMet belowThree row) = true) :
      ∃ envelope, answer = .ok envelope ∧ envelope.count = some 3 ∧
        ∃ row ∈ envelope.rows, Predicate.isMet belowThree row = false := by
    cases answer with
    | error failure => exact absurd seen Bool.false_ne_true
    | ok envelope =>
      refine ⟨envelope, rfl, ?_⟩
      simpa [Except.toOption] using seen
  refine ⟨rfl, fun url inside => opened _ ?_⟩
  simp only [List.mem_cons, List.not_mem_nil, or_false] at inside
  rcases inside with rfl | rfl
  · decide +kernel
  · decide +kernel

end DocumentQuery
