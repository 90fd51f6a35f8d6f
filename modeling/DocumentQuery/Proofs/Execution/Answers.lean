import DocumentQuery.Execution
import DocumentQuery.Proofs.Pipeline.Lengths
import DocumentQuery.Proofs.Predicate

/-!
# The rows that answer a query

The rows that a query keeps are sorted, some are passed over, a page is taken, and each row is put
in the shape of the selection. A query that neither groups nor computes nor joins keeps rows of its
collection, those that meet its filter and its search, and the count is taken of these.
-/

namespace DocumentQuery

/-- Rows that are sorted by no key stay in their order. They all compare equal, so each row is
inserted behind the ones before it. -/
theorem sortRows_none (rows : List Json) : sortRows [] rows = rows := by
  have folded (sorted : List Json) :
      rows.foldl (fun sorted row => insertRow [] row sorted) sorted = rows.reverse ++ sorted := by
    induction rows generalizing sorted with
    | nil => rfl
    | cons row rows inductionHypothesis =>
      have first : insertRow [] row sorted = row :: sorted := by
        cases sorted <;> simp [insertRow, compareRows]
      rw [List.foldl_cons, first, inductionHypothesis]
      simp
  simp [sortRows, folded]

/-- A row in the shape of selected fields: a document of the fields that it has, in the order in
which they are selected, but with the identity in front. No selection leaves the row as it is. -/
def shown (fields : List String) (row : Json) : Json :=
  let identity := if fields.contains identityField then row.member? identityField else none
  let start := Json.object (identity.map fun value => (identityField, value)).toList
  if fields.isEmpty then row
  else fields.foldl (fun kept field =>
    (row.valueAt? field).elim kept fun value => kept.setAt field value) start

/-- Selected fields are copied in turn. -/
theorem keepFields_selection (row : Json) (fields : List String) (dropped : Projection)
    (drops : dropped = [] ∨ dropped = [(identityField, .dropped)]) (start : Json) :
    keepFields row (fields.map (fun field => (field, Shape.kept)) ++ dropped) start =
      .ok (fields.foldl (fun kept field =>
        (row.valueAt? field).elim kept fun value => kept.setAt field value) start) := by
  induction fields generalizing start with
  | nil => rcases drops with rfl | rfl <;> rfl
  | cons field fields inductionHypothesis =>
    simp only [List.map_cons, List.cons_append, keepFields, keepField, ok_bind,
      inductionHypothesis, List.foldl_cons]

/-- A projection that keeps fields copies them behind the identity, if it does not drop that. -/
theorem projectRow_keeping (projection : Projection) (row : Json) (dropsIdentity : Bool)
    (keeps : ∃ entry ∈ projection, entry.2.isKept = true)
    (drops : (projection.any fun entry => entry.1 == identityField && !entry.2.isKept) =
      dropsIdentity) :
    projectRow projection row = keepFields row projection (.object
      ((if dropsIdentity then none else row.member? identityField).map
        fun value => (identityField, value)).toList) := by
  subst drops
  unfold projectRow
  refine (if_pos (List.any_eq_true.mpr keeps)).trans ?_
  refine congrArg (keepFields row projection) ?_
  cases row.member? identityField with
  | none => simp
  | some identity =>
    dsimp only
    split <;> rfl

/-- The projection of a selection shows its fields. The identity is left out unless it is selected,
for which the projection has an entry of its own behind those of the fields. -/
theorem projectRow_selection (fields : List String) (projection : Projection) (row : Json)
    (selects : Plan.selection? fields = some projection) :
    projectRow projection row = .ok (shown fields row) := by
  unfold Plan.selection? at selects
  split at selects
  · exact absurd selects (by simp)
  · next some =>
    obtain ⟨field, others, rfl⟩ := List.exists_cons_of_ne_nil (by simpa using some)
    have keeps (dropped : Projection) :
        ∃ entry ∈ (field :: others).map (fun field => (field, Shape.kept)) ++ dropped,
          entry.2.isKept = true :=
      ⟨(field, .kept), List.mem_cons_self, rfl⟩
    obtain rfl := Option.some.inj selects
    split
    · next identified =>
      have kept := keepFields_selection row (field :: others) [] (.inl rfl)
      have keepsAll := keeps []
      rw [List.append_nil] at kept keepsAll
      rw [projectRow_keeping _ row false keepsAll (by simp [Shape.isKept]), kept]
      simp only [shown, identified, if_true, List.isEmpty_cons, Bool.false_eq_true, if_false]
    · next unidentified =>
      have kept := keepFields_selection row (field :: others) _ (.inr rfl)
      rw [projectRow_keeping _ row true (keeps _) (by simp [Shape.isKept]), kept]
      simp only [shown, unidentified, if_true, List.isEmpty_cons, Bool.false_eq_true, if_false]

/-- The rows that a query asks for, of those that its filter keeps. -/
def Query.answer (query : Query) (kept : List Json) : List Json :=
  ((sortRows query.orderBy kept).drop (query.skip.getD 0)).map (shown query.select)

/-- The rows of one page of the answer. A limit of zero bounds nothing. -/
def Query.page (query : Query) (limits : Limits) (kept : List Json) : List Json :=
  (pageLimit query.top limits).elim (query.answer kept) fun size => (query.answer kept).take size

/-- The rows of one page before they are shaped. A limit of zero bounds nothing. -/
def Query.paged (query : Query) (limits : Limits) (rows : List Json) : List Json :=
  let rest := (sortRows query.orderBy rows).drop (query.skip.getD 0)
  (pageLimit query.top limits).elim rest rest.take

/-- A page of a positive size that may be asked for is cut to the greatest size. -/
theorem pageLimit_positive (limits : Limits) (size : Nat) (positive : 0 < size)
    (bounded : 0 < limits.hardMaximum) :
    pageLimit (some size) limits = some (min size limits.hardMaximum) := by
  have some : size ≠ 0 := Nat.ne_of_gt positive
  have limited : limits.hardMaximum ≠ 0 := Nat.ne_of_gt bounded
  simp [pageLimit, some, limited]

/-- A page of the answer shows the rows of the page. -/
theorem Query.page_paged (query : Query) (limits : Limits) (kept : List Json) :
    query.page limits kept = (query.paged limits kept).map (shown query.select) := by
  rw [page, paged, answer]
  cases pageLimit query.top limits with
  | none => rfl
  | some size => rw [Option.elim_some, Option.elim_some, List.map_take]

namespace Settings

/-- What a find for a query does with the rows that are kept. -/
def options (settings : Settings) (query : Query) : FindOptions :=
  { projection := Plan.selection? query.select
    sort := query.orderBy
    limit := pageLimit query.top settings.limits
    skip := pageSkip query.skip }

/-- The predicate of a query's filter, joined with that of its search if it has one. -/
def joined (settings : Settings) (query : Query) (predicate : Json) : Json :=
  match Plan.searchPredicate? settings query with
  | some search => Predicate.both predicate search
  | none => predicate

/-- Whether a query keeps the rows of its collection as they are, up to their shape: it does not
group or compute, and it asks for no join that is laid down. -/
structure KeepsRows (settings : Settings) (query : Query) : Prop where
  grouping : query.grouping? = none
  compute : query.compute = []
  joins : ∀ path ∈ query.expand, settings.expansions.get? path = none

end Settings

/-- The stages of a find behind its predicate, in the order in which a find applies its options. -/
def FindOptions.behind (options : FindOptions) : List Stage :=
  (if options.sort.isEmpty then [] else [.sort options.sort])
    ++ (options.skip.map Stage.skip).toList
    ++ (options.limit.map Stage.limit).toList
    ++ (options.projection.map Stage.project).toList

/-- The stages that sort rows and take a page of them, without those that show fields. -/
def FindOptions.paging (options : FindOptions) : List Stage :=
  (if options.sort.isEmpty then [] else [.sort options.sort])
    ++ (options.skip.map Stage.skip).toList
    ++ (options.limit.map Stage.limit).toList

/-- The stages that give rows the shape of a selection. -/
def FindOptions.shaping (options : FindOptions) : List Stage :=
  (options.projection.map Stage.project).toList

/-- Behind the predicate of a find, rows are paged and then shaped. -/
theorem FindOptions.behind_eq (options : FindOptions) :
    options.behind = options.paging ++ options.shaping := rfl

/-- A find begins with its predicate. -/
theorem FindOptions.stages_eq (options : FindOptions) (predicate : Json) :
    options.stages predicate = .matching predicate :: options.behind := by
  simp [stages, behind]

/-- The stages of a plan. A direct plan runs its options, which come to the same as these stages. -/
def Plan.stages (plan : Plan) : List Stage :=
  match plan.form with
  | .direct options => options.stages plan.predicate
  | .pipeline stages => stages

/-- A plan sends the rows of a collection through its stages. A pipeline is for collections that
can aggregate. -/
theorem Plan.run_stages (plan : Plan) (store : Store) (collection : Collection)
    (able : ∀ stages, plan.form = .pipeline stages → collection.canAggregate = true) :
    plan.run store collection =
      (Pipeline.run store.rows plan.stages (store.rows collection.name)).mapError
        Failure.pipeline := by
  cases form : plan.form with
  | direct options =>
    simp only [run, Plan.stages, form]
    rfl
  | pipeline stages =>
    simp only [run, Plan.stages, form, Store.aggregate, if_pos (able stages form)]

section Answers

variable (store : Store) (collection : Collection) (settings : Settings) (query : Query)

/-- Rows are sorted, some are passed over, and a page is taken. A stage that would do nothing is
left out of the plan, so each of the three is considered with and without its stage. -/
theorem run_paging (source : Pipeline.Source) (rows : List Json) :
    Pipeline.run source (settings.options query).paging rows =
      .ok (query.paged settings.limits rows) := by
  have sorted (rows : List Json) : Pipeline.run source
      (if query.orderBy.isEmpty then [] else [.sort query.orderBy]) rows =
        .ok (sortRows query.orderBy rows) := by
    cases query.orderBy with
    | nil => simp [Pipeline.run, sortRows_none]
    | cons key keys => rfl
  have skipped (rows : List Json) : Pipeline.run source
      ((pageSkip query.skip).map Stage.skip).toList rows =
        .ok (rows.drop (query.skip.getD 0)) := by
    rcases query.skip with _ | _ | count <;> rfl
  have limited (rows : List Json) : Pipeline.run source
      ((pageLimit query.top settings.limits).map Stage.limit).toList rows =
        .ok ((pageLimit query.top settings.limits).elim rows rows.take) := by
    cases pageLimit query.top settings.limits <;> rfl
  have stages : (settings.options query).paging =
      (if query.orderBy.isEmpty then [] else [.sort query.orderBy])
        ++ ((pageSkip query.skip).map Stage.skip).toList
        ++ ((pageLimit query.top settings.limits).map Stage.limit).toList := rfl
  simp only [stages, Pipeline.run_append, sorted, skipped, limited, ok_bind, Query.paged]

/-- The selected fields of rows are shown, or the whole rows if no field is selected. A projection
that only keeps fields does not fail on any row. -/
theorem run_shaping (source : Pipeline.Source) (rows : List Json) :
    Pipeline.run source (settings.options query).shaping rows =
      .ok (rows.map (shown query.select)) := by
  have stages : (settings.options query).shaping =
      ((Plan.selection? query.select).map Stage.project).toList := rfl
  rw [stages]
  cases selects : Plan.selection? query.select with
  | none =>
    have none : query.select = [] := by
      by_contra some
      simp [Plan.selection?, some] at selects
    have unchanged : shown [] = id := rfl
    simp [Pipeline.run, none, unchanged]
  | some projection =>
    have every : rows.mapM (projectRow projection) = .ok (rows.map (shown query.select)) :=
      mapM_made _ _ rows fun row _ => projectRow_selection query.select projection row selects
    simp [Pipeline.run, Stage.run, every, Pipeline.ofExpression]

/-- Rows that are kept are sorted, some are passed over, a page is taken, and the selected fields
are shown. -/
theorem run_behind (source : Pipeline.Source) (kept : List Json) :
    Pipeline.run source (settings.options query).behind kept =
      .ok (query.page settings.limits kept) := by
  rw [FindOptions.behind_eq, Pipeline.run_append, run_paging, ok_bind, run_shaping,
    Query.page_paged]

/-- A find gives a page of the rows that its predicate selects. -/
theorem find_page (predicate : Json) (kept : List Json)
    (selected : Predicate.select predicate (store.rows collection.name) = .ok kept) :
    store.find collection predicate (settings.options query) =
      .ok (query.page settings.limits kept) := by
  simp only [Store.find, FindOptions.stages_eq, Pipeline.run, Stage.run, selected,
    Pipeline.ofPredicate, mapError_ok, ok_bind, run_behind]

/-- An answer is what the plan gives, with the count and the link that belong to it. The count is
that of the plan's own predicate and is only made if it is asked for. -/
theorem execute_ok (envelope : Envelope)
    (answered : execute store collection settings query = .ok envelope) :
    ∃ plan, Plan.ofQuery settings collection.canAggregate query = .ok plan ∧
      plan.run store collection = .ok envelope.rows ∧
      (∀ total, envelope.count = some total →
        store.count collection.name plan.countPredicate = .ok total) ∧
      envelope.nextLink = query.nextLink? settings.base envelope.rows.length := by
  obtain ⟨plan, planned, rest⟩ := (bind_ok_iff _ _ _).mp answered
  obtain ⟨rows, ran, rest⟩ := (bind_ok_iff _ _ _).mp rest
  refine ⟨plan, (mapError_ok_iff _ _ _).mp planned, ?_⟩
  dsimp only at rest
  split at rest
  · obtain ⟨count, counted, rest⟩ := (bind_ok_iff _ _ _).mp rest
    obtain ⟨number, selected, rfl⟩ := (map_ok_iff _ _ _).mp counted
    obtain rfl := Except.ok.inj rest
    exact ⟨ran, fun total given => Option.some.inj given ▸ selected, rfl⟩
  · obtain rfl := Except.ok.inj rest
    exact ⟨ran, fun total given => absurd given (by simp), rfl⟩

/-- The number of rows that a predicate selects is that of the rows that meet it. -/
theorem count_met (predicate : Json) (total : Nat)
    (counted : store.count collection.name predicate = .ok total) :
    total = ((store.rows collection.name).filter (Predicate.isMet predicate)).length := by
  unfold Store.count at counted
  split at counted
  · next kept selected =>
    obtain rfl := Except.ok.inj counted
    rw [Predicate.select_met predicate _ kept selected]
  · exact absurd counted (by simp)

end Answers

end DocumentQuery
