import DocumentQuery.Proofs.Execution.Forms
import DocumentQuery.Proofs.Execution.Pages
import DocumentQuery.Proofs.Filter.Misnaming

/-!
# How a filter text fails

A filter text that the policy does not admit is refused before a row is read. One that is admitted
is decided on every document, unless it names an operator where a field is meant: then it is decided
on none, and a query with it fails as soon as there is a row. That failure is one of the server and
not of the request.
-/

namespace DocumentQuery

namespace Pipeline

variable (source : Source)

/-- A stage has a fault of a predicate only if it chooses among some rows by one that is not
decided. -/
theorem stage_undecided (stage : Stage) (rows : List Json) (fault : Predicate.Fault)
    (failed : stage.run source rows = .error (.predicate fault)) :
    rows ≠ [] ∧ ∃ predicate, stage = .matching predicate ∧ ¬ Predicate.IsDecided predicate := by
  have expressions {Part : Type} (answer : Except Expression.Fault Part) :
      ofExpression answer ≠ .error (.predicate fault) := by
    cases answer <;> simp [ofExpression]
  cases stage with
  | matching predicate =>
    have selected : Predicate.select predicate rows = .error fault := by
      cases selected : Predicate.select predicate rows with
      | ok kept => simp [Stage.run, ofPredicate, selected] at failed
      | error problem => simpa [Stage.run, ofPredicate, selected] using failed
    obtain ⟨some, undecided⟩ := Predicate.select_undecided predicate rows fault selected
    exact ⟨some, predicate, rfl, undecided⟩
  | group | project | compute => exact absurd failed (expressions _)
  | unset | sort | skip | limit | lookup | unwind => exact absurd failed (by simp [Stage.run])

/-- A run has a fault of a predicate only if there are rows, and a stage chooses among some by a
predicate that is not decided. The rows that a later stage chooses among come from the first ones,
so there are none of them if there were none at the start. -/
theorem run_undecided (stages : List Stage) (rows : List Json) (fault : Predicate.Fault)
    (failed : Pipeline.run source stages rows = .error (.predicate fault)) :
    rows ≠ [] ∧
      ∃ predicate, Stage.matching predicate ∈ stages ∧ ¬ Predicate.IsDecided predicate := by
  induction stages generalizing rows with
  | nil => exact absurd failed (by simp [Pipeline.run])
  | cons stage stages inductionHypothesis =>
    cases first : stage.run source rows with
    | error problem =>
      obtain rfl : problem = .predicate fault := by simpa [Pipeline.run, first] using failed
      obtain ⟨some, predicate, rfl, undecided⟩ := stage_undecided source stage rows fault first
      exact ⟨some, predicate, List.mem_cons_self, undecided⟩
    | ok between =>
      obtain ⟨left, predicate, later, undecided⟩ :=
        inductionHypothesis between (by simpa [Pipeline.run, first] using failed)
      refine ⟨?_, predicate, List.mem_cons_of_mem stage later, undecided⟩
      rintro rfl
      exact left (stage_none source stage between first)

end Pipeline

namespace Settings

variable (settings : Settings) (query : Query)

/-- What a query makes of rows chooses them by the filter, by the search, or by the two joined. The
stages of groupings and of computed fields choose no rows. -/
theorem making_chooses (canAggregate : Bool) (predicate chosen : Json)
    (inside : Stage.matching chosen ∈ settings.making query canAggregate predicate) :
    chosen = predicate ∨ Plan.searchPredicate? settings query = some chosen ∨
      chosen = settings.joined query predicate := by
  have groups : Stage.matching chosen ∉ (query.grouping?.map Plan.groupStages).getD [] := by
    cases query.grouping? <;> simp [Plan.groupStages]
  have computes : Stage.matching chosen ∉ Compute.stages query.compute :=
    fun present => Compute.stagesFrom_single 0 query.compute _ present
  unfold making at inside
  split at inside
  · have chooses : Stage.matching chosen ∈ settings.choosing query predicate := by
      simpa only [List.mem_append, groups, computes, or_false] using inside
    rw [choosing, List.mem_append] at chooses
    rcases chooses with filtered | searched
    · split at filtered
      · exact absurd filtered List.not_mem_nil
      · exact .inl (Stage.matching.inj (List.mem_singleton.mp filtered))
    · obtain ⟨search, searches, same⟩ :=
        Option.map_eq_some_iff.mp (Option.mem_toList.mp searched)
      obtain rfl := Stage.matching.inj same
      exact .inr (.inl searches)
  · exact .inr (.inr (Stage.matching.inj (List.mem_singleton.mp inside)))

variable (fields : ∀ field ∈ settings.searched, Predicate.isOperator field = false)

include fields

/-- The filter and the search joined are decided if the filter is. -/
theorem joined_decided (predicate : Json) (decided : Predicate.IsDecided predicate) :
    Predicate.IsDecided (settings.joined query predicate) := by
  unfold joined
  split
  · next search searches =>
    exact decided.both (settings.search_decided query search fields searches)
  · exact decided

/-- The stages of a query have a fault of a predicate only if there are rows and the filter is not
decided. -/
theorem stages_undecided (canAggregate : Bool) (source : Pipeline.Source) (predicate : Json)
    (rows : List Json) (fault : Predicate.Fault)
    (failed : Pipeline.run source (settings.stages query canAggregate predicate) rows =
      .error (.predicate fault)) : rows ≠ [] ∧ ¬ Predicate.IsDecided predicate := by
  rw [run_stages] at failed
  cases made : Pipeline.run source (settings.making query canAggregate predicate) rows with
  | ok answers => exact absurd failed (by simp [made, Except.map])
  | error problem =>
    obtain rfl : problem = .predicate fault := by simpa [made, Except.map] using failed
    obtain ⟨some, chosen, inside, undecided⟩ := Pipeline.run_undecided source _ rows fault made
    refine ⟨some, fun decided => undecided ?_⟩
    rcases settings.making_chooses query canAggregate predicate chosen inside with
      rfl | searches | rfl
    · exact decided
    · exact settings.search_decided query chosen fields searches
    · exact settings.joined_decided query fields predicate decided

end Settings

section Refusals

variable (store : Store) (collection : Collection) (settings : Settings) (query : Query)

/-- A query fails because its filter is not compiled, because its rows do not come through its
stages, or because they cannot be counted. -/
theorem execute_failure (failure : Failure)
    (failed : execute store collection settings query = .error failure) :
    (∃ refusal, settings.policy.compile query.filter = .error refusal ∧
      failure = .filter refusal) ∨
    ∃ predicate fault, settings.policy.compile query.filter = .ok predicate ∧
      failure = .pipeline fault ∧
      (Pipeline.run store.rows (settings.stages query collection.canAggregate predicate)
          (store.rows collection.name) = .error fault ∨
        ∃ problem, fault = .predicate problem ∧
          Predicate.select (settings.joined query predicate) (store.rows collection.name) =
            .error problem) := by
  rw [execute_eq] at failed
  cases compiled : settings.policy.compile query.filter with
  | error refusal =>
    rw [compiled, mapError_error, error_bind] at failed
    exact .inl ⟨refusal, rfl, (Except.error.inj failed).symm⟩
  | ok predicate =>
    refine .inr ⟨predicate, ?_⟩
    rw [compiled, mapError_ok, ok_bind] at failed
    cases ran : Pipeline.run store.rows (settings.stages query collection.canAggregate predicate)
        (store.rows collection.name) with
    | error fault =>
      rw [ran, mapError_error, error_bind] at failed
      exact ⟨fault, rfl, (Except.error.inj failed).symm, .inl rfl⟩
    | ok rows =>
      rw [ran, mapError_ok, ok_bind, Store.count] at failed
      cases counted : Predicate.select (settings.joined query predicate)
          (store.rows collection.name) with
      | ok selected =>
        rw [counted] at failed
        split at failed <;> exact absurd failed (by simp [Except.map])
      | error problem =>
        rw [counted] at failed
        split at failed
        · exact ⟨.predicate problem, rfl, (Except.error.inj failed).symm, .inr ⟨problem, rfl, rfl⟩⟩
        · exact absurd failed (by simp)

/-- A query is refused as a bad request exactly if its filter is not compiled. Every other failure
comes from running the pipeline and is one of the server. -/
theorem execute_bad_iff :
    (∃ failure, execute store collection settings query = .error failure ∧
      failure.kind = .badRequest) ↔
    ¬ ∃ predicate, settings.policy.compile query.filter = .ok predicate := by
  constructor
  · rintro ⟨failure, failed, bad⟩ ⟨predicate, compiled⟩
    rcases execute_failure store collection settings query failure failed with
      ⟨refusal, refused, -⟩ | ⟨-, fault, -, rfl, -⟩
    · exact absurd (refused.symm.trans compiled) (by simp)
    · exact absurd bad (by simp [Failure.kind])
  · intro uncompiled
    cases refused : settings.policy.compile query.filter with
    | ok predicate => exact absurd ⟨predicate, refused⟩ uncompiled
    | error refusal =>
      refine ⟨.filter refusal, ?_, rfl⟩
      rw [execute_eq, refused]
      rfl

/-- A query fails by a predicate only if its filter is compiled to one that is not decided, and
there are rows. The searched fields are not named like operators. -/
theorem execute_undecided (fault : Predicate.Fault)
    (fields : ∀ field ∈ settings.searched, Predicate.isOperator field = false)
    (failed : execute store collection settings query = .error (.pipeline (.predicate fault))) :
    store.rows collection.name ≠ [] ∧
      ∃ predicate, settings.policy.compile query.filter = .ok predicate ∧
        ¬ Predicate.IsDecided predicate := by
  rcases execute_failure store collection settings query _ failed with
    ⟨refusal, -, different⟩ | ⟨predicate, _, compiled, same, ran | ⟨problem, rfl, counted⟩⟩
  · exact absurd different (by simp)
  · obtain rfl := Failure.pipeline.inj same
    obtain ⟨some, undecided⟩ := settings.stages_undecided query fields _ _ predicate _ fault ran
    exact ⟨some, predicate, compiled, undecided⟩
  · obtain ⟨some, undecided⟩ := Predicate.select_undecided _ _ problem counted
    exact ⟨some, predicate, compiled, fun decided =>
      undecided (settings.joined_decided query fields predicate decided)⟩

/-- A query whose filter has one fault on all documents fails by it as soon as there is a row. In
both forms the fault of the first row comes before the search and before any group. -/
theorem execute_fault (predicate : Json) (fault : Predicate.Fault)
    (compiled : settings.policy.compile query.filter = .ok predicate)
    (faulty : ∀ document, Predicate.holds document predicate = .error fault)
    (some : store.rows collection.name ≠ []) :
    execute store collection settings query = .error (.pipeline (.predicate fault)) := by
  obtain ⟨row, rows, present⟩ := List.exists_cons_of_ne_nil some
  have filtered : Predicate.select predicate (row :: rows) = .error fault := by
    rw [Predicate.select, faulty, error_bind]
  have joined : Predicate.select (settings.joined query predicate) (row :: rows) =
      .error fault := by
    unfold Settings.joined
    split
    · rw [Predicate.select, Predicate.holds_both, faulty, error_bind, error_bind]
    · exact filtered
  have made : Pipeline.run store.rows (settings.making query collection.canAggregate predicate)
      (row :: rows) = .error (.predicate fault) := by
    unfold Settings.making
    split
    · rw [List.append_assoc, Pipeline.run_append, Settings.run_choosing, filtered]
      rfl
    · rw [Pipeline.run_matching, joined]
      rfl
  rw [execute_eq, compiled, mapError_ok, ok_bind, present, Settings.run_stages, made]
  rfl

end Refusals

/-- How a filter text fails, under settings without a last change. What it is compiled to is decided
on every document if it names fields only, and on no document if it names an operator. A query with
it is refused as a bad request exactly if the text is not admitted. It fails by a predicate, which
is a failure of the server, exactly if the text is admitted, names an operator, and there is a row.
The searched fields are not named like operators.

Proof: the only bad request of a query is a filter that is not compiled, which `execute_bad_iff`
states. A test of a name that begins with a dollar sign is an unknown operator on every document, so
it fails on the first row that the filter is asked about; and where all tests name fields, every
stage that chooses rows comes through. -/
theorem filter_text_fails (settings : Settings) (text : String)
    (unchanged : settings.transform = none) :
    (∀ condition, settings.policy.Admits text condition → ∀ document,
      (∃ answer, Predicate.holds document (settings.policy.predicateOf condition) = .ok answer) ↔
        condition.NamesFields settings.renamed) ∧
    ∀ (store : Store) (collection : Collection) (query : Query),
      query.filter = some (.text text) → text.toList.all Text.isBlank = false →
      (∀ field ∈ settings.searched, Predicate.isOperator field = false) →
      ((∃ failure, execute store collection settings query = .error failure ∧
          failure.kind = .badRequest) ↔
        ¬ ∃ condition, settings.policy.Admits text condition) ∧
      ((∃ fault, execute store collection settings query = .error (.pipeline (.predicate fault))) ↔
        store.rows collection.name ≠ [] ∧
          ∃ condition, settings.policy.Admits text condition ∧
            ¬ condition.NamesFields settings.renamed) := by
  have decided (condition : Filter.Condition) (admitted : settings.policy.Admits text condition)
      (document : Json) := admitted.decided_iff settings.policy text condition unchanged document
  refine ⟨decided, ?_⟩
  intro store collection query written unblank fields
  have compiles (predicate : Json) : settings.policy.compile query.filter = .ok predicate ↔
      ∃ condition, settings.policy.Admits text condition ∧
        predicate = settings.policy.predicateOf condition := by
    rw [written, settings.policy.compile_text text unblank, Filter.Policy.compileText_iff]
  constructor
  · rw [execute_bad_iff]
    refine not_congr ⟨?_, ?_⟩
    · rintro ⟨predicate, compiled⟩
      obtain ⟨condition, admitted, -⟩ := (compiles predicate).mp compiled
      exact ⟨condition, admitted⟩
    · rintro ⟨condition, admitted⟩
      exact ⟨_, (compiles _).mpr ⟨condition, admitted, rfl⟩⟩
  · constructor
    · rintro ⟨fault, failed⟩
      obtain ⟨some, predicate, compiled, undecided⟩ :=
        execute_undecided store collection settings query fault fields failed
      obtain ⟨condition, admitted, rfl⟩ := (compiles predicate).mp compiled
      refine ⟨some, condition, admitted, fun names => undecided fun document => ?_⟩
      exact (decided condition admitted document).mpr names
    · rintro ⟨some, condition, admitted, misnames⟩
      obtain ⟨name, -, faulty⟩ :=
        admitted.fault settings.policy text condition unchanged misnames
      exact ⟨_, execute_fault store collection settings query _ _
        ((compiles _).mpr ⟨condition, admitted, rfl⟩) faulty some⟩

/-- The query with a filter text and nothing else. -/
def Query.filteredBy (text : String) : Query := { filter := some (.text text) }

/-- A filter on a field does not fail, whatever a document holds. The name of the field begins with
no dollar sign, so the filter names fields only. -/
theorem field_filter_decided :
    ({} : Settings).transform = none ∧
    (∀ document, ∃ answer,
      Predicate.holds document (Predicate.clause "n" (Predicate.clause "$gt" (.ofNat 1))) =
        .ok answer) ∧
    ¬ ∃ fault, execute stock ⟨"items", true⟩ {} (Query.filteredBy "n gt 1") =
      .error (.pipeline (.predicate fault)) := by
  have admitted : ({} : Settings).policy.Admits "n gt 1" (.compare "n" .greater (.ofNat 1)) :=
    ⟨by simp [Settings.policy], aboveOne_read, by simp [Settings.policy]⟩
  have names : Filter.Condition.NamesFields [] (.compare "n" .greater (.ofNat 1)) :=
    List.forall_mem_singleton.mpr (by decide)
  obtain ⟨decided, fails⟩ := filter_text_fails {} "n gt 1" rfl
  obtain ⟨-, faults⟩ := fails stock ⟨"items", true⟩ (Query.filteredBy "n gt 1") rfl (by decide)
    (fun field searched => absurd searched List.not_mem_nil)
  refine ⟨rfl, fun document => (decided _ admitted document).mpr names, fun failed => ?_⟩
  obtain ⟨-, condition, other, misnames⟩ := faults.mp failed
  obtain rfl := Except.ok.inj (admitted.read.symm.trans other.read)
  exact misnames names

set_option maxRecDepth 2000 in
/-- A name that begins with a dollar sign is read as the name of a property, since words may begin
with one and only the predicate takes such names for operators. -/
theorem dollarName_read :
    Filter.Condition.ofText "$x eq 1" = .ok (.compare "$x" .equal (.ofNat 1)) := by
  have sequence : Filter.tokens "$x eq 1".toList =
      .ok [⟨.word "$x", 0⟩, ⟨.word "eq", 3⟩, ⟨.literal (.ofNat 1), 6⟩] := rfl
  have spelled : Filter.Spells "eq" "eq" := rfl
  have states : Filter.Test "$x" [.word "eq", .literal (.ofNat 1)]
      (.compare (Filter.memberPath "$x") .equal (.ofNat 1)) :=
    .comparison (by simp [Filter.comparisons]) spelled (.literal _)
  have named : ¬ Filter.Spells "$x" "not" := by
    simp [Filter.Spells, Text.equalIgnoringCase, Text.lowerAscii]
  rw [Filter.Condition.ofText, sequence, ok_bind, Filter.ofTokens_iff]
  exact .single (.alone (.test named states))

/-- A filter text that names a property like an operator is admitted, and yet its predicate is not
decided on the empty document, and a query with it ends in a failure of the server. -/
theorem dollarName_fails :
    ({} : Settings).policy.Admits "$x eq 1" (.compare "$x" .equal (.ofNat 1)) ∧
    (∃ failure, execute stock ⟨"items", true⟩ {} (Query.filteredBy "$x eq 1") = .error failure ∧
      failure.kind = .serverError) ∧
    ¬ ∃ answer, Predicate.holds (.object []) (({} : Settings).policy.predicateOf
      (.compare "$x" .equal (.ofNat 1))) = .ok answer := by
  have compiled : ({} : Settings).policy.compile (Query.filteredBy "$x eq 1").filter =
      .ok (Predicate.clause "$x" (.ofNat 1)) := by
    simp [Query.filteredBy, Filter.Policy.compile, Filter.Policy.compileText, Settings.policy,
      dollarName_read]
    rfl
  have faulty (document : Json) : Predicate.holds document (Predicate.clause "$x" (.ofNat 1)) =
      .error (.unknownCombinator "$x") :=
    rfl
  refine ⟨⟨by simp [Settings.policy], dollarName_read, by simp [Settings.policy]⟩, ?_, ?_⟩
  · exact ⟨_, execute_fault stock ⟨"items", true⟩ {} _ _ _ compiled faulty (by decide), rfl⟩
  · rintro ⟨answer, decided⟩
    exact absurd ((faulty (.object [])).symm.trans decided) (by simp)

end DocumentQuery
