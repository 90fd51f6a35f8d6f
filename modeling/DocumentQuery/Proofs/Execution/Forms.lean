import DocumentQuery.Proofs.Execution.Stages
import DocumentQuery.Proofs.Pattern.Escape

/-!
# The two forms of a plan give one answer

A pipeline selects by the filter and then by the search, where a find has one predicate in which the
two are joined and both are decided of every row. An escaped text is always a pattern, so the search
has no fault, if the searched fields are not named like operators; then both forms select the same
rows, or fail with the same fault of the filter. For queries that neither group nor compute nor join
all else is the same in both forms.
-/

namespace DocumentQuery

namespace Predicate

/-- A field's value is tested against every pattern that can be read, whatever the options are. -/
theorem matchesPattern_decided (actual : Option Json) (written options : String)
    (pattern : Pattern) (read : Pattern.ofText? written = some pattern) :
    ∃ answer, matchesPattern actual (.string written) options = .ok answer := by
  simp only [matchesPattern, read]
  cases actual with
  | none => exact ⟨_, rfl⟩
  | some value => cases value <;> exact ⟨_, rfl⟩

/-- A field's value is tested against every pattern that can be read, up to case. -/
theorem meets_patternAnyCase (actual : Option Json) (written : String) (pattern : Pattern)
    (read : Pattern.ofText? written = some pattern) :
    ∃ answer, meets actual (.object [("$regex", .string written), ("$options", .string "i")]) =
      .ok answer := by
  have options : patternOptions [("$regex", .string written), ("$options", .string "i")] = "i" :=
    rfl
  have operators : holdsOperators [("$regex", .string written), ("$options", .string "i")] = true :=
    by simp [holdsOperators, isOperator]
  obtain ⟨answer, decided⟩ := matchesPattern_decided actual written "i" pattern read
  refine ⟨answer, ?_⟩
  simp only [meets, operators, if_true, meetsAll, options, decided]
  cases answer <;> rfl

end Predicate

namespace Settings

variable (settings : Settings) (query : Query)

/-- The predicate of a search is decided on every document, if the searched fields are not named
like operators. It looks for the term in each of the fields, and the pattern of an escaped term can
always be read. -/
theorem search_decided (search : Json)
    (fields : ∀ field ∈ settings.searched, Predicate.isOperator field = false)
    (searches : Plan.searchPredicate? settings query = some search) :
    Predicate.IsDecided search := by
  obtain ⟨term, -, rest⟩ := Option.bind_eq_some_iff.mp searches
  dsimp only at rest
  split at rest
  · exact absurd rest (by simp)
  · obtain rfl := Option.some.inj rest
    refine Predicate.IsDecided.or fun clause inside => ?_
    obtain ⟨field, searched, rfl⟩ := List.mem_map.mp inside
    intro document
    rw [Predicate.holds_field document field _ (fields field searched)]
    exact Predicate.meets_patternAnyCase _ _ _ (Filter.Placement.anywhere.pattern_read term)

/-- Where the search is decided, choosing rows by stages in turn is choosing them by the one
predicate of a find. -/
theorem run_choosing_joined (source : Pipeline.Source) (predicate : Json) (rows : List Json)
    (fields : ∀ field ∈ settings.searched, Predicate.isOperator field = false) :
    Pipeline.run source (settings.choosing query predicate) rows =
      Pipeline.run source [.matching (settings.joined query predicate)] rows := by
  rw [run_choosing, Pipeline.run_matching, joined]
  cases searches : Plan.searchPredicate? settings query with
  | none => cases Predicate.select predicate rows <;> rfl
  | some search =>
    have decided := settings.search_decided query search fields searches
    rw [Predicate.select_both predicate search decided]
    rfl

end Settings

/-- A query that keeps the rows of its collection as they are is answered alike whether or not the
collection can aggregate: with the same rows in the same order, the same count and the same link, or
with the same failure. The searched fields are not named like operators.

Proof: a pipeline that neither groups nor computes only chooses rows, first by the filter and then
by the search, which by `run_choosing_joined` is to choose by both joined, as a find does. What is
done with the rows behind that is the same in both forms. -/
theorem forms_agree (store : Store) (name : String) (settings : Settings) (query : Query)
    (keeps : settings.KeepsRows query)
    (fields : ∀ field ∈ settings.searched, Predicate.isOperator field = false) :
    execute store ⟨name, true⟩ settings query = execute store ⟨name, false⟩ settings query := by
  have unjoined : settings.joins query = [] := List.filterMap_eq_nil_iff.mpr keeps.joins
  have chosen (predicate : Json) (rows : List Json) :
      Pipeline.run store.rows (settings.making query true predicate) rows =
        Pipeline.run store.rows (settings.making query false predicate) rows := by
    have made : settings.making query false predicate =
        [.matching (settings.joined query predicate)] := by
      simp [Settings.making]
    rw [made, Settings.making]
    split
    · have unchanged : (query.grouping?.map Plan.groupStages).getD [] = [] := by
        rw [keeps.grouping]
        rfl
      have uncomputed : Compute.stages query.compute = [] := by
        rw [keeps.compute]
        rfl
      rw [unchanged, uncomputed, List.append_nil, List.append_nil]
      exact settings.run_choosing_joined query store.rows predicate rows fields
    · rfl
  have ran (predicate : Json) (rows : List Json) :
      Pipeline.run store.rows (settings.stages query true predicate) rows =
        Pipeline.run store.rows (settings.stages query false predicate) rows := by
    rw [settings.run_stages_unjoined query store.rows unjoined,
      settings.run_stages_unjoined query store.rows unjoined, chosen]
  simp only [execute_eq, ran]

/-- The second of two rows that are found, with their count, is the answer in both forms. -/
theorem secondNamed_alike :
    searchingNames.KeepsRows secondNamed ∧
    (∀ field ∈ searchingNames.searched, Predicate.isOperator field = false) ∧
    execute named ⟨"items", true⟩ searchingNames secondNamed =
      execute named ⟨"items", false⟩ searchingNames secondNamed ∧
    ∃ envelope, execute named ⟨"items", false⟩ searchingNames secondNamed = .ok envelope ∧
      envelope.rows = [.object [("_id", .ofNat 3), ("name", .string "Hanna")]] ∧
      envelope.count = some 2 := by
  have keeps : searchingNames.KeepsRows secondNamed :=
    ⟨rfl, rfl, fun path asked => absurd asked List.not_mem_nil⟩
  have fields : ∀ field ∈ searchingNames.searched, Predicate.isOperator field = false := by decide
  exact ⟨keeps, fields,
    forms_agree named "items" searchingNames secondNamed keeps fields, _, rfl, rfl, rfl⟩

end DocumentQuery
