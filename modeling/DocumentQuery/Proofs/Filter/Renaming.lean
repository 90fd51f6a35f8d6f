import DocumentQuery.Proofs.Filter.Admission
import DocumentQuery.Proofs.Filter.Tests

/-!
# Storage names in filters

Renaming the fields of a compiled filter is compiling the filter with its paths renamed: operators
keep their names, and the operands of tests have no fields. So what holds of compiled conditions
holds of filters with storage names as well.
-/

namespace DocumentQuery.Filter

/-- The storage name of a field. The name of an operator is kept. -/
def storedName (renamed : Members String) (name : String) : String :=
  if Predicate.isOperator name then name else (renamed.get? name).getD name

namespace Condition

mutual

/-- A condition with its paths renamed, each by itself and at any depth. -/
def rename (stored : String → String) : Condition → Condition
  | .compare path relation operand => .compare (stored path) relation operand
  | .oneOf path choices => .oneOf (stored path) choices
  | .holdsText path placement needle expected => .holdsText (stored path) placement needle expected
  | .not condition => .not (rename stored condition)
  | .all conditions => .all (renameEach stored conditions)
  | .any conditions => .any (renameEach stored conditions)
termination_by structural condition => condition

/-- Conditions with their paths renamed, one by one. -/
def renameEach (stored : String → String) : List Condition → List Condition
  | [] => []
  | condition :: conditions => rename stored condition :: renameEach stored conditions
termination_by structural conditions => conditions

end

mutual

/-- A renaming that changes no name changes no condition. -/
theorem rename_same (condition : Condition) : condition.rename id = condition :=
  match condition with
  | .compare _ _ _ | .oneOf _ _ | .holdsText _ _ _ _ => rfl
  | .not inner => by rw [rename, rename_same inner]
  | .all conditions => by rw [rename, renameEach_same conditions]
  | .any conditions => by rw [rename, renameEach_same conditions]
termination_by structural condition

/-- A renaming that changes no name changes no conditions. -/
theorem renameEach_same (conditions : List Condition) : renameEach id conditions = conditions :=
  match conditions with
  | [] => rfl
  | condition :: conditions => by
    rw [renameEach, rename_same condition, renameEach_same conditions]
termination_by structural conditions

end

mutual

/-- Renaming changes the paths of the single tests, and not their operands. -/
theorem tests_rename (stored : String → String) (condition : Condition) :
    (condition.rename stored).tests.map (fun test => (test.path, test.operands)) =
      condition.tests.map fun test => (stored test.path, test.operands) :=
  match condition with
  | .compare _ _ _ | .oneOf _ _ | .holdsText _ _ _ _ => rfl
  | .not inner => tests_rename stored inner
  | .all conditions => testsOf_rename stored conditions
  | .any conditions => testsOf_rename stored conditions
termination_by structural condition

/-- Renaming changes the paths of the single tests, and not their operands. -/
theorem testsOf_rename (stored : String → String) (conditions : List Condition) :
    (testsOf (renameEach stored conditions)).map (fun test => (test.path, test.operands)) =
      (testsOf conditions).map fun test => (stored test.path, test.operands) :=
  match conditions with
  | [] => rfl
  | condition :: conditions => by
    rw [renameEach, testsOf, testsOf, List.map_append, List.map_append,
      tests_rename stored condition, testsOf_rename stored conditions]
termination_by structural conditions

end

/-- The tests of a renamed condition take atoms if those of the condition do. -/
theorem takesAtoms_rename (stored : String → String) (condition : Condition)
    (atoms : ∀ test ∈ condition.tests, test.TakesAtoms) :
    ∀ test ∈ (condition.rename stored).tests, test.TakesAtoms := by
  intro test present
  have entry := List.mem_map_of_mem (f := fun test => (test.path, test.operands)) present
  rw [tests_rename] at entry
  obtain ⟨old, inside, same⟩ := List.mem_map.mp entry
  obtain ⟨-, operands⟩ := Prod.mk.inj same
  intro operand listed
  exact atoms old inside operand (operands ▸ listed)

/-- Whether all names in a condition are names of fields in storage, and none is an operator's. -/
def NamesFields (renamed : Members String) (condition : Condition) : Prop :=
  ∀ test ∈ condition.tests, Predicate.isOperator (storedName renamed test.path) = false

/-- A condition names fields if the tests of the condition with storage names are about fields. -/
theorem namesFields_iff (renamed : Members String) (condition : Condition) :
    condition.NamesFields renamed ↔
      ∀ test ∈ (condition.rename (storedName renamed)).tests,
        Predicate.isOperator test.path = false := by
  have paths : (condition.rename (storedName renamed)).tests.map path =
      condition.tests.map fun test => storedName renamed test.path := by
    have entries := congrArg (List.map Prod.fst) (condition.tests_rename (storedName renamed))
    simpa only [List.map_map, Function.comp_def] using entries
  have every := congrArg (fun names => ∀ name ∈ names, Predicate.isOperator name = false) paths
  simpa only [NamesFields, List.forall_mem_map, eq_iff_iff, iff_comm] using every

end Condition

/-- An atom has no fields to rename. -/
theorem renameFields_atom (renamed : Members String) (value : Json) (atom : value.IsAtom) :
    renameFields renamed value = value := by
  cases value with
  | array items => exact absurd atom id
  | object members => exact absurd atom id
  | _ => rfl

/-- Atoms have no fields to rename. -/
theorem renameItems_atoms (renamed : Members String) (values : List Json)
    (atoms : ∀ value ∈ values, value.IsAtom) : renameItems renamed values = values := by
  induction values with
  | nil => rfl
  | cons value values inductionHypothesis =>
    obtain ⟨first, others⟩ := List.forall_mem_cons.mp atoms
    rw [renameItems, renameFields_atom renamed value first, inductionHypothesis others]

/-- The name of a clause is replaced, and what is within the clause is renamed. -/
theorem renameFields_clause (renamed : Members String) (name : String) (condition : Json) :
    renameFields renamed (Predicate.clause name condition) =
      Predicate.clause (storedName renamed name) (renameFields renamed condition) := rfl

/-- A clause under the name of an operator keeps it. -/
theorem renameFields_operator (renamed : Members String) (name : String) (condition : Json)
    (operator : Predicate.isOperator name = true) :
    renameFields renamed (Predicate.clause name condition) =
      Predicate.clause name (renameFields renamed condition) := by
  rw [renameFields_clause, storedName, if_pos operator]

/-- The condition of a comparison with an atom has no fields to rename. -/
theorem renameFields_relation (renamed : Members String) (relation : Relation) (operand : Json)
    (atom : operand.IsAtom) :
    renameFields renamed (relation.condition operand) = relation.condition operand := by
  have kept := renameFields_atom renamed operand atom
  cases relation with
  | equal => exact kept
  | _ => exact (renameFields_operator renamed _ operand (by decide)).trans (by rw [kept]; rfl)

mutual

/-- Renaming the fields of a condition's predicate renames the condition's paths. The names of
operators are no fields and stay, and there are no names within the operands, which are atoms. -/
theorem renameFields_predicate (renamed : Members String) (condition : Condition)
    (atoms : ∀ test ∈ condition.tests, test.TakesAtoms) :
    renameFields renamed condition.predicate =
      (condition.rename (storedName renamed)).predicate :=
  match condition with
  | .compare path relation operand => by
    have atom : operand.IsAtom := atoms _ (List.mem_singleton.mpr rfl) operand
      (List.mem_singleton.mpr rfl)
    rw [Condition.predicate, renameFields_clause,
      renameFields_relation renamed relation operand atom]
    rfl
  | .oneOf path choices => by
    have kept := renameItems_atoms renamed choices (atoms _ (List.mem_singleton.mpr rfl))
    rw [Condition.predicate, renameFields_clause, renameFields_operator renamed _ _ (by decide),
      renameFields, kept]
    rfl
  | .holdsText path placement needle expected => by
    rw [Condition.predicate, renameFields_clause]
    cases expected with
    | true =>
      rw [if_pos rfl, renameFields_operator renamed _ _ (by decide)]
      rfl
    | false =>
      rw [if_neg Bool.false_ne_true, renameFields_operator renamed _ _ (by decide),
        renameFields_operator renamed _ _ (by decide)]
      rfl
  | .not inner => by
    rw [Condition.predicate, renameFields_operator renamed _ _ (by decide), renameFields,
      renameItems, renameFields_predicate renamed inner atoms]
    rfl
  | .all conditions => by
    rw [Condition.predicate, renameFields_operator renamed _ _ (by decide), renameFields,
      renameItems_predicates renamed conditions atoms]
    rfl
  | .any conditions => by
    rw [Condition.predicate, renameFields_operator renamed _ _ (by decide), renameFields,
      renameItems_predicates renamed conditions atoms]
    rfl
termination_by structural condition

/-- Renaming the fields of conditions' predicates renames the conditions' paths. -/
theorem renameItems_predicates (renamed : Members String) (conditions : List Condition)
    (atoms : ∀ test ∈ Condition.testsOf conditions, test.TakesAtoms) :
    renameItems renamed (Condition.predicates conditions) =
      Condition.predicates (Condition.renameEach (storedName renamed) conditions) :=
  match conditions with
  | [] => rfl
  | condition :: conditions => by
    rw [Condition.predicates, renameItems, Condition.renameEach, Condition.predicates,
      renameFields_predicate renamed condition fun test present =>
        atoms test (List.mem_append_left _ present),
      renameItems_predicates renamed conditions fun test present =>
        atoms test (List.mem_append_right _ present)]
termination_by structural conditions

end

/-- Under a policy without a last change, a condition is compiled to the predicate of the condition
with storage names. Where no field is renamed, the predicate is not gone through at all. -/
theorem Policy.predicateOf_rename (policy : Policy) (condition : Condition)
    (unchanged : policy.transform = none)
    (atoms : ∀ test ∈ condition.tests, test.TakesAtoms) :
    policy.predicateOf condition = (condition.rename (storedName policy.renamed)).predicate := by
  rw [predicateOf, unchanged]
  dsimp only
  split
  · next empty =>
    have same : storedName policy.renamed = id := by
      funext name
      rw [List.isEmpty_iff.mp empty, storedName]
      split <;> rfl
    rw [same, Condition.rename_same]
  · exact renameFields_predicate policy.renamed condition atoms

end DocumentQuery.Filter
