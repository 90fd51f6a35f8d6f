import DocumentQuery.Proofs.Filter.Meaning
import DocumentQuery.Proofs.Filter.Renaming

/-!
# Filters that name a property like an operator

The name of a property may begin with a dollar sign, and then the clause that it is made into is
taken for a combinator, or for an operator that there is none of at this place. Neither can be
decided of any document, because a literal is no list of predicates. All terms of a combinator are
decided, so the first test with such a name is always come to, and its fault is that of the filter.
A filter without such a name has no fault.
-/

namespace DocumentQuery

namespace Predicate

/-- The fault of a clause whose field is named like an operator. -/
def misnamed (name : String) : Fault :=
  if name = "$and" ∨ name = "$or" ∨ name = "$nor" then .termsNotAnArray
  else .unknownCombinator name

/-- Only an array has terms. -/
theorem decideTerms_single (document condition : Json)
    (single : ∀ terms, condition ≠ .array terms) :
    decideTerms document condition = .error .termsNotAnArray := by
  cases condition with
  | array terms => exact absurd rfl (single terms)
  | _ => rfl

/-- A clause under the name of an operator has a fault on every document, if it does not list
terms. -/
theorem holds_misnamed (document : Json) (name : String) (condition : Json)
    (operator : isOperator name = true) (single : ∀ terms, condition ≠ .array terms) :
    holds document (clause name condition) = .error (misnamed name) := by
  have termless := decideTerms_single document condition single
  simp only [holds, clause, holdsAll, termless, misnamed]
  by_cases combinator : name = "$and" ∨ name = "$or" ∨ name = "$nor"
  · rw [if_pos combinator]
    rcases combinator with rfl | rfl | rfl <;> rfl
  · rw [if_neg combinator]
    obtain ⟨noAnd, noOr, noNor⟩ : name ≠ "$and" ∧ name ≠ "$or" ∧ name ≠ "$nor" := by
      simpa only [not_or] using combinator
    simp [operator]

end Predicate

namespace Filter

open Predicate

/-- The condition of a comparison with an atom is no array. -/
theorem Relation.condition_single (relation : Relation) (operand : Json) (atom : operand.IsAtom)
    (terms : List Json) : relation.condition operand ≠ .array terms := by
  cases relation with
  | equal =>
    rintro rfl
    exact atom
  | _ => exact Json.noConfusion

/-- Whether a test is about a property that is named like an operator. -/
def Condition.isMisnamed (test : Condition) : Bool := isOperator test.path

/-- A single test that is the first misnamed one is misnamed itself. -/
theorem Condition.first_alone {test first : Condition}
    (found : [test].find? Condition.isMisnamed = some first) :
    test = first ∧ isOperator test.path = true := by
  have misnamed : first.isMisnamed = true := List.find?_some found
  obtain rfl := List.mem_singleton.mp (List.mem_of_find?_eq_some found)
  exact ⟨rfl, misnamed⟩

mutual

/-- A condition in which a test is misnamed has the fault of the first such test on every document.
The tests of a connective are decided in their order, and those before the first misnamed one have
no fault. -/
theorem predicate_misnamed (document : Json) (condition test : Condition)
    (atoms : ∀ test ∈ condition.tests, test.TakesAtoms)
    (first : condition.tests.find? Condition.isMisnamed = some test) :
    holds document condition.predicate = .error (misnamed test.path) :=
  match condition with
  | .compare path relation operand => by
    obtain ⟨rfl, operator⟩ := Condition.first_alone first
    have atom : operand.IsAtom := atoms _ (List.mem_singleton.mpr rfl) operand
      (List.mem_singleton.mpr rfl)
    exact holds_misnamed document path _ operator (relation.condition_single operand atom)
  | .oneOf path choices => by
    obtain ⟨rfl, operator⟩ := Condition.first_alone first
    exact holds_misnamed document path _ operator fun _ => Json.noConfusion
  | .holdsText path placement needle expected => by
    obtain ⟨rfl, operator⟩ := Condition.first_alone first
    refine holds_misnamed document path _ operator fun _ => ?_
    cases expected <;> exact Json.noConfusion
  | .not inner => by
    have fault := predicate_misnamed document inner test atoms first
    simp [Condition.predicate, holds_nor, decideEach, fault, Except.map]
  | .all conditions => by
    have fault := predicates_misnamed document conditions test atoms first
    simp [Condition.predicate, holds_and, fault, Except.map]
  | .any conditions => by
    have fault := predicates_misnamed document conditions test atoms first
    simp [Condition.predicate, holds_or, fault, Except.map]
termination_by structural condition

/-- Conditions in which a test is misnamed have the fault of the first such test. A condition
without one has no fault of its own, so those behind it are come to. -/
theorem predicates_misnamed (document : Json) (conditions : List Condition) (test : Condition)
    (atoms : ∀ test ∈ Condition.testsOf conditions, test.TakesAtoms)
    (first : (Condition.testsOf conditions).find? Condition.isMisnamed = some test) :
    decideEach document (Condition.predicates conditions) = .error (misnamed test.path) :=
  match conditions with
  | [] => by simp [Condition.testsOf] at first
  | condition :: conditions => by
    have front : ∀ test ∈ condition.tests, test.TakesAtoms :=
      fun test present => atoms test (List.mem_append_left _ present)
    have back : ∀ test ∈ Condition.testsOf conditions, test.TakesAtoms :=
      fun test present => atoms test (List.mem_append_right _ present)
    rw [Condition.testsOf, List.find?_append] at first
    rw [Condition.predicates, decideEach]
    cases found : condition.tests.find? Condition.isMisnamed with
    | some own =>
      obtain rfl : own = test := by simpa [found] using first
      rw [predicate_misnamed document condition own front found]
      rfl
    | none =>
      have fields : ∀ test ∈ condition.tests, isOperator test.path = false := by
        simpa [Condition.isMisnamed] using found
      obtain ⟨answer, decided, -⟩ := predicate_decides document condition fields
        fun test present => (front test present).comparesScalar
      rw [decided, predicates_misnamed document conditions test back (by simpa [found] using first)]
      rfl
termination_by structural conditions

end

/-- The predicate of a condition is decided on every document exactly if no test of it is misnamed,
and otherwise on none. -/
theorem predicate_decided_iff (condition : Condition) (document : Json)
    (atoms : ∀ test ∈ condition.tests, test.TakesAtoms) :
    (∃ answer, holds document condition.predicate = .ok answer) ↔
      ∀ test ∈ condition.tests, isOperator test.path = false := by
  constructor
  · rintro ⟨answer, decided⟩
    cases found : condition.tests.find? Condition.isMisnamed with
    | some test =>
      have fault := predicate_misnamed document condition test atoms found
      exact absurd (decided.symm.trans fault) (by simp)
    | none => simpa [Condition.isMisnamed] using found
  · intro fields
    obtain ⟨answer, decided, -⟩ := predicate_decides document condition fields
      fun test present => (atoms test present).comparesScalar
    exact ⟨answer, decided⟩

section Policies

variable (policy : Policy) (text : String) (condition : Condition)
variable (unchanged : policy.transform = none) (admitted : policy.Admits text condition)

include unchanged admitted

/-- What a text is compiled to is the predicate of a condition with storage names, whose tests take
atoms. -/
theorem Policy.Admits.stored :
    policy.predicateOf condition = (condition.rename (storedName policy.renamed)).predicate ∧
      ∀ test ∈ (condition.rename (storedName policy.renamed)).tests, test.TakesAtoms := by
  have atoms := atoms_of_text text condition admitted.read
  exact ⟨policy.predicateOf_rename condition unchanged atoms,
    condition.takesAtoms_rename (storedName policy.renamed) atoms⟩

/-- What a text is compiled to is decided on a document exactly if the text names fields only. -/
theorem Policy.Admits.decided_iff (document : Json) :
    (∃ answer, holds document (policy.predicateOf condition) = .ok answer) ↔
      condition.NamesFields policy.renamed := by
  obtain ⟨stored, atoms⟩ := admitted.stored policy text condition unchanged
  rw [stored, predicate_decided_iff _ document atoms, Condition.namesFields_iff]

/-- What a text is compiled to has one fault on every document, if the text names an operator. -/
theorem Policy.Admits.fault (misnames : ¬ condition.NamesFields policy.renamed) :
    ∃ name, isOperator name = true ∧
      ∀ document, holds document (policy.predicateOf condition) = .error (misnamed name) := by
  obtain ⟨stored, atoms⟩ := admitted.stored policy text condition unchanged
  rw [Condition.namesFields_iff] at misnames
  cases found : (condition.rename (storedName policy.renamed)).tests.find?
      Condition.isMisnamed with
  | none => exact absurd (by simpa [Condition.isMisnamed] using found) misnames
  | some test =>
    have operator : test.isMisnamed = true := List.find?_some found
    refine ⟨test.path, operator, fun document => ?_⟩
    rw [stored, predicate_misnamed document _ test atoms found]

end Policies

end Filter

end DocumentQuery
