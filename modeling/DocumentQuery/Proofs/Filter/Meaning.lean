import DocumentQuery.Proofs.Filter.Tests
import DocumentQuery.Proofs.Pattern.Escape
import DocumentQuery.Proofs.Predicate

/-!
# What a filter means

The meaning of a condition, apart from the predicate that it is made into: tests are about the
readings of the value at a path, and the connectives are the Boolean ones. The predicate of a
filter is decided on every document and answers with its meaning. Two things are needed for
that, and both are shown of the conditions of filters: an operand of a comparison for equality
is no object, and a path does not look like an operator.
-/

namespace DocumentQuery.Filter

open Predicate (readings)

/-- Whether some of the values is in the relation to an operand. Inequality is the negation of
equality, so it is about all of them. -/
def Relation.Holds (values : List Json) (operand : Json) : Relation → Prop
  | .equal => ∃ value ∈ values, value.equal operand = true
  | .unequal => ¬ ∃ value ∈ values, value.equal operand = true
  | .greater => ∃ value ∈ values, Json.Ordered value operand .gt
  | .atLeast => ∃ value ∈ values, ∃ order, Json.Ordered value operand order ∧ order ≠ .lt
  | .less => ∃ value ∈ values, Json.Ordered value operand .lt
  | .atMost => ∃ value ∈ values, ∃ order, Json.Ordered value operand order ∧ order ≠ .gt

namespace Condition

mutual

/-- The meaning of a condition, said without predicates: what the values of a field are, how they
stand to a literal, and where a text stands in them. -/
def Holds (document : Json) : Condition → Prop
  | .compare path relation operand => relation.Holds (readings (document.valueAt? path)) operand
  | .oneOf path choices =>
    ∃ choice ∈ choices, Relation.equal.Holds (readings (document.valueAt? path)) choice
  | .holdsText path placement needle expected =>
    (∃ text, Json.string text ∈ readings (document.valueAt? path) ∧
      placement.Stands needle.toList text.toList) ↔ expected = true
  | .not condition => ¬ Holds document condition
  | .all conditions => AllHold document conditions
  | .any conditions => AnyHolds document conditions
termination_by structural condition => condition

/-- Whether all of the conditions hold, as they do if there are none. -/
def AllHold (document : Json) : List Condition → Prop
  | [] => True
  | condition :: conditions => Holds document condition ∧ AllHold document conditions
termination_by structural conditions => conditions

/-- Whether one of the conditions holds, as none does if there are none. -/
def AnyHolds (document : Json) : List Condition → Prop
  | [] => False
  | condition :: conditions => Holds document condition ∨ AnyHolds document conditions
termination_by structural conditions => conditions

end

/-- Whether a comparison is with a value that is no object. An object would be taken
for operators. -/
def ComparesScalar : Condition → Prop
  | .compare _ _ operand => ∀ members, operand ≠ .object members
  | _ => True

end Condition

open Predicate

/-- A comparison is decided by its relation to the readings of the field. A missing field has no
reading that could be ordered, and the items of an array are readings besides the array itself. -/
theorem meets_comparison (actual : Option Json) (relation : Relation) (operand : Json)
    (scalar : ∀ members, operand ≠ .object members) :
    ∃ answer, meets actual (relation.condition operand) = .ok answer ∧
      (answer = true ↔ relation.Holds (readings actual) operand) := by
  have ordered (accept : Ordering → Bool) := compares_iff actual operand accept
  cases relation with
  | equal => exact ⟨_, meets_value actual operand scalar, equals_iff actual operand⟩
  | unequal =>
    refine ⟨_, meets_operator actual "$ne" operand _ (by decide) rfl, ?_⟩
    simp [Relation.Holds, ← equals_iff]
  | greater =>
    refine ⟨_, meets_operator actual "$gt" operand _ (by decide) rfl, ?_⟩
    simp [Relation.Holds, ordered]
  | atLeast =>
    refine ⟨_, meets_operator actual "$gte" operand _ (by decide) rfl, ?_⟩
    simp [Relation.Holds, ordered]
  | less =>
    refine ⟨_, meets_operator actual "$lt" operand _ (by decide) rfl, ?_⟩
    simp [Relation.Holds, ordered]
  | atMost =>
    refine ⟨_, meets_operator actual "$lte" operand _ (by decide) rfl, ?_⟩
    simp [Relation.Holds, ordered]

/-- A membership is decided by equality to one of its choices. -/
theorem meets_membership (actual : Option Json) (choices : List Json) :
    ∃ answer, meets actual (clause "$in" (.array choices)) = .ok answer ∧
      (answer = true ↔ ∃ choice ∈ choices, Relation.equal.Holds (readings actual) choice) := by
  refine ⟨choices.any (equals actual), meets_operator actual "$in" _ _ (by decide) rfl, ?_⟩
  simp [Relation.Holds, ← equals_iff]

/-- The pattern of a placement is decided by where the text stands in a reading. The pattern is read
as its pieces, whatever the text is, and these are found exactly where the text stands. -/
theorem meets_pattern (actual : Option Json) (placement : Placement) (needle : String) :
    ∃ answer,
      meets actual (clause "$regex" (.string (placement.pattern needle))) = .ok answer ∧
      (answer = true ↔ ∃ text, Json.string text ∈ readings actual ∧
        placement.Stands needle.toList text.toList) := by
  let check (value : Json) : Bool :=
    value.string?.any (Pattern.found Pattern.plain (placement.pieces needle.toList))
  have check_iff (value : Json) : check value = true ↔
      ∃ text, value = .string text ∧ placement.Stands needle.toList text.toList := by
    cases value <;> simp [check, Json.string?, Placement.pieces_found]
  have read := placement.pattern_read needle
  have matched : ∃ answer,
      matchesPattern actual (.string (placement.pattern needle)) "" = .ok answer ∧
      (answer = true ↔ ∃ value ∈ readings actual, check value = true) := by
    cases actual with
    | none =>
      exact ⟨false, by simp [matchesPattern, read], by simp [readings, check, Json.string?]⟩
    | some value =>
      cases value with
      | array items =>
        refine ⟨items.any check, by simp [matchesPattern, read]; rfl, ?_⟩
        simp [readings, Json.array?, check, Json.string?]
      | _ =>
        refine ⟨check _, by simp [matchesPattern, read]; rfl, ?_⟩
        simp [readings, Json.array?]
  obtain ⟨answer, decided, found⟩ := matched
  refine ⟨answer, ?_, ?_⟩
  · have options : patternOptions [("$regex", .string (placement.pattern needle))] = "" := rfl
    refine meets_operator actual "$regex" _ answer (by decide) ?_
    simp [meetsAll, options, decided]
  · simp only [found, check_iff]
    constructor
    · rintro ⟨_, present, text, rfl, stands⟩
      exact ⟨text, present, stands⟩
    · rintro ⟨text, present, stands⟩
      exact ⟨_, present, text, rfl, stands⟩

/-- A field's clause is decided by its condition. -/
theorem holds_path (document : Json) (path : String) (condition : Json)
    (field : isOperator path = false) (meaning : Prop)
    (decided : ∃ answer, meets (document.valueAt? path) condition = .ok answer ∧
      (answer = true ↔ meaning)) :
    ∃ answer, holds document (clause path condition) = .ok answer ∧
      (answer = true ↔ meaning) := by
  rwa [holds_field document path condition field]

mutual

/-- The predicate of a condition is decided on every document, and the answer is whether the
condition holds, if its tests are about fields and compare them with scalars. -/
theorem predicate_decides (document : Json) (condition : Condition)
    (fields : ∀ test ∈ condition.tests, isOperator test.path = false)
    (scalars : ∀ test ∈ condition.tests, test.ComparesScalar) :
    ∃ answer, holds document condition.predicate = .ok answer ∧
      (answer = true ↔ condition.Holds document) :=
  match condition with
  | .compare path relation operand => by
    have field := fields _ (List.mem_singleton.mpr rfl)
    have scalar := scalars _ (List.mem_singleton.mpr rfl)
    exact holds_path document path _ field _ (meets_comparison _ relation operand scalar)
  | .oneOf path choices => by
    have field := fields _ (List.mem_singleton.mpr rfl)
    exact holds_path document path _ field _ (meets_membership _ choices)
  | .holdsText path placement needle expected => by
    have field := fields _ (List.mem_singleton.mpr rfl)
    obtain ⟨found, decided, stands⟩ := meets_pattern (document.valueAt? path) placement needle
    refine holds_path document path _ field _ ?_
    cases expected with
    | true => exact ⟨found, decided, by simp [Condition.Holds, stands]⟩
    | false =>
      refine ⟨!found, ?_, by simp [Condition.Holds, ← stands]⟩
      refine meets_operator _ "$not" _ (!found) (by decide) ?_
      simp [meetsAll, decided, Except.map]
  | .not inner => by
    obtain ⟨answer, decided, meaning⟩ := predicate_decides document inner fields scalars
    refine ⟨!answer, ?_, by simp [Condition.Holds, ← meaning]⟩
    simp [Condition.predicate, holds_nor, decideEach, decided, Except.map]
  | .all conditions => by
    obtain ⟨answers, decided, all, _⟩ := predicates_decide document conditions fields scalars
    refine ⟨answers.all id, ?_, all⟩
    simp [Condition.predicate, holds_and, decided, Except.map]
  | .any conditions => by
    obtain ⟨answers, decided, _, any⟩ := predicates_decide document conditions fields scalars
    refine ⟨answers.any id, ?_, any⟩
    simp [Condition.predicate, holds_or, decided, Except.map]
termination_by structural condition

/-- The predicates of conditions are all decided, each by its meaning. So all of them are met
exactly if all conditions hold, and any of them exactly if any condition does. -/
theorem predicates_decide (document : Json) (conditions : List Condition)
    (fields : ∀ test ∈ Condition.testsOf conditions, isOperator test.path = false)
    (scalars : ∀ test ∈ Condition.testsOf conditions, test.ComparesScalar) :
    ∃ answers, decideEach document (Condition.predicates conditions) = .ok answers ∧
      (answers.all id = true ↔ Condition.AllHold document conditions) ∧
      (answers.any id = true ↔ Condition.AnyHolds document conditions) :=
  match conditions with
  | [] => ⟨[], rfl, by simp [Condition.AllHold], by simp [Condition.AnyHolds]⟩
  | condition :: conditions => by
    obtain ⟨answer, decided, meaning⟩ := predicate_decides document condition
      (fun test present => fields test (List.mem_append_left _ present))
      (fun test present => scalars test (List.mem_append_left _ present))
    obtain ⟨answers, others, all, any⟩ := predicates_decide document conditions
      (fun test present => fields test (List.mem_append_right _ present))
      (fun test present => scalars test (List.mem_append_right _ present))
    refine ⟨answer :: answers, ?_, ?_, ?_⟩
    · simp [Condition.predicates, decideEach, decided, others]
    · simp [Condition.AllHold, ← meaning, ← all]
    · simp [Condition.AnyHolds, ← meaning, ← any]
termination_by structural conditions

end

/-- A test that takes atoms compares with scalars. -/
theorem Condition.TakesAtoms.comparesScalar {test : Condition} (atoms : test.TakesAtoms) :
    test.ComparesScalar := by
  cases test with
  | compare path relation operand =>
    have atom : operand.IsAtom := atoms operand (List.mem_singleton.mpr rfl)
    rintro members rfl
    exact atom
  | _ => trivial

/-- The tests of a filter text compare with scalars. -/
theorem scalars_of_text (text : String) (condition : Condition)
    (read : Condition.ofText text = .ok condition) :
    ∀ test ∈ condition.tests, test.ComparesScalar :=
  fun test present => (atoms_of_text text condition read test present).comparesScalar

/-- The predicate of a filter is decided on every document, and the answer is the meaning of the
filter, if no property of it has a name that begins with a dollar sign.

Proof: by induction on the condition. A test is decided by one operator or by a pattern, and
`meets_pattern` says that the pattern of a text finds the text where it must stand; connectives are
decided from their parts. Texts are read with literals that are no lists or objects, which is what
keeps an operand from being taken for a condition. -/
theorem filter_means (text : String) (condition : Condition)
    (read : Condition.ofText text = .ok condition)
    (fields : ∀ test ∈ condition.tests, test.path.toList.head? ≠ some '$') (document : Json) :
    ∃ answer, Predicate.holds document condition.predicate = .ok answer ∧
      (answer = true ↔ condition.Holds document) := by
  have named (test : Condition) (present : test ∈ condition.tests) :
      isOperator test.path = false := by
    simpa [isOperator] using fields test present
  exact predicate_decides document condition named (scalars_of_text text condition read)

set_option maxRecDepth 20000 in
/-- A filter that seeks a text with a point in it, met by a document in which the text stands in
no item of an array. -/
theorem negated_text_met :
    let condition : Condition := .not (.holdsText "tags" .anywhere "a.b" true)
    let document : Json := .object [("tags", .array ["axb", "c"])]
    Condition.ofText "not contains(tags,'a.b')" = .ok condition ∧
    (∀ test ∈ condition.tests, test.path.toList.head? ≠ some '$') ∧
    (∃ answer, Predicate.holds document condition.predicate = .ok answer ∧
      (answer = true ↔ condition.Holds document)) ∧
    Predicate.holds document condition.predicate = .ok true := by
  intro condition document
  have sequence : tokens "not contains(tags,'a.b')".toList =
      .ok [⟨.word "not", 0⟩, ⟨.word "contains", 4⟩, ⟨.opening, 12⟩, ⟨.word "tags", 13⟩,
        ⟨.comma, 17⟩, ⟨.literal (.string "a.b"), 18⟩, ⟨.closing, 23⟩] := rfl
  have negation : Spells "not" "not" := rfl
  have function : Spells "contains" "contains" := rfl
  have affirmed : ¬ Spells "contains" "not" := by
    simp [Spells, Text.equalIgnoringCase, Text.lowerAscii]
  have states : Test "contains" [.opening, .word "tags", .comma, .literal (.string "a.b"),
      .closing] (.holdsText (memberPath "tags") .anywhere "a.b" true) :=
    .text (by simp [textTests]) function
  have read : Condition.ofText "not contains(tags,'a.b')" = .ok condition := by
    rw [Condition.ofText, sequence, ok_bind, ofTokens_iff]
    exact .single (.alone (.negation negation (.test affirmed states)))
  have fields : ∀ test ∈ condition.tests, test.path.toList.head? ≠ some '$' := by
    simp [condition, Condition.tests, Condition.path]
  exact ⟨read, fields, filter_means _ condition read fields document, rfl⟩

end DocumentQuery.Filter
