import DocumentQuery.Predicate
import DocumentQuery.Proofs.Except

/-!
# Clauses of predicates

What a predicate of one clause decides, for each kind of clause. A clause under a field's name
is decided by its condition alone; one of the three combinators decides all its terms and joins
the answers. A condition that is no object is equality with it, and any other relation to a
field is one to some of its readings: the value of the field, or the items of an array.

A predicate depends on a document only through what is read of it as the fields that it names. So it
can be asked about any way to read fields, of which those of documents are some.

A selection that succeeds is a filter by what is met; whether joined predicates are met is decided
by their parts, whichever of them has a fault. To select by joined predicates is to select by one
and then by the other, also in the faults, if the second has none.
-/

namespace DocumentQuery

/-- The order of two numbers or of two texts. Other values are in no order to one another. -/
inductive Json.Ordered : Json → Json → Ordering → Prop where
  | numbers (left right : Number) : Ordered (.number left) (.number right) (left.compare right)
  | texts (left right : String) : Ordered (.string left) (.string right) (Ord.compare left right)

/-- Values are comparable if they are in some order. -/
theorem Json.compareLike_iff (left right : Json) (order : Ordering) :
    left.compareLike? right = some order ↔ Json.Ordered left right order := by
  constructor
  · intro compared
    cases left <;> cases right <;> simp only [compareLike?, Option.some.injEq, reduceCtorEq]
      at compared
    · exact compared ▸ .numbers _ _
    · exact compared ▸ .texts _ _
  · intro ordered
    cases ordered <;> rfl

namespace Predicate

/-- The values that the value of a field can be read as: itself, where a missing one is null, and
each item if it is an array. -/
def readings (actual : Option Json) : List Json :=
  actual.getD .null :: ((actual.bind Json.array?).getD [])

/-- A field equals a value if one of its readings does. -/
theorem equals_iff (actual : Option Json) (expected : Json) :
    equals actual expected = true ↔ ∃ value ∈ readings actual, value.equal expected = true := by
  cases actual with
  | none => cases expected <;> simp [equals, readings, Json.isNull, Json.equal]
  | some value => cases value <;> simp [equals, readings, Json.array?]

/-- A field is in an accepted order to a bound if one of its readings is. An array is read as itself
and as each of its items, but is in no order to anything, so that its items alone decide. -/
theorem compares_iff (actual : Option Json) (bound : Json) (accept : Ordering → Bool) :
    compares actual bound accept = true ↔
      ∃ value ∈ readings actual, ∃ order, Json.Ordered value bound order ∧ accept order = true := by
  have check (value : Json) : (value.compareLike? bound).any accept = true ↔
      ∃ order, Json.Ordered value bound order ∧ accept order = true := by
    simp [Option.any_eq_true, Json.compareLike_iff]
  have never (value : Json) (apart : value.compareLike? bound = none) :
      ¬ ∃ order, Json.Ordered value bound order ∧ accept order = true := by
    rw [← check, apart]
    simp
  cases actual with
  | none => simpa [compares, readings] using never .null (by cases bound <;> rfl)
  | some value =>
    cases value with
    | array items =>
      have itself := never (.array items) (by cases bound <;> rfl)
      simp [compares, readings, Json.array?, check, itself]
    | _ => simp [compares, readings, Json.array?, check]

mutual

/-- Whether a predicate holds when the fields that it names are read in a given way. -/
def holdsWith (read : String → Option Json) : Json → Except Fault Bool
  | .object clauses => holdsAllWith read clauses
  | .null => .ok true
  | other => .error (.notAnObject other)
termination_by structural predicate => predicate

/-- Whether every clause holds when fields are read in a given way, in place of their paths in a
document. -/
def holdsAllWith (read : String → Option Json) : List (String × Json) → Except Fault Bool
  | [] => .ok true
  | (name, condition) :: clauses => do
    let clause ← match name with
      | "$and" => (decideTermsWith read condition).map fun terms => terms.all id
      | "$or" => (decideTermsWith read condition).map fun terms => terms.any id
      | "$nor" => (decideTermsWith read condition).map fun terms => !terms.any id
      | name =>
        if isOperator name then .error (.unknownCombinator name)
        else meets (read name) condition
    if clause then holdsAllWith read clauses else .ok false
termination_by structural clauses => clauses

/-- The answers of a combinator's terms when fields are read in a given way. -/
def decideTermsWith (read : String → Option Json) : Json → Except Fault (List Bool)
  | .array terms => decideEachWith read terms
  | _ => .error .termsNotAnArray
termination_by structural terms => terms

/-- The answers of predicates when fields are read in a given way. -/
def decideEachWith (read : String → Option Json) : List Json → Except Fault (List Bool)
  | [] => .ok []
  | term :: terms => do
    let answer ← holdsWith read term
    let answers ← decideEachWith read terms
    return answer :: answers
termination_by structural terms => terms

end

mutual

/-- A predicate holds of a document if it does when fields are read off the document. -/
theorem holds_eq (document predicate : Json) :
    holds document predicate = holdsWith document.valueAt? predicate := by
  cases predicate with
  | object clauses => exact holdsAll_eq document clauses
  | _ => rfl
termination_by structural predicate

/-- Clauses hold of a document if they do when fields are read off the document. -/
theorem holdsAll_eq (document : Json) (clauses : List (String × Json)) :
    holdsAll document clauses = holdsAllWith document.valueAt? clauses := by
  match clauses with
  | [] => rfl
  | (name, condition) :: clauses =>
    unfold holdsAllWith
    rw [← decideTerms_eq document condition, ← holdsAll_eq document clauses]
    rfl
termination_by structural clauses

/-- The answers of terms are those that they have when fields are read off the document. -/
theorem decideTerms_eq (document condition : Json) :
    decideTerms document condition = decideTermsWith document.valueAt? condition := by
  cases condition with
  | array terms => exact decideEach_eq document terms
  | _ => rfl
termination_by structural condition

/-- The answers of predicates are those that they have when fields are read off the document. -/
theorem decideEach_eq (document : Json) (terms : List Json) :
    decideEach document terms = decideEachWith document.valueAt? terms := by
  match terms with
  | [] => rfl
  | term :: terms =>
    simp only [decideEach, decideEachWith, holds_eq document term, decideEach_eq document terms]
termination_by structural terms

end

/-- A clause under a name that is no operator decides the condition on what is read as the field. -/
theorem holdsWith_field (read : String → Option Json) (name : String) (condition : Json)
    (field : isOperator name = false) :
    holdsWith read (clause name condition) = meets (read name) condition := by
  have andName : name ≠ "$and" := fun same => by simp [same, isOperator] at field
  have orName : name ≠ "$or" := fun same => by simp [same, isOperator] at field
  have norName : name ≠ "$nor" := fun same => by simp [same, isOperator] at field
  simp only [holdsWith, clause, holdsAllWith, field, Bool.false_eq_true, if_false]
  rcases meets (read name) condition with fault | _ | _ <;> rfl

/-- A clause under a name that is no operator decides the condition on the value of the field. -/
theorem holds_field (document : Json) (name : String) (condition : Json)
    (field : isOperator name = false) :
    holds document (clause name condition) = meets (document.valueAt? name) condition := by
  rw [holds_eq, holdsWith_field document.valueAt? name condition field]

/-- A condition that is no object is equality with it. -/
theorem meets_value (actual : Option Json) (expected : Json)
    (scalar : ∀ members, expected ≠ .object members) :
    meets actual expected = .ok (equals actual expected) := by
  cases expected with
  | object members => exact absurd rfl (scalar members)
  | _ => rfl

/-- A condition that is one operator has its answer. -/
theorem meets_operator (actual : Option Json) (name : String) (operand : Json) (answer : Bool)
    (operator : isOperator name = true)
    (decided : meetsAll actual [(name, operand)] [(name, operand)] =
      if answer then .ok true else .ok false) :
    meets actual (clause name operand) = .ok answer := by
  have alone : meets actual (clause name operand) =
      meetsAll actual [(name, operand)] [(name, operand)] := by
    simp [meets, clause, holdsOperators, operator]
  rw [alone, decided]
  cases answer <;> rfl

/-- All terms of a conjunction are decided, and all must hold. -/
theorem holds_and (document : Json) (terms : List Json) :
    holds document (clause "$and" (.array terms)) =
      (decideEach document terms).map fun answers => answers.all id := by
  simp only [holds, clause, holdsAll, decideTerms]
  rcases decideEach document terms with fault | answers
  · rfl
  · cases all : answers.all id <;> simp [Except.map, all]

/-- All terms of a disjunction are decided, and one must hold. -/
theorem holds_or (document : Json) (terms : List Json) :
    holds document (clause "$or" (.array terms)) =
      (decideEach document terms).map fun answers => answers.any id := by
  simp only [holds, clause, holdsAll, decideTerms]
  rcases decideEach document terms with fault | answers
  · rfl
  · cases any : answers.any id <;> simp [Except.map, any]

/-- All terms of a joint denial are decided, and none may hold. -/
theorem holds_nor (document : Json) (terms : List Json) :
    holds document (clause "$nor" (.array terms)) =
      (decideEach document terms).map fun answers => !answers.any id := by
  simp only [holds, clause, holdsAll, decideTerms]
  rcases decideEach document terms with fault | answers
  · rfl
  · cases any : answers.any id <;> simp [Except.map, any]

/-- Whether a document meets a predicate, which has to be decided on it without a fault. -/
def isMet (predicate document : Json) : Bool := (holds document predicate).toOption.getD false

/-- A predicate is met if it is decided so. -/
theorem isMet_iff (predicate document : Json) :
    isMet predicate document = true ↔ holds document predicate = .ok true := by
  unfold isMet
  rcases holds document predicate with fault | _ | _ <;> simp [Except.toOption]

/-- A conjunction of two predicates is met by what meets both. -/
theorem isMet_and (first second document : Json) :
    isMet (clause "$and" (.array [first, second])) document =
      (isMet first document && isMet second document) := by
  rw [isMet, holds_and, isMet, isMet]
  simp only [decideEach]
  rcases holds document first with fault | _ | _ <;>
    rcases holds document second with fault | _ | _ <;> rfl

/-- Two predicates joined are met by what meets both, also where nothing is added to the one that
every document meets. -/
theorem isMet_both (first second document : Json) :
    isMet (both first second) document = (isMet first document && isMet second document) := by
  unfold both
  split
  · rfl
  · exact isMet_and first second document

/-- Two predicates joined are decided in turn, the second also where the first does not hold. -/
theorem holds_both (document first second : Json) :
    holds document (both first second) = (do
      let front ← holds document first
      let back ← holds document second
      return front && back) := by
  unfold both
  split
  · have every : holds document (.object []) = .ok true := rfl
    rw [every, ok_bind]
    cases holds document second <;> rfl
  · rw [holds_and]
    simp only [decideEach]
    rcases holds document first with fault | _ | _ <;>
      rcases holds document second with fault | _ | _ <;> rfl

/-- Whether a predicate is decided on every document, without a fault. -/
def IsDecided (predicate : Json) : Prop :=
  ∀ document, ∃ answer, holds document predicate = .ok answer

/-- Terms that are decided have answers. -/
theorem decideEach_decided (document : Json) (terms : List Json)
    (decided : ∀ term ∈ terms, ∃ answer, holds document term = .ok answer) :
    ∃ answers, decideEach document terms = .ok answers := by
  induction terms with
  | nil => exact ⟨[], rfl⟩
  | cons term terms inductionHypothesis =>
    obtain ⟨answer, first⟩ := decided term List.mem_cons_self
    obtain ⟨answers, others⟩ := inductionHypothesis fun other later =>
      decided other (List.mem_cons_of_mem term later)
    exact ⟨answer :: answers, by simp only [decideEach, first, others, ok_bind, pure_eq_ok]⟩

/-- A disjunction of terms that are decided is decided. -/
theorem IsDecided.or {terms : List Json} (decided : ∀ term ∈ terms, IsDecided term) :
    IsDecided (clause "$or" (.array terms)) := by
  intro document
  obtain ⟨answers, each⟩ := decideEach_decided document terms fun term inside =>
    decided term inside document
  exact ⟨answers.any id, by rw [holds_or, each]; rfl⟩

/-- Two predicates joined are decided if both are. -/
theorem IsDecided.both {first second : Json} (front : IsDecided first) (back : IsDecided second) :
    IsDecided (both first second) := by
  intro document
  obtain ⟨left, leftDecided⟩ := front document
  obtain ⟨right, rightDecided⟩ := back document
  exact ⟨left && right, by rw [holds_both, leftDecided, rightDecided]; rfl⟩

/-- The predicate that every document meets selects all rows. -/
theorem select_always (rows : List Json) : select always rows = .ok rows := by
  induction rows with
  | nil => rfl
  | cons row rows inductionHypothesis =>
    rw [select, inductionHypothesis]
    rfl

/-- A predicate that is decided selects among any rows. -/
theorem IsDecided.select {predicate : Json} (decided : IsDecided predicate) (rows : List Json) :
    ∃ kept, select predicate rows = .ok kept := by
  induction rows with
  | nil => exact ⟨[], rfl⟩
  | cons row rows inductionHypothesis =>
    obtain ⟨answer, first⟩ := decided row
    obtain ⟨kept, others⟩ := inductionHypothesis
    exact ⟨_, by rw [Predicate.select, first, others]; rfl⟩

/-- A selection has a fault only if there are rows to decide the predicate on, and it is not decided
on all documents. -/
theorem select_undecided (predicate : Json) (rows : List Json) (fault : Fault)
    (failed : select predicate rows = .error fault) : rows ≠ [] ∧ ¬ IsDecided predicate := by
  constructor
  · rintro rfl
    exact absurd failed (by simp [select])
  · intro decided
    obtain ⟨kept, selected⟩ := decided.select rows
    exact absurd (failed.symm.trans selected) (by simp)

/-- Selecting by two predicates joined is selecting by the first and then by the second, if the
second is decided on every row. Faults of the first are found in both ways alike. -/
theorem select_both (first second : Json) (decided : IsDecided second) (rows : List Json) :
    select (both first second) rows = (select first rows >>= select second) := by
  induction rows with
  | nil => rfl
  | cons row rows inductionHypothesis =>
    obtain ⟨back, secondDecided⟩ := decided row
    rw [select, select, holds_both, inductionHypothesis]
    cases holds row first with
    | error fault => rfl
    | ok front =>
      cases selected : select first rows with
      | error fault => simp [secondDecided]
      | ok others =>
        obtain ⟨kept, later⟩ := decided.select others
        cases front <;> simp [select, secondDecided, later]

/-- Selecting keeps the rows that meet the predicate. -/
theorem select_met (predicate : Json) (rows kept : List Json)
    (selected : select predicate rows = .ok kept) : kept = rows.filter (isMet predicate) := by
  induction rows generalizing kept with
  | nil => exact (Except.ok.inj selected).symm
  | cons row rows inductionHypothesis =>
    obtain ⟨holds, decided, rest⟩ := (bind_ok_iff _ _ _).mp selected
    obtain ⟨others, selectedOthers, joined⟩ := (bind_ok_iff _ _ _).mp rest
    obtain rfl := Except.ok.inj joined
    obtain rfl := inductionHypothesis others selectedOthers
    have met : isMet predicate row = holds := by simp [isMet, decided, Except.toOption]
    rw [List.filter_cons, met]

end Predicate

end DocumentQuery
