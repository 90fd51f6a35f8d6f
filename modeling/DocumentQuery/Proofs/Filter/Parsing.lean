import DocumentQuery.Proofs.Filter.SingleTests
import DocumentQuery.Proofs.Filter.Spelling

/-!
# The reader of filters accepts its grammar

Whatever the readers take are tokens of the phrase that they answer with, and the tokens of a
phrase are taken whole wherever nothing stands behind them that could belong to the phrase. Both
directions are proved of all five readers at once: the first by induction on the steps that the
readers are given, the second by induction on the derivation, with a bound on the steps that it
needs.
-/

namespace DocumentQuery.Filter

variable (last : Nat)

/-- A phrase is read from some tokens, up to the rest of them. -/
def Phrase.IsRead (levels steps : Nat) (tokens rest : List Placed) : Phrase Condition → Prop
  | .filter condition => readAny last levels steps tokens = .ok (condition, rest)
  | .alternatives conditions =>
    readAlternatives last levels steps tokens = .ok (conditions, rest)
  | .conjunction condition => readAll last levels steps tokens = .ok (condition, rest)
  | .conjuncts conditions => readConjuncts last levels steps tokens = .ok (conditions, rest)
  | .operand condition => readOperand last levels steps tokens = .ok (condition, rest)

/-- Some tokens are a phrase and a rest. -/
def Phrase.Begins (levels : Nat) (phrase : Phrase Condition) (tokens rest : List Placed) : Prop :=
  ∃ used, tokens = used ++ rest ∧ Derives levels phrase (used.map Placed.token)

/-- A conjunction and the alternatives behind it are a filter. Without alternatives the filter is
the conjunction, which is not wrapped. -/
theorem begins_filter {levels : Nat} {first : Condition} {others : List Condition}
    {tokens middle rest : List Placed}
    (head : (Phrase.conjunction first).Begins levels tokens middle)
    (tail : (Phrase.alternatives others).Begins levels middle rest) :
    (Phrase.filter (.anyOf first others)).Begins levels tokens rest := by
  obtain ⟨front, rfl, only⟩ := head
  obtain ⟨back, rfl, more⟩ := tail
  refine ⟨front ++ back, by simp, ?_⟩
  rw [List.map_append]
  cases others with
  | nil =>
    have empty : back.map Placed.token = [] := by
      generalize back.map Placed.token = tokens at more
      cases more
      rfl
    rw [empty, List.append_nil]
    exact .single only
  | cons second others => exact .any only more

/-- An operand and the operands behind it are a conjunction. Without further operands the
conjunction is the operand, which is not wrapped. -/
theorem begins_conjunction {levels : Nat} {first : Condition} {others : List Condition}
    {tokens middle rest : List Placed}
    (head : (Phrase.operand first).Begins levels tokens middle)
    (tail : (Phrase.conjuncts others).Begins levels middle rest) :
    (Phrase.conjunction (.allOf first others)).Begins levels tokens rest := by
  obtain ⟨front, rfl, only⟩ := head
  obtain ⟨back, rfl, more⟩ := tail
  refine ⟨front ++ back, by simp, ?_⟩
  rw [List.map_append]
  cases others with
  | nil =>
    have empty : back.map Placed.token = [] := by
      generalize back.map Placed.token = tokens at more
      cases more
      rfl
    rw [empty, List.append_nil]
    exact .alone only
  | cons second others => exact .all only more

/-- Behind a `not` an operand is read with one level less. -/
theorem readOperand_negation (levels steps : Nat) (tokens : List Placed)
    (negated : startsWith "not" tokens = true) :
    readOperand last levels (steps + 1) tokens =
      match levels with
      | 0 => .error ⟨positionOf last tokens, .tooDeep⟩
      | levels + 1 =>
        (readOperand last levels steps tokens.tail).map
          fun (inner, rest) => (.not inner, rest) := by
  rw [readOperand.eq_def]
  simp only [negated, if_true]
  cases levels with
  | zero => rfl
  | succ levels => cases readOperand last levels steps tokens.tail <;> rfl

/-- Behind an opening parenthesis a filter is read with one level less. If no level is left, the
text is refused at the place of the parenthesis. -/
theorem readOperand_group (levels steps position : Nat) (behind : List Placed) :
    readOperand last levels (steps + 1) (⟨.opening, position⟩ :: behind) =
      match levels with
      | 0 => .error ⟨position, .tooDeep⟩
      | levels + 1 =>
        (readAny last levels steps behind).bind fun (inner, middle) =>
          (readClosing last middle).map fun rest => (inner, rest) := by
  rw [readOperand.eq_def]
  simp only [startsWith, Bool.false_eq_true, if_false]
  cases levels with
  | zero => rfl
  | succ levels =>
    simp only
    rcases readAny last levels steps behind with fault | ⟨inner, middle⟩
    · rfl
    · simp only [ok_bind, Except.bind]
      cases readClosing last middle <;> rfl

/-- Anything else is read as a test. -/
theorem readOperand_test (levels steps : Nat) (tokens : List Placed)
    (affirmed : startsWith "not" tokens = false)
    (bare : ∀ position behind, tokens ≠ ⟨.opening, position⟩ :: behind) :
    readOperand last levels (steps + 1) tokens = readTest last tokens := by
  rw [readOperand.eq_def]
  simp only [affirmed, Bool.false_eq_true, if_false]

/-- What is read is a phrase and a rest. The five readers call one another with one step less, so
the statement is about all phrases together, by induction on the steps and by cases along the reader
of each. -/
theorem begins_of_read (levels steps : Nat) (tokens rest : List Placed)
    (phrase : Phrase Condition)
    (read : phrase.IsRead last levels steps tokens rest) : phrase.Begins levels tokens rest := by
  induction steps generalizing levels tokens rest phrase with
  | zero =>
    cases phrase <;>
      simp [Phrase.IsRead, readAny, readAlternatives, readAll, readConjuncts, readOperand] at read
  | succ steps inductionHypothesis =>
    cases phrase with
    | filter condition =>
      simp only [Phrase.IsRead, readAny, bind_ok_iff, pure_eq_ok, Except.ok.injEq,
        Prod.mk.injEq] at read
      obtain ⟨⟨first, middle⟩, head, ⟨others, _⟩, tail, rfl, rfl⟩ := read
      exact begins_filter (inductionHypothesis levels tokens middle (.conjunction first) head)
        (inductionHypothesis levels middle _ (.alternatives others) tail)
    | alternatives conditions =>
      cases more : startsWith "or" tokens with
      | false =>
        simp only [Phrase.IsRead, readAlternatives, more, Bool.false_eq_true, if_false,
          Except.ok.injEq, Prod.mk.injEq] at read
        obtain ⟨rfl, rfl⟩ := read
        exact ⟨[], rfl, .noAlternative⟩
      | true =>
        obtain ⟨word, position, behind, rfl, spelled⟩ := (startsWith_iff _ _).mp more
        simp only [Phrase.IsRead, readAlternatives, more, if_true, List.tail_cons, bind_ok_iff,
          pure_eq_ok, Except.ok.injEq, Prod.mk.injEq] at read
        obtain ⟨⟨next, middle⟩, head, ⟨others, _⟩, tail, rfl, rfl⟩ := read
        obtain ⟨front, rfl, first⟩ :=
          inductionHypothesis levels behind middle (.conjunction next) head
        obtain ⟨back, rfl, later⟩ :=
          inductionHypothesis levels middle _ (.alternatives others) tail
        refine ⟨⟨.word word, position⟩ :: (front ++ back), by simp, ?_⟩
        simpa using Derives.alternative spelled first later
    | conjunction condition =>
      simp only [Phrase.IsRead, readAll, bind_ok_iff, pure_eq_ok, Except.ok.injEq,
        Prod.mk.injEq] at read
      obtain ⟨⟨first, middle⟩, head, ⟨others, _⟩, tail, rfl, rfl⟩ := read
      exact begins_conjunction (inductionHypothesis levels tokens middle (.operand first) head)
        (inductionHypothesis levels middle _ (.conjuncts others) tail)
    | conjuncts conditions =>
      cases more : startsWith "and" tokens with
      | false =>
        simp only [Phrase.IsRead, readConjuncts, more, Bool.false_eq_true, if_false,
          Except.ok.injEq, Prod.mk.injEq] at read
        obtain ⟨rfl, rfl⟩ := read
        exact ⟨[], rfl, .noConjunct⟩
      | true =>
        obtain ⟨word, position, behind, rfl, spelled⟩ := (startsWith_iff _ _).mp more
        simp only [Phrase.IsRead, readConjuncts, more, if_true, List.tail_cons, bind_ok_iff,
          pure_eq_ok, Except.ok.injEq, Prod.mk.injEq] at read
        obtain ⟨⟨next, middle⟩, head, ⟨others, _⟩, tail, rfl, rfl⟩ := read
        obtain ⟨front, rfl, first⟩ :=
          inductionHypothesis levels behind middle (.operand next) head
        obtain ⟨back, rfl, later⟩ :=
          inductionHypothesis levels middle _ (.conjuncts others) tail
        refine ⟨⟨.word word, position⟩ :: (front ++ back), by simp, ?_⟩
        simpa using Derives.conjunct spelled first later
    | operand condition =>
      simp only [Phrase.IsRead] at read
      cases negated : startsWith "not" tokens with
      | true =>
        rw [readOperand_negation last levels steps tokens negated] at read
        obtain ⟨word, position, behind, rfl, spelled⟩ := (startsWith_iff _ _).mp negated
        cases levels with
        | zero => simp at read
        | succ levels =>
          simp only [List.tail_cons, map_ok_iff, Prod.mk.injEq] at read
          obtain ⟨⟨inner, _⟩, operand, rfl, rfl⟩ := read
          obtain ⟨used, rfl, derived⟩ :=
            inductionHypothesis levels behind _ (.operand inner) operand
          exact ⟨⟨.word word, position⟩ :: used, rfl, .negation spelled derived⟩
      | false =>
        by_cases grouped : ∃ position behind, tokens = ⟨.opening, position⟩ :: behind
        · obtain ⟨position, behind, rfl⟩ := grouped
          rw [readOperand_group] at read
          cases levels with
          | zero => simp at read
          | succ levels =>
            obtain ⟨⟨inner, middle⟩, any, closed⟩ := (bind_ok_iff _ _ _).mp read
            simp only [map_ok_iff, Prod.mk.injEq] at closed
            obtain ⟨_, closed, rfl, rfl⟩ := closed
            obtain ⟨used, rfl, derived⟩ :=
              inductionHypothesis levels behind middle (.filter inner) any
            obtain ⟨place, rfl⟩ := (readClosing_iff last middle _).mp closed
            refine ⟨⟨.opening, position⟩ :: (used ++ [⟨.closing, place⟩]), by simp, ?_⟩
            simpa using Derives.group derived
        · rw [readOperand_test last levels steps tokens negated
            fun position behind same => grouped ⟨position, behind, same⟩] at read
          obtain ⟨name, position, used, rfl, states⟩ :=
            readTest_sound last tokens condition rest read
          have named : ¬ Spells name "not" := by
            intro spelled
            have starts := (startsWith_iff "not" _).mpr ⟨name, position, used ++ rest, rfl, spelled⟩
            simp [starts] at negated
          exact ⟨⟨.word name, position⟩ :: used, rfl, .test named states⟩

/-- The keywords that would go on with a phrase or with the test that it may end in. -/
def Phrase.goesOn : Phrase Condition → List String
  | .filter _ | .alternatives _ => ["eq", "and", "or"]
  | .conjunction _ | .conjuncts _ => ["eq", "and"]
  | .operand _ => ["eq"]

/-- What stands behind a phrase does not go on with it. -/
def Phrase.EndsBefore (phrase : Phrase Condition) (rest : List Placed) : Prop :=
  ∀ keyword ∈ phrase.goesOn, startsWith keyword rest = false

/-- The readers called within one another before the first token is taken. -/
def Phrase.callsFirst : Phrase Condition → Nat
  | .filter _ => 3
  | .conjunction _ => 2
  | .alternatives _ | .conjuncts _ => 1
  | .operand _ => 0

/-- A token that spells one keyword does not spell another. -/
theorem startsWith_other (word keyword other : String) (position : Nat) (rest : List Placed)
    (spelled : Spells word keyword)
    (different : Text.lowerAscii keyword.toList ≠ Text.lowerAscii other.toList) :
    startsWith other (⟨.word word, position⟩ :: rest) = false := by
  cases starts : startsWith other (⟨.word word, position⟩ :: rest) with
  | false => rfl
  | true => exact absurd (spells_unique word keyword other spelled starts) different

/-- Alternatives do not go on with the conjunction before them. They begin with the word that joins
them, which is none of those that go on with a conjunction, or they are none and what follows ends
it. -/
theorem endsBefore_alternatives {levels : Nat} {conditions : List Condition}
    {tokens : List Token} (derived : Derives levels (.alternatives conditions) tokens)
    (used : List Placed) (shape : used.map Placed.token = tokens) (rest : List Placed)
    (ends : (Phrase.alternatives conditions).EndsBefore rest) (condition : Condition) :
    (Phrase.conjunction condition).EndsBefore (used ++ rest) := by
  intro keyword goesOn
  simp only [Phrase.goesOn, List.mem_cons, List.not_mem_nil, or_false] at goesOn
  cases derived with
  | noAlternative =>
    rw [List.map_eq_nil_iff.mp shape]
    exact ends keyword (by rcases goesOn with rfl | rfl <;> simp [Phrase.goesOn])
  | alternative spelled =>
    obtain ⟨⟨_, position⟩, later, rfl, rfl, _⟩ := List.map_eq_cons_iff.mp shape
    rcases goesOn with rfl | rfl <;>
      exact startsWith_other _ "or" _ position _ spelled (by decide)

/-- Further operands do not go on with the operand before them. They begin with the word that joins
them, which is not the one that goes on with a text test. -/
theorem endsBefore_conjuncts {levels : Nat} {conditions : List Condition}
    {tokens : List Token} (derived : Derives levels (.conjuncts conditions) tokens)
    (used : List Placed) (shape : used.map Placed.token = tokens) (rest : List Placed)
    (ends : (Phrase.conjuncts conditions).EndsBefore rest) (condition : Condition) :
    (Phrase.operand condition).EndsBefore (used ++ rest) := by
  intro keyword goesOn
  simp only [Phrase.goesOn, List.mem_singleton] at goesOn
  subst goesOn
  cases derived with
  | noConjunct =>
    rw [List.map_eq_nil_iff.mp shape]
    exact ends "eq" (by simp [Phrase.goesOn])
  | conjunct spelled =>
    obtain ⟨⟨_, position⟩, later, rfl, rfl, _⟩ := List.map_eq_cons_iff.mp shape
    exact startsWith_other _ "and" _ position _ spelled (by decide)

/-- No alternative is read where none follows. -/
theorem noAlternative_isRead (levels steps : Nat) (rest : List Placed)
    (ends : startsWith "or" rest = false) :
    (Phrase.alternatives []).IsRead last levels (steps + 1) rest rest := by
  simp [Phrase.IsRead, readAlternatives, ends]

/-- No further operand is read where none follows. -/
theorem noConjunct_isRead (levels steps : Nat) (rest : List Placed)
    (ends : startsWith "and" rest = false) :
    (Phrase.conjuncts []).IsRead last levels (steps + 1) rest rest := by
  simp [Phrase.IsRead, readConjuncts, ends]

variable {last}

/-- A filter is read as a conjunction and the alternatives behind it. -/
theorem filter_isRead {levels steps : Nat} {first : Condition} {others : List Condition}
    {tokens middle rest : List Placed}
    (head : (Phrase.conjunction first).IsRead last levels steps tokens middle)
    (tail : (Phrase.alternatives others).IsRead last levels steps middle rest) :
    (Phrase.filter (.anyOf first others)).IsRead last levels (steps + 1) tokens rest := by
  simp only [Phrase.IsRead] at head tail ⊢
  simp [readAny, head, tail]

/-- A conjunction is read as an operand and the operands behind it. -/
theorem conjunction_isRead {levels steps : Nat} {first : Condition} {others : List Condition}
    {tokens middle rest : List Placed}
    (head : (Phrase.operand first).IsRead last levels steps tokens middle)
    (tail : (Phrase.conjuncts others).IsRead last levels steps middle rest) :
    (Phrase.conjunction (.allOf first others)).IsRead last levels (steps + 1) tokens rest := by
  simp only [Phrase.IsRead] at head tail ⊢
  simp [readAll, head, tail]

/-- The tokens of a phrase are read whole, if what follows does not go on with it. Each token
pays for the four calls that can stand between it and the next. -/
theorem isRead_of_derives {levels : Nat} {phrase : Phrase Condition} {tokens : List Token}
    (derived : Derives levels phrase tokens) (used : List Placed)
    (shape : used.map Placed.token = tokens) (rest : List Placed)
    (ends : phrase.EndsBefore rest) (steps : Nat)
    (enough : 4 * used.length + phrase.callsFirst ≤ steps) :
    phrase.IsRead last levels steps (used ++ rest) rest := by
  induction derived generalizing used rest steps with
  | @single levels condition tokens only inductionHypothesis =>
    simp only [Phrase.callsFirst] at enough
    obtain ⟨steps, rfl⟩ : ∃ fewer, steps = fewer + 2 := ⟨steps - 2, by omega⟩
    have ends_or := ends "or" (by simp [Phrase.goesOn])
    have ends_head : (Phrase.conjunction condition).EndsBefore rest := fun keyword goesOn =>
      ends keyword (List.mem_append_left ["or"] goesOn)
    have head := inductionHypothesis used shape rest ends_head (steps + 1)
      (by simp only [Phrase.callsFirst]; omega)
    exact filter_isRead head (noAlternative_isRead last levels steps rest ends_or)
  | @any levels first second others front back head tail headRead tailRead =>
    obtain ⟨front, back, rfl, rfl, rfl⟩ := List.map_eq_append_iff.mp shape
    simp only [Phrase.callsFirst, List.length_append] at enough
    obtain ⟨steps, rfl⟩ : ∃ fewer, steps = fewer + 1 := ⟨steps - 1, by omega⟩
    have first := headRead front rfl (back ++ rest)
      (endsBefore_alternatives tail back rfl rest ends _) steps
      (by simp only [Phrase.callsFirst]; omega)
    have later := tailRead back rfl rest ends steps (by simp only [Phrase.callsFirst]; omega)
    rw [List.append_assoc]
    exact filter_isRead first later
  | @noAlternative levels =>
    rw [List.map_eq_nil_iff.mp shape] at enough ⊢
    simp only [Phrase.callsFirst] at enough
    obtain ⟨steps, rfl⟩ : ∃ fewer, steps = fewer + 1 := ⟨steps - 1, by omega⟩
    exact noAlternative_isRead last levels steps rest (ends "or" (by simp [Phrase.goesOn]))
  | @alternative levels word next others front back spelled head tail headRead tailRead =>
    obtain ⟨⟨_, position⟩, later, rfl, rfl, behind⟩ := List.map_eq_cons_iff.mp shape
    obtain ⟨front, back, rfl, rfl, rfl⟩ := List.map_eq_append_iff.mp behind
    simp only [Phrase.callsFirst, List.length_cons, List.length_append] at enough
    obtain ⟨steps, rfl⟩ : ∃ fewer, steps = fewer + 1 := ⟨steps - 1, by omega⟩
    have first := headRead front rfl (back ++ rest)
      (endsBefore_alternatives tail back rfl rest ends _) steps
      (by simp only [Phrase.callsFirst]; omega)
    have others := tailRead back rfl rest ends steps (by simp only [Phrase.callsFirst]; omega)
    have starts := (startsWith_iff "or" _).mpr
      ⟨word, position, front ++ (back ++ rest), rfl, spelled⟩
    simp only [Phrase.IsRead] at first others ⊢
    simp [readAlternatives, starts, first, others]
  | @alone levels condition tokens only inductionHypothesis =>
    simp only [Phrase.callsFirst] at enough
    obtain ⟨steps, rfl⟩ : ∃ fewer, steps = fewer + 2 := ⟨steps - 2, by omega⟩
    have ends_and := ends "and" (by simp [Phrase.goesOn])
    have ends_head : (Phrase.operand condition).EndsBefore rest := fun keyword goesOn =>
      ends keyword (List.mem_append_left ["and"] goesOn)
    have head := inductionHypothesis used shape rest ends_head (steps + 1)
      (by simp only [Phrase.callsFirst]; omega)
    exact conjunction_isRead head (noConjunct_isRead last levels steps rest ends_and)
  | @all levels first second others front back head tail headRead tailRead =>
    obtain ⟨front, back, rfl, rfl, rfl⟩ := List.map_eq_append_iff.mp shape
    simp only [Phrase.callsFirst, List.length_append] at enough
    obtain ⟨steps, rfl⟩ : ∃ fewer, steps = fewer + 1 := ⟨steps - 1, by omega⟩
    have first := headRead front rfl (back ++ rest)
      (endsBefore_conjuncts tail back rfl rest ends _) steps
      (by simp only [Phrase.callsFirst]; omega)
    have later := tailRead back rfl rest ends steps (by simp only [Phrase.callsFirst]; omega)
    rw [List.append_assoc]
    exact conjunction_isRead first later
  | @noConjunct levels =>
    rw [List.map_eq_nil_iff.mp shape] at enough ⊢
    simp only [Phrase.callsFirst] at enough
    obtain ⟨steps, rfl⟩ : ∃ fewer, steps = fewer + 1 := ⟨steps - 1, by omega⟩
    exact noConjunct_isRead last levels steps rest (ends "and" (by simp [Phrase.goesOn]))
  | @conjunct levels word next others front back spelled head tail headRead tailRead =>
    obtain ⟨⟨_, position⟩, later, rfl, rfl, behind⟩ := List.map_eq_cons_iff.mp shape
    obtain ⟨front, back, rfl, rfl, rfl⟩ := List.map_eq_append_iff.mp behind
    simp only [Phrase.callsFirst, List.length_cons, List.length_append] at enough
    obtain ⟨steps, rfl⟩ : ∃ fewer, steps = fewer + 1 := ⟨steps - 1, by omega⟩
    have first := headRead front rfl (back ++ rest)
      (endsBefore_conjuncts tail back rfl rest ends _) steps
      (by simp only [Phrase.callsFirst]; omega)
    have others := tailRead back rfl rest ends steps (by simp only [Phrase.callsFirst]; omega)
    have starts := (startsWith_iff "and" _).mpr
      ⟨word, position, front ++ (back ++ rest), rfl, spelled⟩
    simp only [Phrase.IsRead] at first others ⊢
    simp [readConjuncts, starts, first, others]
  | @negation levels word condition tokens spelled inner inductionHypothesis =>
    obtain ⟨⟨_, position⟩, used, rfl, rfl, behind⟩ := List.map_eq_cons_iff.mp shape
    simp only [Phrase.callsFirst, List.length_cons] at enough
    obtain ⟨steps, rfl⟩ : ∃ fewer, steps = fewer + 1 := ⟨steps - 1, by omega⟩
    have operand := inductionHypothesis used behind rest ends steps
      (by simp only [Phrase.callsFirst]; omega)
    have starts := (startsWith_iff "not" _).mpr ⟨word, position, used ++ rest, rfl, spelled⟩
    simp only [Phrase.IsRead] at operand ⊢
    rw [List.cons_append, readOperand_negation _ _ _ _ starts]
    simp [operand, Except.map]
  | @group levels condition tokens inner inductionHypothesis =>
    obtain ⟨⟨_, position⟩, later, rfl, rfl, behind⟩ := List.map_eq_cons_iff.mp shape
    obtain ⟨used, final, rfl, rfl, closed⟩ := List.map_eq_append_iff.mp behind
    obtain ⟨⟨_, place⟩, _, rfl, rfl, ended⟩ := List.map_eq_cons_iff.mp closed
    obtain rfl := List.map_eq_nil_iff.mp ended
    simp only [Phrase.callsFirst, List.length_cons, List.length_append, List.length_nil] at enough
    obtain ⟨steps, rfl⟩ : ∃ fewer, steps = fewer + 1 := ⟨steps - 1, by omega⟩
    have filter := inductionHypothesis used rfl (⟨.closing, place⟩ :: rest)
      (fun keyword _ => rfl) steps (by simp only [Phrase.callsFirst]; omega)
    simp only [Phrase.IsRead] at filter ⊢
    simp [readOperand_group, filter, Except.bind, Except.map, readClosing]
  | @test levels name condition tokens named states =>
    obtain ⟨⟨_, position⟩, used, rfl, rfl, behind⟩ := List.map_eq_cons_iff.mp shape
    simp only [Phrase.callsFirst, List.length_cons] at enough
    obtain ⟨steps, rfl⟩ : ∃ fewer, steps = fewer + 1 := ⟨steps - 1, by omega⟩
    have affirmed : startsWith "not" (⟨.word name, position⟩ :: (used ++ rest)) = false := by
      simpa [startsWith, Spells] using named
    simp only [Phrase.IsRead]
    rw [List.cons_append, readOperand_test last levels steps _ affirmed (by simp)]
    exact readTest_complete last name position tokens condition states used behind rest
      (ends "eq" (by simp [Phrase.goesOn]))

/-- A token sequence is taken as a filter exactly if it derives from one, and the condition is
that of the derivation. -/
theorem ofTokens_iff (last : Nat) (tokens : List Placed) (condition : Condition) :
    Condition.ofTokens last tokens = .ok condition ↔
      Derives maximumLevels (.filter condition) (tokens.map Placed.token) := by
  constructor
  · intro taken
    simp only [Condition.ofTokens, bind_ok_iff] at taken
    obtain ⟨⟨inner, rest⟩, read, ended⟩ := taken
    cases rest with
    | cons first rest => simp at ended
    | nil =>
      obtain rfl : inner = condition := by simpa using ended
      obtain ⟨used, rfl, derived⟩ :=
        begins_of_read last maximumLevels _ tokens [] (.filter inner) read
      simpa using derived
  · intro derived
    have read : (Phrase.filter condition).IsRead last maximumLevels (4 * tokens.length + 4)
        (tokens ++ []) [] :=
      isRead_of_derives derived tokens rfl [] (fun keyword _ => rfl) _
        (by simp only [Phrase.callsFirst]; omega)
    simp only [Phrase.IsRead, List.append_nil] at read
    simp [Condition.ofTokens, read]

end DocumentQuery.Filter
