import DocumentQuery.Proofs.Filter.Parsing

/-!
# The single tests of a filter

A condition is put together from single tests, each with a path and with operands that it compares
the value at the path to. The operands of a filter that is read from a text are the literals of the
text: truth values, null, numbers and texts, but no arrays and no objects. So none of them is ever
taken for a list of predicates or for operators.
-/

namespace DocumentQuery

/-- Whether a value is neither an array nor an object, as every literal of a filter is. -/
def Json.IsAtom : Json → Prop
  | .array _ | .object _ => False
  | _ => True

namespace Filter

namespace Condition

mutual

/-- The single tests of a condition, in order, whatever connects them. -/
def tests : Condition → List Condition
  | .not condition => tests condition
  | .all conditions => testsOf conditions
  | .any conditions => testsOf conditions
  | test => [test]
termination_by structural condition => condition

/-- The single tests of conditions, in order, one condition after the other. -/
def testsOf : List Condition → List Condition
  | [] => []
  | condition :: conditions => tests condition ++ testsOf conditions
termination_by structural conditions => conditions

end

/-- The path that a single test is about. Other conditions are about none, and are given the empty
one. -/
def path : Condition → String
  | .compare path _ _ => path
  | .oneOf path _ => path
  | .holdsText path _ _ _ => path
  | _ => ""

/-- The values that a single test compares with. A text test compares with none. -/
def operands : Condition → List Json
  | .compare _ _ operand => [operand]
  | .oneOf _ choices => choices
  | _ => []

/-- Whether a single test compares with atoms only. -/
def TakesAtoms (test : Condition) : Prop := ∀ operand ∈ test.operands, operand.IsAtom

end Condition

/-- A token that is no literal of an array or an object. -/
def Token.IsAtomic (token : Token) : Prop := ∀ value, token = .literal value → value.IsAtom

/-- What an atomic token denotes is an atom. -/
theorem atom_of_denotes {token : Token} {value : Json} (denotes : Denotes token value)
    (atomic : token.IsAtomic) : value.IsAtom := by
  cases denotes with
  | literal => exact atomic value rfl
  | constant listed =>
    simp only [constants, List.mem_cons, Prod.mk.injEq, List.not_mem_nil, or_false] at listed
    rcases listed with ⟨-, rfl⟩ | ⟨-, rfl⟩ | ⟨-, rfl⟩ <;> trivial

/-- The choices that atomic tokens denote are atoms. -/
theorem atoms_of_choices {tokens : List Token} {values : List Json}
    (choices : Choices tokens values) (atomic : ∀ token ∈ tokens, token.IsAtomic) :
    ∀ value ∈ values, value.IsAtom := by
  induction choices with
  | none => exact fun value inside => absurd inside List.not_mem_nil
  | next denotes _ inductionHypothesis =>
    obtain ⟨-, first, others⟩ : Token.comma.IsAtomic ∧ _ ∧ _ := by
      simpa only [List.forall_mem_cons] using atomic
    exact List.forall_mem_cons.mpr ⟨atom_of_denotes denotes first, inductionHypothesis others⟩

/-- A test of atomic tokens takes atoms. -/
theorem takesAtoms_of_test {name : String} {tokens : List Token} {test : Condition}
    (states : Test name tokens test) (atomic : ∀ token ∈ tokens, token.IsAtomic) :
    test.TakesAtoms := by
  cases states with
  | comparison _ _ denotes =>
    exact List.forall_mem_singleton.mpr (atom_of_denotes denotes (atomic _ (by simp)))
  | membership _ first others =>
    refine List.forall_mem_cons.mpr ⟨atom_of_denotes first (atomic _ (by simp)), ?_⟩
    exact atoms_of_choices others fun token inside => atomic token (by simp [inside])
  | text | comparedText => exact fun operand inside => absurd inside List.not_mem_nil

/-- The single tests of a phrase, be it one condition or several. -/
def Phrase.tests : Phrase Condition → List Condition
  | .filter condition | .conjunction condition | .operand condition => condition.tests
  | .alternatives conditions | .conjuncts conditions => Condition.testsOf conditions

/-- A single test has no other tests. -/
theorem tests_of_test {name : String} {tokens : List Token} {test : Condition}
    (states : Test name tokens test) : test.tests = [test] := by
  cases states <;> rfl

/-- The tests of a phrase of atomic tokens take atoms. The tokens of the parts of a phrase are among
its own, so they are atomic as well. -/
theorem atoms_of_derives {levels : Nat} {phrase : Phrase Condition} {tokens : List Token}
    (derived : Derives levels phrase tokens) (atomic : ∀ token ∈ tokens, token.IsAtomic) :
    ∀ test ∈ phrase.tests, test.TakesAtoms := by
  induction derived with
  | single _ inductionHypothesis => exact inductionHypothesis atomic
  | alone _ inductionHypothesis => exact inductionHypothesis atomic
  | noAlternative | noConjunct => exact fun test present => absurd present List.not_mem_nil
  | any _ _ headAtoms tailAtoms | all _ _ headAtoms tailAtoms =>
    have front := headAtoms fun token present => atomic token (List.mem_append_left _ present)
    have back := tailAtoms fun token present => atomic token (List.mem_append_right _ present)
    simp only [Phrase.tests, Condition.tests, Condition.testsOf] at front back ⊢
    intro test present
    exact (List.mem_append.mp present).elim (front test) (back test)
  | alternative _ _ _ headAtoms tailAtoms | conjunct _ _ _ headAtoms tailAtoms =>
    have behind := fun token present => atomic token (List.mem_cons_of_mem _ present)
    have front := headAtoms fun token present => behind token (List.mem_append_left _ present)
    have back := tailAtoms fun token present => behind token (List.mem_append_right _ present)
    simp only [Phrase.tests, Condition.testsOf] at front back ⊢
    intro test present
    exact (List.mem_append.mp present).elim (front test) (back test)
  | negation _ _ inductionHypothesis =>
    exact inductionHypothesis fun token present => atomic token (List.mem_cons_of_mem _ present)
  | group _ inductionHypothesis =>
    exact inductionHypothesis fun token present =>
      atomic token (List.mem_cons_of_mem _ (List.mem_append_left _ present))
  | test _ states =>
    rw [Phrase.tests, tests_of_test states]
    exact List.forall_mem_singleton.mpr (takesAtoms_of_test states fun token present =>
      atomic token (List.mem_cons_of_mem _ present))

/-- The token at the start of a text is atomic: its literals are texts and numbers. Marks and words
are no literals, so only the cases of a text and of a numeral are left. -/
theorem atomic_of_readToken (char : Char) (rest : List Char) (token : Token) (size : Nat)
    (read : readToken char rest = .ok (token, size)) : token.IsAtomic := by
  rintro value rfl
  simp only [readToken] at read
  split at read
  case isTrue => simp at read
  split at read
  case isTrue => simp at read
  split at read
  case isTrue => simp at read
  split at read
  case isTrue =>
    split at read
    case h_1 =>
      simp only [Except.ok.injEq, Prod.mk.injEq, Token.literal.injEq] at read
      obtain ⟨rfl, -⟩ := read
      trivial
    case h_2 => simp at read
  split at read
  case isTrue =>
    split at read
    case h_1 number numeral =>
      simp only [Except.ok.injEq, Prod.mk.injEq, Token.literal.injEq] at read
      obtain ⟨rfl, -⟩ := read
      simp only [numeral?] at numeral
      split at numeral
      · obtain rfl := Option.some.inj numeral
        trivial
      · obtain ⟨float, -, rfl⟩ := Option.map_eq_some_iff.mp numeral
        trivial
    case h_2 => simp at read
  split at read <;> simp at read

/-- The tokens of a text are atomic, since each of them is read at its place in the text and is
atomic there. -/
theorem atomic_of_tokensFrom (position passed : Nat) (text : List Char) (placed : List Placed)
    (read : tokensFrom position passed text = .ok placed) :
    ∀ token ∈ placed.map Placed.token, token.IsAtomic := by
  induction text generalizing position passed placed with
  | nil =>
    obtain rfl : [] = placed := by simpa [tokensFrom] using read
    exact fun token present => absurd present List.not_mem_nil
  | cons char text inductionHypothesis =>
    cases passed with
    | succ passed => exact inductionHypothesis _ passed placed (by simpa [tokensFrom] using read)
    | zero =>
      cases blank : Text.isBlank char with
      | true => exact inductionHypothesis _ 0 placed (by simpa [tokensFrom, blank] using read)
      | false =>
        cases first : readToken char text with
        | error problem => simp [tokensFrom, blank, first] at read
        | ok result =>
          obtain ⟨token, size⟩ := result
          simp only [tokensFrom, blank, first, Bool.false_eq_true, if_false, bind_ok_iff,
            pure_eq_ok, Except.ok.injEq] at read
          obtain ⟨others, later, rfl⟩ := read
          exact List.forall_mem_cons.mpr ⟨atomic_of_readToken char text token size first,
            inductionHypothesis _ size others later⟩

/-- The tests of a filter text take atoms. -/
theorem atoms_of_text (text : String) (condition : Condition)
    (read : Condition.ofText text = .ok condition) :
    ∀ test ∈ condition.tests, test.TakesAtoms := by
  obtain ⟨placed, taken, parsed⟩ := (bind_ok_iff _ _ _).mp read
  exact atoms_of_derives ((ofTokens_iff _ placed condition).mp parsed)
    (atomic_of_tokensFrom 0 0 text.toList placed taken)

end Filter

end DocumentQuery
