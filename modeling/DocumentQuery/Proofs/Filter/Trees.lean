import DocumentQuery.Proofs.Filter.Parsing

/-!
# The predicates that filters write

The grammar of filters once more, this time with the predicate that each phrase writes, member by
member as it stands in the document. Conjunctions bind tighter than alternatives, the operands of
either are listed flat and in the order of the text, a single operand stands without a list around
it, and what is negated is the one term of a denial. Nothing here refers to conditions or to the
functions that make predicates of them.

The reader answers with a condition, of which the predicate is then made. Both grammars have the
same rules, so a derivation in one is a derivation in the other, and the predicate of the reader's
condition is the one that the grammar of predicates writes.
-/

namespace DocumentQuery.Filter

/-- The words of comparisons that are made by an operator, each with its operator. Equality is none
of them, since a predicate states it by the value alone. -/
def operators : List (String × String) :=
  [("ne", "$ne"), ("gt", "$gt"), ("ge", "$gte"), ("lt", "$lt"), ("le", "$lte")]

/-- The words of text tests, each with the marks that its pattern has before and behind the escaped
text. They tie the text to the start or to the end of the value. -/
def anchors : List (String × String × String) :=
  [("contains", "", ""), ("startswith", "^", ""), ("endswith", "", "$")]

/-- The condition on a field that a text is found in it, with marks around the escaped text. -/
def finding (before needle behind : String) : Json :=
  .object [("$regex",
    .string (before ++ String.ofList (Pattern.escape needle.toList) ++ behind))]

/-- The tokens of a single test, and the predicate that they write: one member under the dotted path
of the property, whose value is the condition on it. -/
inductive TestTree : List Token → Json → Prop where
  | equality {name word : String} {token : Token} {operand : Json} (spelled : Spells word "eq")
      (denotes : Denotes token operand) :
      TestTree [.word name, .word word, token] (.object [(memberPath name, operand)])
  | comparison {name word keyword operator : String} {token : Token} {operand : Json}
      (listed : (keyword, operator) ∈ operators) (spelled : Spells word keyword)
      (denotes : Denotes token operand) :
      TestTree [.word name, .word word, token]
        (.object [(memberPath name, .object [(operator, operand)])])
  | membership {name word : String} {token : Token} {value : Json} {tokens : List Token}
      {values : List Json} (spelled : Spells word "in") (first : Denotes token value)
      (others : Choices tokens values) :
      TestTree (.word name :: .word word :: .opening :: token :: (tokens ++ [.closing]))
        (.object [(memberPath name, .object [("$in", .array (value :: values))])])
  | text {function keyword before behind property needle : String}
      (listed : (keyword, before, behind) ∈ anchors) (spelled : Spells function keyword) :
      TestTree [.word function, .opening, .word property, .comma, .literal (.string needle),
          .closing]
        (.object [(memberPath property, finding before needle behind)])
  | affirmed {function keyword before behind property needle word : String} {token : Token}
      (listed : (keyword, before, behind) ∈ anchors) (spelled : Spells function keyword)
      (equality : Spells word "eq") (denotes : Denotes token (.bool true)) :
      TestTree [.word function, .opening, .word property, .comma, .literal (.string needle),
          .closing, .word word, token]
        (.object [(memberPath property, finding before needle behind)])
  | denied {function keyword before behind property needle word : String} {token : Token}
      (listed : (keyword, before, behind) ∈ anchors) (spelled : Spells function keyword)
      (equality : Spells word "eq") (denotes : Denotes token (.bool false)) :
      TestTree [.word function, .opening, .word property, .comma, .literal (.string needle),
          .closing, .word word, token]
        (.object [(memberPath property, .object [("$not", finding before needle behind)])])

/-- The tokens of a phrase and the predicates that they write, when some more negations and
parentheses may be opened. Two or more alternatives are the terms of a disjunction and two
or more operands those of a conjunction; one alone is left as it is, and so is what stands
in parentheses. -/
inductive Writes : Nat → Phrase Json → List Token → Prop where
  | single {levels : Nat} {tree : Json} {tokens : List Token}
      (only : Writes levels (.conjunction tree) tokens) : Writes levels (.filter tree) tokens
  | any {levels : Nat} {first second : Json} {others : List Json} {front back : List Token}
      (head : Writes levels (.conjunction first) front)
      (tail : Writes levels (.alternatives (second :: others)) back) :
      Writes levels (.filter (.object [("$or", .array (first :: second :: others))]))
        (front ++ back)
  | noAlternative {levels : Nat} : Writes levels (.alternatives []) []
  | alternative {levels : Nat} {word : String} {next : Json} {others : List Json}
      {front back : List Token} (spelled : Spells word "or")
      (head : Writes levels (.conjunction next) front)
      (tail : Writes levels (.alternatives others) back) :
      Writes levels (.alternatives (next :: others)) (.word word :: (front ++ back))
  | alone {levels : Nat} {tree : Json} {tokens : List Token}
      (only : Writes levels (.operand tree) tokens) : Writes levels (.conjunction tree) tokens
  | all {levels : Nat} {first second : Json} {others : List Json} {front back : List Token}
      (head : Writes levels (.operand first) front)
      (tail : Writes levels (.conjuncts (second :: others)) back) :
      Writes levels (.conjunction (.object [("$and", .array (first :: second :: others))]))
        (front ++ back)
  | noConjunct {levels : Nat} : Writes levels (.conjuncts []) []
  | conjunct {levels : Nat} {word : String} {next : Json} {others : List Json}
      {front back : List Token} (spelled : Spells word "and")
      (head : Writes levels (.operand next) front)
      (tail : Writes levels (.conjuncts others) back) :
      Writes levels (.conjuncts (next :: others)) (.word word :: (front ++ back))
  | negation {levels : Nat} {word : String} {tree : Json} {tokens : List Token}
      (spelled : Spells word "not") (inner : Writes levels (.operand tree) tokens) :
      Writes (levels + 1) (.operand (.object [("$nor", .array [tree])])) (.word word :: tokens)
  | group {levels : Nat} {tree : Json} {tokens : List Token}
      (inner : Writes levels (.filter tree) tokens) :
      Writes (levels + 1) (.operand tree) (.opening :: (tokens ++ [.closing]))
  | test {levels : Nat} {name : String} {tree : Json} {tokens : List Token}
      (named : ¬ Spells name "not") (states : TestTree (.word name :: tokens) tree) :
      Writes levels (.operand tree) (.word name :: tokens)

/-- The predicates of conditions, one for each. -/
theorem predicates_eq (conditions : List Condition) :
    Condition.predicates conditions = conditions.map Condition.predicate := by
  induction conditions with
  | nil => rfl
  | cons condition conditions inductionHypothesis =>
    rw [Condition.predicates, List.map_cons, inductionHypothesis]

/-- A phrase with what it states changed in each place, its kind being kept. -/
def Phrase.map {Meaning Other : Type} (change : Meaning → Other) : Phrase Meaning → Phrase Other
  | .filter meaning => .filter (change meaning)
  | .alternatives meanings => .alternatives (meanings.map change)
  | .conjunction meaning => .conjunction (change meaning)
  | .conjuncts meanings => .conjuncts (meanings.map change)
  | .operand meaning => .operand (change meaning)

/-- The pattern of a placement is the escaped text between the marks of some word, and every word
has the marks of its placement. -/
theorem anchors_placed (keyword before behind : String) (placement : Placement)
    (listed : (keyword, placement) ∈ textTests) (marked : (keyword, before, behind) ∈ anchors)
    (needle : String) :
    Predicate.clause "$regex" (.string (placement.pattern needle)) =
      finding before needle behind := by
  have same : placement.pattern needle =
      before ++ String.ofList (Pattern.escape needle.toList) ++ behind := by
    refine String.toList_injective ?_
    simp only [textTests, anchors, List.mem_cons, Prod.mk.injEq, List.not_mem_nil,
      or_false] at listed marked
    rcases listed with ⟨rfl, rfl⟩ | ⟨rfl, rfl⟩ | ⟨rfl, rfl⟩ <;>
      simp_all [Placement.pattern]
  rw [finding, ← same, Predicate.clause]

/-- A word of text tests has both a placement and marks, or neither. -/
theorem anchored_iff (keyword : String) :
    (∃ placement, (keyword, placement) ∈ textTests) ↔
      ∃ before behind, (keyword, before, behind) ∈ anchors := by
  simp [textTests, anchors, exists_or]

/-- A word of comparisons is that of equality, where the condition is the operand itself, or it has
an operator, under which the operand stands in the condition. -/
theorem condition_of_comparison (keyword : String) (relation : Relation)
    (listed : (keyword, relation) ∈ comparisons) :
    (keyword = "eq" ∧ ∀ operand, relation.condition operand = operand) ∨
      ∃ operator, (keyword, operator) ∈ operators ∧
        ∀ operand, relation.condition operand = .object [(operator, operand)] := by
  simp only [comparisons, List.mem_cons, Prod.mk.injEq, List.not_mem_nil, or_false] at listed
  rcases listed with ⟨rfl, rfl⟩ | ⟨rfl, rfl⟩ | ⟨rfl, rfl⟩ | ⟨rfl, rfl⟩ | ⟨rfl, rfl⟩ | ⟨rfl, rfl⟩
  · exact .inl ⟨rfl, fun _ => rfl⟩
  all_goals exact .inr ⟨_, by simp [operators], fun _ => rfl⟩

/-- A word with an operator is a word of comparisons, and its relation has that operator. -/
theorem comparison_of_operator (keyword operator : String)
    (listed : (keyword, operator) ∈ operators) :
    ∃ relation, (keyword, relation) ∈ comparisons ∧
      ∀ operand, relation.condition operand = .object [(operator, operand)] := by
  simp only [operators, List.mem_cons, Prod.mk.injEq, List.not_mem_nil, or_false] at listed
  rcases listed with ⟨rfl, rfl⟩ | ⟨rfl, rfl⟩ | ⟨rfl, rfl⟩ | ⟨rfl, rfl⟩ | ⟨rfl, rfl⟩
  · exact ⟨.unequal, by simp [comparisons], fun _ => rfl⟩
  · exact ⟨.greater, by simp [comparisons], fun _ => rfl⟩
  · exact ⟨.atLeast, by simp [comparisons], fun _ => rfl⟩
  · exact ⟨.less, by simp [comparisons], fun _ => rfl⟩
  · exact ⟨.atMost, by simp [comparisons], fun _ => rfl⟩

/-- The tokens of a test write the predicate of its condition. An equality is the value itself,
other comparisons have the operator of their word, and the pattern of a text test has the anchors of
its function. -/
theorem testTree_of_test {name : String} {tokens : List Token} {condition : Condition}
    (states : Test name tokens condition) :
    TestTree (.word name :: tokens) condition.predicate := by
  cases states with
  | @comparison word keyword relation token operand listed spelled denotes =>
    rw [Condition.predicate, Predicate.clause]
    rcases condition_of_comparison keyword relation listed with
      ⟨rfl, same⟩ | ⟨operator, operated, same⟩
    · rw [same operand]
      exact .equality spelled denotes
    · rw [same operand]
      exact .comparison operated spelled denotes
  | membership spelled first others => exact .membership spelled first others
  | @text keyword property needle placement listed spelled =>
    obtain ⟨before, behind, marked⟩ := (anchored_iff keyword).mp ⟨placement, listed⟩
    have found := anchors_placed keyword before behind placement listed marked needle
    rw [Condition.predicate, found]
    exact .text marked spelled
  | @comparedText keyword property needle word placement token expected listed spelled equality
      denotes =>
    obtain ⟨before, behind, marked⟩ := (anchored_iff keyword).mp ⟨placement, listed⟩
    have found := anchors_placed keyword before behind placement listed marked needle
    rw [Condition.predicate, found]
    cases expected with
    | true => exact .affirmed marked spelled equality denotes
    | false => exact .denied marked spelled equality denotes

/-- Tokens that write a predicate as a single test are those of a test that it decides. Each way to
write a test belongs to one form of a condition. -/
theorem test_of_testTree {name : String} {tokens : List Token} {tree : Json}
    (states : TestTree (.word name :: tokens) tree) :
    ∃ condition, Test name tokens condition ∧ condition.predicate = tree := by
  cases states with
  | @equality _ word token operand spelled denotes =>
    have listed : ("eq", Relation.equal) ∈ comparisons := by simp [comparisons]
    exact ⟨_, .comparison listed spelled denotes, rfl⟩
  | @comparison _ word keyword operator token operand listed spelled denotes =>
    obtain ⟨relation, compared, same⟩ := comparison_of_operator keyword operator listed
    refine ⟨_, .comparison compared spelled denotes, ?_⟩
    rw [Condition.predicate, same operand, Predicate.clause]
  | membership spelled first others => exact ⟨_, .membership spelled first others, rfl⟩
  | @text _ keyword before behind property needle marked spelled =>
    obtain ⟨placement, listed⟩ := (anchored_iff keyword).mpr ⟨before, behind, marked⟩
    refine ⟨_, .text listed spelled, ?_⟩
    rw [Condition.predicate, anchors_placed keyword before behind placement listed marked needle]
    rfl
  | @affirmed _ keyword before behind property needle word token marked spelled equality denotes =>
    obtain ⟨placement, listed⟩ := (anchored_iff keyword).mpr ⟨before, behind, marked⟩
    refine ⟨_, .comparedText listed spelled equality denotes, ?_⟩
    rw [Condition.predicate, anchors_placed keyword before behind placement listed marked needle]
    rfl
  | @denied _ keyword before behind property needle word token marked spelled equality denotes =>
    obtain ⟨placement, listed⟩ := (anchored_iff keyword).mpr ⟨before, behind, marked⟩
    refine ⟨_, .comparedText listed spelled equality denotes, ?_⟩
    rw [Condition.predicate, anchors_placed keyword before behind placement listed marked needle]
    rfl

/-- A phrase of conditions writes the predicates of the conditions.

Proof: by induction on the derivation. Each rule of one grammar is taken to the rule of the other
that has the same name. -/
theorem writes_of_derives {levels : Nat} {phrase : Phrase Condition} {tokens : List Token}
    (derived : Derives levels phrase tokens) :
    Writes levels (phrase.map Condition.predicate) tokens := by
  induction derived with
  | single _ only => exact .single only
  | any _ _ head tail =>
    rw [Phrase.map, Condition.predicate, predicates_eq]
    exact .any head tail
  | noAlternative => exact .noAlternative
  | alternative spelled _ _ head tail => exact .alternative spelled head tail
  | alone _ only => exact .alone only
  | all _ _ head tail =>
    rw [Phrase.map, Condition.predicate, predicates_eq]
    exact .all head tail
  | noConjunct => exact .noConjunct
  | conjunct spelled _ _ head tail => exact .conjunct spelled head tail
  | negation spelled _ inner => exact .negation spelled inner
  | group _ inner => exact .group inner
  | test named states => exact .test named (testTree_of_test states)

/-- A phrase of predicates derives from conditions that the predicates decide.

Proof: by induction on the derivation. What the parts derive from has the kind of the part, so the
conditions can be taken out of it and put together by the rule of the same name. -/
theorem derives_of_writes {levels : Nat} {phrase : Phrase Json} {tokens : List Token}
    (written : Writes levels phrase tokens) :
    ∃ origin, Derives levels origin tokens ∧ origin.map Condition.predicate = phrase := by
  induction written with
  | single _ only =>
    obtain ⟨_ | _ | condition | _ | _, derived, same⟩ := only <;> cases same
    exact ⟨.filter condition, .single derived, rfl⟩
  | any _ _ head tail =>
    obtain ⟨_ | _ | first | _ | _, front, same⟩ := head <;> cases same
    obtain ⟨_ | conditions | _ | _ | _, back, same⟩ := tail <;> try cases same
    obtain ⟨second, others, rfl, rfl, rfl⟩ :=
      List.map_eq_cons_iff.mp (Phrase.alternatives.inj same)
    refine ⟨.filter (.any (first :: second :: others)), .any front back, ?_⟩
    rw [Phrase.map, Condition.predicate, predicates_eq]
    rfl
  | noAlternative => exact ⟨.alternatives [], .noAlternative, rfl⟩
  | alternative spelled _ _ head tail =>
    obtain ⟨_ | _ | next | _ | _, front, same⟩ := head <;> cases same
    obtain ⟨_ | others | _ | _ | _, back, same⟩ := tail <;> cases same
    exact ⟨.alternatives (next :: others), .alternative spelled front back, rfl⟩
  | alone _ only =>
    obtain ⟨_ | _ | _ | _ | condition, derived, same⟩ := only <;> cases same
    exact ⟨.conjunction condition, .alone derived, rfl⟩
  | all _ _ head tail =>
    obtain ⟨_ | _ | _ | _ | first, front, same⟩ := head <;> cases same
    obtain ⟨_ | _ | _ | conditions | _, back, same⟩ := tail <;> try cases same
    obtain ⟨second, others, rfl, rfl, rfl⟩ :=
      List.map_eq_cons_iff.mp (Phrase.conjuncts.inj same)
    refine ⟨.conjunction (.all (first :: second :: others)), .all front back, ?_⟩
    rw [Phrase.map, Condition.predicate, predicates_eq]
    rfl
  | noConjunct => exact ⟨.conjuncts [], .noConjunct, rfl⟩
  | conjunct spelled _ _ head tail =>
    obtain ⟨_ | _ | _ | _ | next, front, same⟩ := head <;> cases same
    obtain ⟨_ | _ | _ | others | _, back, same⟩ := tail <;> cases same
    exact ⟨.conjuncts (next :: others), .conjunct spelled front back, rfl⟩
  | negation spelled _ inner =>
    obtain ⟨_ | _ | _ | _ | condition, derived, same⟩ := inner <;> cases same
    exact ⟨.operand (.not condition), .negation spelled derived, rfl⟩
  | group _ inner =>
    obtain ⟨condition | _ | _ | _ | _, derived, same⟩ := inner <;> cases same
    exact ⟨.operand condition, .group derived, rfl⟩
  | test named states =>
    obtain ⟨condition, derived, rfl⟩ := test_of_testTree states
    exact ⟨.operand condition, .test named derived, rfl⟩

/-- The predicate of a token sequence is the one that the grammar of predicates writes for it, and
there is one exactly if the sequence is a filter. -/
theorem predicate_ofTokens_iff (last : Nat) (placed : List Placed) (tree : Json) :
    (Condition.ofTokens last placed).map Condition.predicate = .ok tree ↔
      Writes 64 (.filter tree) (placed.map Placed.token) := by
  rw [map_ok_iff]
  constructor
  · rintro ⟨condition, taken, rfl⟩
    exact writes_of_derives ((ofTokens_iff last placed condition).mp taken)
  · intro written
    obtain ⟨_ | _ | _ | _ | _, derived, same⟩ := derives_of_writes written <;> cases same
    exact ⟨_, (ofTokens_iff last placed _).mpr derived, rfl⟩

/-- The reader of filters takes exactly the token sequences of its grammar, of any length, with at
most 64 negations and parentheses open at once, and the predicate that comes of it is the one that
the grammar writes. A text is read as the tokens in it, and tokens that are written with blanks
between them are read back, so that the written filter is read as they are.

Proof: what the reader takes is a derivation of its condition, and every derivation is taken, by
induction on the steps and on the derivation. The grammar of predicates derives the predicates of
the same conditions from the same tokens. The tokens of a rendering are found one after the other,
since no blank goes on with any of them. -/
theorem reader_exact :
    (∀ (last : Nat) (placed : List Placed) (tree : Json),
      (Condition.ofTokens last placed).map Condition.predicate = .ok tree ↔
        Writes 64 (.filter tree) (placed.map Placed.token)) ∧
    (∀ (text : String) (tree : Json),
      (Condition.ofText text).map Condition.predicate = .ok tree ↔
        ∃ placed, tokens text.toList = .ok placed ∧
          Writes 64 (.filter tree) (placed.map Placed.token)) ∧
    (∀ (sequence : List Token) (text : List Char), Rendering sequence text →
      (∃ placed, tokens text = .ok placed ∧ placed.map Placed.token = sequence) ∧
      ∀ tree, (Condition.ofText (String.ofList text)).map Condition.predicate = .ok tree ↔
        Writes 64 (.filter tree) sequence) := by
  have textual (text : String) (tree : Json) :
      (Condition.ofText text).map Condition.predicate = .ok tree ↔
        ∃ placed, tokens text.toList = .ok placed ∧
          Writes 64 (.filter tree) (placed.map Placed.token) := by
    rw [Condition.ofText]
    cases read : tokens text.toList with
    | error fault => simp [Except.map]
    | ok placed => simpa using predicate_ofTokens_iff text.utf8ByteSize placed tree
  refine ⟨predicate_ofTokens_iff, textual, fun sequence text rendering => ?_⟩
  obtain ⟨placed, read, rfl⟩ := tokensFrom_rendering sequence text rendering 0
  have written : tokens text = .ok placed := read
  refine ⟨⟨placed, written, rfl⟩, fun tree => ?_⟩
  rw [textual, String.toList_ofList, written]
  simp

/-- The tokens of a filter with every connective, each with its spelling. -/
def connected : List (Token × List Char) :=
  [(.word "not", "not".toList), (.opening, ['(']), (.word "a", "a".toList),
    (.word "eq", "eq".toList), (.literal (.ofInt 1), (1 : Int).repr.toList),
    (.word "or", "or".toList), (.word "b", "b".toList), (.word "EQ", "EQ".toList),
    (.literal (.string "O'B"), '\'' :: (doubled "O'B".toList ++ ['\''])), (.closing, [')']),
    (.word "AND", "AND".toList), (.word "c/d", "c/d".toList), (.word "in", "in".toList),
    (.opening, ['(']), (.literal (.ofInt (-2)), (-2 : Int).repr.toList), (.comma, [',']),
    (.word "null", "null".toList), (.closing, [')']), (.word "or", "or".toList),
    (.word "startswith", "startswith".toList), (.opening, ['(']), (.word "e", "e".toList),
    (.comma, [',']), (.literal (.string "x."), '\'' :: (doubled "x.".toList ++ ['\''])),
    (.closing, [')'])]

/-- The predicate of the filter: a conjunction within a disjunction, whose first term denies another
disjunction, the parentheses leaving no trace. -/
def connectedTree : Json :=
  .object [("$or", .array
    [.object [("$and", .array
      [.object [("$nor", .array [.object [("$or", .array
          [.object [("a", .ofInt 1)], .object [("b", .string "O'B")]])]])],
        .object [("c.d", .object [("$in", .array [.ofInt (-2), .null])])]])],
      .object [("e", .object [("$regex", .string "^x\\.")])]])]

/-- The filter is read as its predicate: two operands of a conjunction within the first of two
alternatives, a denied group of alternatives, a membership and a pattern of an escaped text. -/
theorem connected_read :
    Rendering (connected.map Prod.fst) (connected.flatMap fun part => part.2 ++ [' ']) ∧
    String.ofList (connected.flatMap fun part => part.2 ++ [' ']) =
      "not ( a eq 1 or b EQ 'O''B' ) AND c/d in ( -2 , null ) or startswith ( e , 'x.' ) " ∧
    (Condition.ofText
        "not ( a eq 1 or b EQ 'O''B' ) AND c/d in ( -2 , null ) or startswith ( e , 'x.' ) ").map
      Condition.predicate = .ok connectedTree := by
  have rendering : Rendering (connected.map Prod.fst)
      (connected.flatMap fun part => part.2 ++ [' ']) := by
    refine rendering_spaced connected ?_
    simp only [connected, List.forall_mem_cons]
    have word (text : String) := Spelling.ofWord text
    exact ⟨word "not" rfl rfl, .opening, word "a" rfl rfl, word "eq" rfl rfl,
      .integer 1 (by decide) (by decide), word "or" rfl rfl, word "b" rfl rfl, word "EQ" rfl rfl,
      .text "O'B", .closing, word "AND" rfl rfl, word "c/d" (by decide) (by decide +kernel),
      word "in" rfl rfl, .opening, .integer (-2) (by decide) (by decide), .comma,
      word "null" rfl rfl, .closing, word "or" rfl rfl, word "startswith" (by decide) (by decide),
      .opening, word "e" rfl rfl, .comma, .text "x.", .closing, nofun⟩
  have text : String.ofList (connected.flatMap fun part => part.2 ++ [' ']) =
      "not ( a eq 1 or b EQ 'O''B' ) AND c/d in ( -2 , null ) or startswith ( e , 'x.' ) " := by
    decide +kernel
  refine ⟨rendering, text, text ▸ ((reader_exact.2.2 _ _ rendering).2 connectedTree).mpr ?_⟩
  have first : Writes 62 (.operand (.object [("a", .ofInt 1)]))
      [.word "a", .word "eq", .literal (.ofInt 1)] :=
    .test (by decide) (.equality rfl (.literal _))
  have second : Writes 62 (.operand (.object [("b", .string "O'B")]))
      [.word "b", .word "EQ", .literal (.string "O'B")] :=
    .test (by decide) (.equality rfl (.literal _))
  have either : Writes 62 (.filter (.object [("$or", .array
        [.object [("a", .ofInt 1)], .object [("b", .string "O'B")]])]))
      ([.word "a", .word "eq", .literal (.ofInt 1)] ++
        (.word "or" :: ([.word "b", .word "EQ", .literal (.string "O'B")] ++ []))) :=
    .any (.alone first) (.alternative (by decide) (.alone second) .noAlternative)
  have denied : Writes 64 _ (.word "not" :: .opening :: (_ ++ [.closing])) :=
    .negation (by decide) (.group either)
  have listed : ("null", Json.null) ∈ constants := by simp [constants]
  have null : Denotes (.word "null") .null := .constant listed (by decide)
  have chosen : Writes 64
      (.operand (.object [("c.d", .object [("$in", .array [.ofInt (-2), .null])])]))
      (.word "c/d" :: .word "in" :: .opening :: .literal (.ofInt (-2)) ::
        ([.comma, .word "null"] ++ [.closing])) :=
    .test (by decide) (.membership rfl (.literal _) (.next null .none))
  have marked : ("startswith", "^", "") ∈ anchors := by simp [anchors]
  have found : Writes 64 (.operand (.object [("e", .object [("$regex", .string "^x\\.")])]))
      [.word "startswith", .opening, .word "e", .comma, .literal (.string "x."), .closing] :=
    .test (by decide) (.text marked (by decide))
  have orSpelled : Spells "or" "or" := rfl
  have both : Writes 64 _ (_ ++ (.word "AND" :: (_ ++ []))) :=
    .all denied (.conjunct (by decide) chosen .noConjunct)
  exact .any both (.alternative orSpelled (.alone found) .noAlternative)

end DocumentQuery.Filter
