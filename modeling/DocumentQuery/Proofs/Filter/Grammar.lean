import DocumentQuery.Filter.Reader

/-!
# The grammar of filters

What a sequence of tokens states, as a relation apart from any way of reading it. A filter is
made of alternatives, an alternative of operands that must all hold, and an operand is negated,
in parentheses, or a test. The relation counts how many more negations and parentheses may be
opened; a negation is open up to the end of its operand.

Keywords are spelled in any letter case. A word is a keyword by its place only, so a property
may have the name of one. A leading `not` is always the negation.
-/

namespace DocumentQuery.Filter

/-- A word spells a keyword if it differs in letter case only. -/
def Spells (word keyword : String) : Prop :=
  Text.equalIgnoringCase word.toList keyword.toList = true

instance (word keyword : String) : Decidable (Spells word keyword) :=
  inferInstanceAs (Decidable (_ = true))

/-- The words of comparisons, each with the relation that it states. -/
def comparisons : List (String × Relation) :=
  [("eq", .equal), ("ne", .unequal), ("gt", .greater), ("ge", .atLeast), ("lt", .less),
    ("le", .atMost)]

/-- The words of text tests. -/
def textTests : List (String × Placement) :=
  [("contains", .anywhere), ("startswith", .atStart), ("endswith", .atEnd)]

/-- The words that are values. -/
def constants : List (String × Json) :=
  [("true", .bool true), ("false", .bool false), ("null", .null)]

/-- Whether a token stands for a value: literally, or as one of the words for constants in any
letter case. -/
inductive Denotes : Token → Json → Prop where
  | literal (value : Json) : Denotes (.literal value) value
  | constant {word keyword : String} {value : Json} (listed : (keyword, value) ∈ constants)
      (spelled : Spells word keyword) : Denotes (.word word) value

/-- The choices of a list behind the first, each behind its comma. -/
inductive Choices : List Token → List Json → Prop where
  | none : Choices [] []
  | next {token : Token} {value : Json} {tokens : List Token} {values : List Json}
      (denotes : Denotes token value) (others : Choices tokens values) :
      Choices (.comma :: token :: tokens) (value :: values)

/-- The tokens of a test behind its first word, which is a property or names a text test. A text
test may be compared with a truth value, and only by equality. -/
inductive Test (name : String) : List Token → Condition → Prop where
  | comparison {word keyword : String} {relation : Relation} {token : Token} {operand : Json}
      (listed : (keyword, relation) ∈ comparisons) (spelled : Spells word keyword)
      (denotes : Denotes token operand) :
      Test name [.word word, token] (.compare (memberPath name) relation operand)
  | membership {word : String} {token : Token} {value : Json} {tokens : List Token}
      {values : List Json} (spelled : Spells word "in") (first : Denotes token value)
      (others : Choices tokens values) :
      Test name (.word word :: .opening :: token :: (tokens ++ [.closing]))
        (.oneOf (memberPath name) (value :: values))
  | text {keyword property needle : String} {placement : Placement}
      (listed : (keyword, placement) ∈ textTests) (spelled : Spells name keyword) :
      Test name [.opening, .word property, .comma, .literal (.string needle), .closing]
        (.holdsText (memberPath property) placement needle true)
  | comparedText {keyword property needle word : String} {placement : Placement} {token : Token}
      {expected : Bool} (listed : (keyword, placement) ∈ textTests)
      (spelled : Spells name keyword) (equality : Spells word "eq")
      (denotes : Denotes token (.bool expected)) :
      Test name [.opening, .word property, .comma, .literal (.string needle), .closing,
          .word word, token]
        (.holdsText (memberPath property) placement needle expected)

/-- The parts of a filter, each with what it states. That may be a condition, or a predicate that
decides one. -/
inductive Phrase (Meaning : Type) where
  /-- All of a filter. -/
  | filter (meaning : Meaning)
  /-- The alternatives behind the first, each behind its `or`. -/
  | alternatives (meanings : List Meaning)
  /-- One alternative. -/
  | conjunction (meaning : Meaning)
  /-- The operands behind the first, each behind its `and`. -/
  | conjuncts (meanings : List Meaning)
  /-- One operand. -/
  | operand (meaning : Meaning)

/-- The tokens of a phrase, when some more negations and parentheses may be opened. Each connective
has two or more operands in one list, and only a negation or a parenthesis uses up a level. -/
inductive Derives : Nat → Phrase Condition → List Token → Prop where
  | single {levels : Nat} {condition : Condition} {tokens : List Token}
      (only : Derives levels (.conjunction condition) tokens) :
      Derives levels (.filter condition) tokens
  | any {levels : Nat} {first second : Condition} {others : List Condition}
      {front back : List Token} (head : Derives levels (.conjunction first) front)
      (tail : Derives levels (.alternatives (second :: others)) back) :
      Derives levels (.filter (.any (first :: second :: others))) (front ++ back)
  | noAlternative {levels : Nat} : Derives levels (.alternatives []) []
  | alternative {levels : Nat} {word : String} {next : Condition} {others : List Condition}
      {front back : List Token} (spelled : Spells word "or")
      (head : Derives levels (.conjunction next) front)
      (tail : Derives levels (.alternatives others) back) :
      Derives levels (.alternatives (next :: others)) (.word word :: (front ++ back))
  | alone {levels : Nat} {condition : Condition} {tokens : List Token}
      (only : Derives levels (.operand condition) tokens) :
      Derives levels (.conjunction condition) tokens
  | all {levels : Nat} {first second : Condition} {others : List Condition}
      {front back : List Token} (head : Derives levels (.operand first) front)
      (tail : Derives levels (.conjuncts (second :: others)) back) :
      Derives levels (.conjunction (.all (first :: second :: others))) (front ++ back)
  | noConjunct {levels : Nat} : Derives levels (.conjuncts []) []
  | conjunct {levels : Nat} {word : String} {next : Condition} {others : List Condition}
      {front back : List Token} (spelled : Spells word "and")
      (head : Derives levels (.operand next) front)
      (tail : Derives levels (.conjuncts others) back) :
      Derives levels (.conjuncts (next :: others)) (.word word :: (front ++ back))
  | negation {levels : Nat} {word : String} {condition : Condition} {tokens : List Token}
      (spelled : Spells word "not") (inner : Derives levels (.operand condition) tokens) :
      Derives (levels + 1) (.operand (.not condition)) (.word word :: tokens)
  | group {levels : Nat} {condition : Condition} {tokens : List Token}
      (inner : Derives levels (.filter condition) tokens) :
      Derives (levels + 1) (.operand condition) (.opening :: (tokens ++ [.closing]))
  | test {levels : Nat} {name : String} {condition : Condition} {tokens : List Token}
      (named : ¬ Spells name "not") (states : Test name tokens condition) :
      Derives levels (.operand condition) (.word name :: tokens)

/-- A word spells a keyword of small letters if its small letters are the keyword. -/
theorem spells_iff (word keyword : String)
    (small : Text.lowerAscii keyword.toList = keyword.toList) :
    Spells word keyword ↔ String.ofList (Text.lowerAscii word.toList) = keyword := by
  rw [Spells, Text.equalIgnoringCase, beq_iff_eq, small]
  constructor
  · intro same
    rw [same, String.ofList_toList]
  · rintro rfl
    exact String.toList_ofList.symm

/-- No word spells two keywords. -/
theorem spells_unique (word : String) (first second : String) (left : Spells word first)
    (right : Spells word second) :
    Text.lowerAscii first.toList = Text.lowerAscii second.toList := by
  rw [Spells, Text.equalIgnoringCase, beq_iff_eq] at left right
  exact left.symm.trans right

/-- The entry of a table that a word spells is the one of its small letters. -/
theorem spelled_entry_iff {Value : Type} (table : List (String × Value)) (word : String)
    (value : Value)
    (small : ∀ entry ∈ table, Text.lowerAscii entry.1.toList = entry.1.toList) :
    (∃ keyword, (keyword, value) ∈ table ∧ Spells word keyword) ↔
      (String.ofList (Text.lowerAscii word.toList), value) ∈ table := by
  constructor
  · rintro ⟨keyword, listed, spelled⟩
    rwa [(spells_iff word keyword (small _ listed)).mp spelled]
  · intro listed
    exact ⟨_, listed, (spells_iff word _ (small _ listed)).mpr rfl⟩

/-- A word is read as a value if it spells one. -/
theorem wordValue_iff (word : String) (value : Json) :
    wordValue? word = some value ↔
      ∃ keyword, (keyword, value) ∈ constants ∧ Spells word keyword := by
  rw [spelled_entry_iff constants word value (by decide), wordValue?]
  generalize String.ofList (Text.lowerAscii word.toList) = small
  split <;> simp_all [constants, eq_comm]

/-- A word is read as a relation if it spells one. -/
theorem relation_iff (word : String) (relation : Relation) :
    relation? (String.ofList (Text.lowerAscii word.toList)) = some relation ↔
      ∃ keyword, (keyword, relation) ∈ comparisons ∧ Spells word keyword := by
  rw [spelled_entry_iff comparisons word relation (by decide), relation?.eq_def]
  generalize String.ofList (Text.lowerAscii word.toList) = small
  split <;> simp_all [comparisons, eq_comm]

/-- A word is read as the name of a text test if it spells one. -/
theorem placement_iff (word : String) (placement : Placement) :
    placement? (String.ofList (Text.lowerAscii word.toList)) = some placement ↔
      ∃ keyword, (keyword, placement) ∈ textTests ∧ Spells word keyword := by
  rw [spelled_entry_iff textTests word placement (by decide), placement?.eq_def]
  generalize String.ofList (Text.lowerAscii word.toList) = small
  split <;> simp_all [textTests, eq_comm]

end DocumentQuery.Filter
