import DocumentQuery.Proofs.Except
import DocumentQuery.Proofs.Filter.Grammar

/-!
# Reading literals, lists and single tests

For each reader of a part without nesting: what it reads are tokens of that part, and it reads
them where they stand. A text test may go on with a comparison, so what follows one must not
begin with `eq`.
-/

namespace DocumentQuery.Filter

variable (last : Nat)

/-- A word is read from a token that is one. -/
theorem readWord_iff (wanted : Expected) (tokens : List Placed) (text : String)
    (rest : List Placed) :
    readWord last wanted tokens = .ok (text, rest) ↔
      ∃ position, tokens = ⟨.word text, position⟩ :: rest := by
  rcases tokens with _ | ⟨⟨_ | _ | _ | _ | _, place⟩, later⟩ <;> simp [readWord, and_comm]

/-- An opening parenthesis is read from a token that is one. -/
theorem readOpening_iff (tokens rest : List Placed) :
    readOpening last tokens = .ok rest ↔ ∃ position, tokens = ⟨.opening, position⟩ :: rest := by
  rcases tokens with _ | ⟨⟨_ | _ | _ | _ | _, place⟩, later⟩ <;> simp [readOpening]

/-- A closing parenthesis is read from a token that is one. -/
theorem readClosing_iff (tokens rest : List Placed) :
    readClosing last tokens = .ok rest ↔ ∃ position, tokens = ⟨.closing, position⟩ :: rest := by
  rcases tokens with _ | ⟨⟨_ | _ | _ | _ | _, place⟩, later⟩ <;> simp [readClosing]

/-- A comma is read from a token that is one. -/
theorem readComma_iff (tokens rest : List Placed) :
    readComma last tokens = .ok rest ↔ ∃ position, tokens = ⟨.comma, position⟩ :: rest := by
  rcases tokens with _ | ⟨⟨_ | _ | _ | _ | _, place⟩, later⟩ <;> simp [readComma]

/-- A keyword comes first if the first token is a word that spells it. -/
theorem startsWith_iff (keyword : String) (tokens : List Placed) :
    startsWith keyword tokens = true ↔
      ∃ word position rest, tokens = ⟨.word word, position⟩ :: rest ∧ Spells word keyword := by
  rcases tokens with _ | ⟨⟨_ | _ | _ | _ | _, place⟩, later⟩ <;> simp [startsWith, Spells]

/-- A literal is read from the one token that denotes it: from a text or a number, or from a word
for a constant in any case of its letters. -/
theorem readLiteral_iff (tokens : List Placed) (value : Json) (rest : List Placed) :
    readLiteral last tokens = .ok (value, rest) ↔
      ∃ first, tokens = first :: rest ∧ Denotes first.token value := by
  constructor
  · intro read
    rcases tokens with _ | ⟨⟨token, position⟩, later⟩
    · simp [readLiteral] at read
    · cases token with
      | literal own =>
        simp only [readLiteral, Except.ok.injEq, Prod.mk.injEq] at read
        obtain ⟨rfl, rfl⟩ := read
        exact ⟨_, rfl, .literal own⟩
      | word text =>
        cases named : wordValue? text with
        | none => simp [readLiteral, named] at read
        | some own =>
          simp only [readLiteral, named, Except.ok.injEq, Prod.mk.injEq] at read
          obtain ⟨rfl, rfl⟩ := read
          obtain ⟨keyword, listed, spelled⟩ := (wordValue_iff text own).mp named
          exact ⟨_, rfl, .constant listed spelled⟩
      | opening | closing | comma => simp [readLiteral] at read
  · rintro ⟨⟨token, position⟩, rfl, denotes⟩
    cases denotes with
    | literal => rfl
    | @constant word keyword _ listed spelled =>
      have named := (wordValue_iff word value).mpr ⟨keyword, listed, spelled⟩
      simp [readLiteral, named]

/-- Behind a comma a literal is read, and then the rest of the list. The reader looks at two tokens
at once; here its step is put together from the reader of literals and itself. -/
theorem readChoices_comma (position : Nat) (tokens : List Placed) :
    readChoices last (⟨.comma, position⟩ :: tokens) =
      (readLiteral last tokens).bind fun (value, rest) =>
        (readChoices last rest).map fun (values, rest) => (value :: values, rest) := by
  rcases tokens with _ | ⟨⟨token, place⟩, rest⟩
  · rfl
  · cases token with
    | literal value =>
      simp only [readChoices, readLiteral, Except.bind]
      cases readChoices last rest <;> rfl
    | word text =>
      cases named : wordValue? text with
      | none => simp [readChoices, readLiteral, named, Except.bind]
      | some value =>
        simp only [readChoices, readLiteral, named, Except.bind]
        cases readChoices last rest <;> rfl
    | opening | closing | comma => simp [readChoices, readLiteral, Except.bind]

/-- What is read behind the first literal of a list are further choices and the closing parenthesis.
Each step takes a comma and a literal, so the induction is on the number of tokens. -/
theorem readChoices_sound (tokens : List Placed) (values : List Json) (rest : List Placed)
    (read : readChoices last tokens = .ok (values, rest)) :
    ∃ used position, tokens = used ++ ⟨.closing, position⟩ :: rest ∧
      Choices (used.map Placed.token) values := by
  induction measured : tokens.length using Nat.strongRecOn generalizing tokens values with
  | ind size inductionHypothesis =>
    rcases tokens with _ | ⟨⟨token, position⟩, later⟩
    · simp [readChoices] at read
    · cases token with
      | closing =>
        simp only [readChoices, Except.ok.injEq, Prod.mk.injEq] at read
        obtain ⟨rfl, rfl⟩ := read
        exact ⟨[], position, rfl, .none⟩
      | comma =>
        rw [readChoices_comma] at read
        cases literal : readLiteral last later with
        | error fault => simp [literal, Except.bind] at read
        | ok first =>
          obtain ⟨value, behind⟩ := first
          obtain ⟨first, rfl, denotes⟩ := (readLiteral_iff last later value behind).mp literal
          cases list : readChoices last behind with
          | error fault => simp [literal, list, Except.bind, Except.map] at read
          | ok others =>
            obtain ⟨others, remaining⟩ := others
            simp only [literal, list, Except.bind, Except.map, Except.ok.injEq,
              Prod.mk.injEq] at read
            obtain ⟨rfl, rfl⟩ := read
            have shorter : behind.length < size := by
              simp only [← measured, List.length_cons]
              omega
            obtain ⟨used, place, rfl, choices⟩ :=
              inductionHypothesis behind.length shorter behind others list rfl
            exact ⟨⟨.comma, position⟩ :: first :: used, place, rfl, .next denotes choices⟩
      | opening | literal | word => simp [readChoices] at read

/-- Further choices are read up to their closing parenthesis, by induction on the choices, each of
which is a comma and a token that denotes a value. -/
theorem readChoices_complete (tokens : List Token) (values : List Json)
    (choices : Choices tokens values) (used : List Placed)
    (shape : used.map Placed.token = tokens) (position : Nat) (rest : List Placed) :
    readChoices last (used ++ ⟨.closing, position⟩ :: rest) = .ok (values, rest) := by
  induction choices generalizing used with
  | none =>
    rw [List.map_eq_nil_iff.mp shape]
    simp [readChoices]
  | @next token value tokens values denotes others inductionHypothesis =>
    obtain ⟨⟨_, place⟩, later, rfl, rfl, choice⟩ := List.map_eq_cons_iff.mp shape
    obtain ⟨second, used, rfl, rfl, remainder⟩ := List.map_eq_cons_iff.mp choice
    have literal := (readLiteral_iff last
      (second :: (used ++ ⟨.closing, position⟩ :: rest)) value _).mpr ⟨second, rfl, denotes⟩
    simp only [List.cons_append, readChoices_comma, literal, Except.bind,
      inductionHypothesis used remainder]
    rfl

/-- What is read as a text test are the tokens of one. It may be compared with a truth value, and if
an `eq` follows it, it must be. -/
theorem readTextTest_sound (name keyword : String) (placement : Placement)
    (listed : (keyword, placement) ∈ textTests) (spelled : Spells name keyword)
    (tokens : List Placed) (condition : Condition) (rest : List Placed)
    (read : readTextTest last placement tokens = .ok (condition, rest)) :
    ∃ used, tokens = used ++ rest ∧ Test name (used.map Placed.token) condition := by
  simp only [readTextTest, bind_ok_iff] at read
  obtain ⟨first, opened, ⟨property, second⟩, named, third, separated, ⟨value, fourth⟩, literal,
    read⟩ := read
  obtain ⟨place₁, rfl⟩ := (readOpening_iff last tokens first).mp opened
  obtain ⟨place₂, rfl⟩ := (readWord_iff last _ first property second).mp named
  obtain ⟨place₃, rfl⟩ := (readComma_iff last second third).mp separated
  obtain ⟨⟨token, place₄⟩, rfl, denotes⟩ := (readLiteral_iff last third value fourth).mp literal
  cases value with
  | string needle =>
    simp only [bind_ok_iff] at read
    obtain ⟨fifth, closed, read⟩ := read
    obtain ⟨place₅, rfl⟩ := (readClosing_iff last fourth fifth).mp closed
    have quoted : token = .literal (.string needle) := by
      cases denotes with
      | literal => rfl
      | constant isConstant => simp [constants] at isConstant
    subst quoted
    cases compared : startsWith "eq" fifth with
    | false =>
      simp only [compared, Bool.false_eq_true, if_false, pure_eq_ok, Except.ok.injEq,
        Prod.mk.injEq] at read
      obtain ⟨rfl, rfl⟩ := read
      exact ⟨[⟨.opening, place₁⟩, ⟨.word property, place₂⟩, ⟨.comma, place₃⟩,
        ⟨.literal (.string needle), place₄⟩, ⟨.closing, place₅⟩], rfl, .text listed spelled⟩
    | true =>
      obtain ⟨word, place₆, sixth, rfl, equality⟩ := (startsWith_iff "eq" fifth).mp compared
      simp only [compared, if_true, List.tail_cons, bind_ok_iff] at read
      obtain ⟨⟨value, seventh⟩, truth, read⟩ := read
      obtain ⟨last, rfl, expected⟩ := (readLiteral_iff _ sixth value seventh).mp truth
      cases value with
      | bool expected =>
        simp only [pure_eq_ok, Except.ok.injEq, Prod.mk.injEq] at read
        obtain ⟨rfl, rfl⟩ := read
        exact ⟨[⟨.opening, place₁⟩, ⟨.word property, place₂⟩, ⟨.comma, place₃⟩,
          ⟨.literal (.string needle), place₄⟩, ⟨.closing, place₅⟩, ⟨.word word, place₆⟩, last],
          rfl, .comparedText listed spelled equality expected⟩
      | _ => simp at read
  | _ => simp at read

/-- What is read behind a property name is a comparison or a membership. The word behind the name
decides which of them, and it may be written in any case of its letters. -/
theorem readComparison_sound (name : String) (tokens : List Placed) (condition : Condition)
    (rest : List Placed)
    (read : readComparison last (memberPath name) tokens = .ok (condition, rest)) :
    ∃ used, tokens = used ++ rest ∧ Test name (used.map Placed.token) condition := by
  simp only [readComparison, bind_ok_iff] at read
  obtain ⟨⟨word, first⟩, named, read⟩ := read
  obtain ⟨place₁, rfl⟩ := (readWord_iff last _ tokens word first).mp named
  split at read
  case isTrue member =>
    have spelled : Spells word "in" := (spells_iff word "in" (by decide)).mpr member
    simp only [bind_ok_iff] at read
    obtain ⟨second, opened, ⟨value, third⟩, literal, ⟨values, fourth⟩, list, read⟩ := read
    obtain ⟨place₂, rfl⟩ := (readOpening_iff last first second).mp opened
    obtain ⟨token, rfl, denotes⟩ := (readLiteral_iff last second value third).mp literal
    obtain ⟨used, place₃, rfl, choices⟩ := readChoices_sound last third values fourth list
    simp only [pure_eq_ok, Except.ok.injEq, Prod.mk.injEq] at read
    obtain ⟨rfl, rfl⟩ := read
    refine ⟨⟨.word word, place₁⟩ :: ⟨.opening, place₂⟩ :: token ::
      (used ++ [⟨.closing, place₃⟩]), by simp, ?_⟩
    simpa using Test.membership spelled denotes choices
  case isFalse =>
    simp only [bind_ok_iff] at read
    obtain ⟨⟨operand, second⟩, literal, read⟩ := read
    obtain ⟨token, rfl, denotes⟩ := (readLiteral_iff last first operand second).mp literal
    cases related : relation? (String.ofList (Text.lowerAscii word.toList)) with
    | none => simp [related] at read
    | some relation =>
      obtain ⟨keyword, listed, spelled⟩ := (relation_iff word relation).mp related
      simp only [related, pure_eq_ok, Except.ok.injEq, Prod.mk.injEq] at read
      obtain ⟨rfl, rfl⟩ := read
      exact ⟨[⟨.word word, place₁⟩, token], rfl, .comparison listed spelled denotes⟩

/-- What is read as a test are the tokens of one, and its first is a word. With a parenthesis behind
it this is the name of a function, and else the name of a property. -/
theorem readTest_sound (tokens : List Placed) (condition : Condition) (rest : List Placed)
    (read : readTest last tokens = .ok (condition, rest)) :
    ∃ name position used, tokens = ⟨.word name, position⟩ :: (used ++ rest) ∧
      Test name (used.map Placed.token) condition := by
  simp only [readTest, bind_ok_iff] at read
  obtain ⟨⟨name, behind⟩, named, read⟩ := read
  obtain ⟨position, rfl⟩ := (readWord_iff last _ tokens name behind).mp named
  refine ⟨name, position, ?_⟩
  split at read
  case h_1 =>
    cases function : placement? (String.ofList (Text.lowerAscii name.toList)) with
    | none => simp [function] at read
    | some placement =>
      obtain ⟨keyword, listed, spelled⟩ := (placement_iff name placement).mp function
      simp only [function] at read
      obtain ⟨used, taken, states⟩ :=
        readTextTest_sound last name keyword placement listed spelled _ condition rest read
      exact ⟨used, congrArg _ taken, states⟩
  case h_2 =>
    obtain ⟨used, taken, states⟩ := readComparison_sound last name _ condition rest read
    exact ⟨used, congrArg _ taken, states⟩

/-- The tokens of a test are read as one, if no `eq` follows. There is one case for each form of a
test; a text test that is not compared is the one that an `eq` would go on with. -/
theorem readTest_complete (name : String) (position : Nat) (tokens : List Token)
    (condition : Condition) (states : Test name tokens condition) (used : List Placed)
    (shape : used.map Placed.token = tokens) (rest : List Placed)
    (follow : startsWith "eq" rest = false) :
    readTest last (⟨.word name, position⟩ :: (used ++ rest)) = .ok (condition, rest) := by
  cases states with
  | @comparison word keyword relation token operand listed spelled denotes =>
    simp only [List.map_eq_cons_iff, List.map_eq_nil_iff] at shape
    obtain ⟨⟨_, place₁⟩, _, rfl, rfl, second, _, rfl, rfl, rfl⟩ := shape
    have literal := (readLiteral_iff last (second :: rest) operand rest).mpr ⟨second, rfl, denotes⟩
    have related := (relation_iff word relation).mpr ⟨keyword, listed, spelled⟩
    have other : String.ofList (Text.lowerAscii word.toList) ≠ "in" := by
      intro same
      simp [same, relation?] at related
    simp [readTest, readWord, readComparison, other, literal, related]
  | @membership word token value tokens values spelled first others =>
    simp only [List.map_eq_cons_iff, List.map_eq_append_iff, List.map_eq_nil_iff] at shape
    obtain ⟨⟨_, place₁⟩, _, rfl, rfl, ⟨_, place₂⟩, _, rfl, rfl, third, _, rfl, rfl, used, _, rfl,
      choices, ⟨_, place₃⟩, _, rfl, rfl, rfl⟩ := shape
    have literal := (readLiteral_iff last
      (third :: (used ++ ⟨.closing, place₃⟩ :: rest)) value _).mpr ⟨third, rfl, first⟩
    have list := readChoices_complete last tokens values others used choices place₃ rest
    have member := (spells_iff word "in" (by decide)).mp spelled
    simp [readTest, readWord, readComparison, member, readOpening, literal, list]
  | @text keyword property needle placement listed spelled =>
    simp only [List.map_eq_cons_iff, List.map_eq_nil_iff] at shape
    obtain ⟨⟨_, place₁⟩, _, rfl, rfl, ⟨_, place₂⟩, _, rfl, rfl, ⟨_, place₃⟩, _, rfl, rfl,
      ⟨_, place₄⟩, _, rfl, rfl, ⟨_, place₅⟩, _, rfl, rfl, rfl⟩ := shape
    have function := (placement_iff name placement).mpr ⟨keyword, listed, spelled⟩
    simp [readTest, readWord, function, readTextTest, readOpening, readComma, readLiteral,
      readClosing, follow]
  | @comparedText keyword property needle word placement token expected listed spelled equality
      denotes =>
    simp only [List.map_eq_cons_iff, List.map_eq_nil_iff] at shape
    obtain ⟨⟨_, place₁⟩, _, rfl, rfl, ⟨_, place₂⟩, _, rfl, rfl, ⟨_, place₃⟩, _, rfl, rfl,
      ⟨_, place₄⟩, _, rfl, rfl, ⟨_, place₅⟩, _, rfl, rfl, ⟨_, place₆⟩, _, rfl, rfl, seventh, _,
      rfl, rfl, rfl⟩ := shape
    have function := (placement_iff name placement).mpr ⟨keyword, listed, spelled⟩
    have quoted (later : List Placed) :
        readLiteral last (⟨.literal (.string needle), place₄⟩ :: later) =
          .ok (.string needle, later) := rfl
    have compared : startsWith "eq" (⟨.word word, place₆⟩ :: seventh :: rest) = true :=
      (startsWith_iff _ _).mpr ⟨word, place₆, _, rfl, equality⟩
    have truth := (readLiteral_iff last (seventh :: rest) (.bool expected) rest).mpr
      ⟨seventh, rfl, denotes⟩
    simp [readTest, readWord, function, readTextTest, readOpening, readComma, quoted,
      readClosing, compared, truth]

end DocumentQuery.Filter
