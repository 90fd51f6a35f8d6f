import DocumentQuery.Compute.Reader

/-!
# Printing formulas

A formula of the grammar is written as tokens: a call as its name with the operands in
parentheses, an arithmetic function between its operand and a numeral. The readers make the same
formula of these tokens. What follows a formula matters in two places only: a parenthesis would
make a call of a field, and the name of an arithmetic function would go on with the formula.
-/

namespace DocumentQuery.Compute

mutual

/-- The tokens of a formula. A function that is written between its operands stands there, and any
other before them in parentheses. -/
def Formula.tokens : Formula → List Token
  | .field path => [.word path]
  | .literal (.string text) => [.text text]
  | .literal value => [.number value]
  | .call function operands =>
    if function.isBetween then Formula.separated (.word function.name) operands
    else .word function.name :: .opening :: (Formula.separated .comma operands ++ [.closing])
termination_by structural formula => formula

/-- The tokens of formulas with a separator between each two, and none before or behind them. -/
def Formula.separated (separator : Token) : List Formula → List Token
  | [] => []
  | [formula] => formula.tokens
  | formula :: next :: formulas =>
    formula.tokens ++ separator :: Formula.separated separator (next :: formulas)
termination_by structural formulas => formulas

end

namespace Formula

/-- A field is written as its path, which is a single word. -/
theorem tokens_field (path : String) : (field path).tokens = [.word path] := by
  simp [tokens]

/-- A text is written as one token, which holds what stands between its quotes. -/
theorem tokens_text (content : String) :
    (literal (.string content)).tokens = [.text content] := by
  simp [tokens]

/-- An integer is written as one token, also if it is negative. -/
theorem tokens_integer (value : Int) :
    (literal (.ofInt value)).tokens = [.number (.ofInt value)] := by
  simp [tokens, Json.ofInt]

/-- An arithmetic function is written between its operand and a numeral, without parentheses. -/
theorem tokens_between (function : Function) (left : Formula) (value : Int)
    (isBetween : function.isBetween = true) :
    (call function [left, literal (.ofInt value)]).tokens =
      left.tokens ++ [.word function.name, .number (.ofInt value)] := by
  rw [tokens, if_pos isBetween, separated, separated, tokens_integer]

/-- Any other function is written in front of its operands, which stand in parentheses with commas
between them. -/
theorem tokens_call (function : Function) (operands : List Formula)
    (enclosed : function.isBetween = false) :
    (call function operands).tokens =
      .word function.name :: .opening :: (separated .comma operands ++ [.closing]) := by
  rw [tokens, if_neg (by simp [enclosed])]

end Formula

/-- The tokens of a clause. -/
def Clause.tokens (clause : Clause) : List Token :=
  clause.formula.tokens ++ [.word "as", .word clause.name]

/-- A field path of the grammar: a word with dots and no slashes. -/
def isPath (path : String) : Bool :=
  match path.toList with
  | [] => false
  | first :: rest => startsWord first && rest.all fun char => continuesName char || char == '.'

/-- Whether an integer has 64 bits. -/
def IsInteger64 (value : Int) : Prop := -9223372036854775808 ≤ value ∧ value ≤ 9223372036854775807

instance (value : Int) : Decidable (IsInteger64 value) := inferInstanceAs (Decidable (_ ∧ _))

/-- Whether a formula is a field or a call with parentheses, which an arithmetic function may
follow. -/
def Formula.goesOn : Formula → Bool
  | .field _ => true
  | .literal _ => false
  | .call function _ => !function.isBetween

/-- The formulas that can be written with at most so many calls within one another. -/
inductive Formula.Printable : Nat → Formula → Prop where
  | field {levels : Nat} (path : String) (isPath : isPath path = true) :
      Printable levels (.field path)
  | text {levels : Nat} (content : String) : Printable levels (.literal (.string content))
  | integer {levels : Nat} (value : Int) (is64 : IsInteger64 value) :
      Printable levels (.literal (.ofInt value))
  | between {levels : Nat} (function : Function) (left : Formula) (value : Int)
      (isBetween : function.isBetween = true) (goesOn : left.goesOn = true)
      (printable : Printable levels left) (is64 : IsInteger64 value) :
      Printable levels (.call function [left, .literal (.ofInt value)])
  | call {levels : Nat} (function : Function) (operands : List Formula)
      (enclosed : function.isBetween = false) (accepted : function.accepts operands = true)
      (each : ∀ operand ∈ operands, Printable levels operand) :
      Printable (levels + 1) (.call function operands)

/-- The clauses that can be written: their formula can be, with at most 16 calls within one another,
and their name is one that is read behind the keyword. -/
structure Clause.Printable (clause : Clause) : Prop where
  formula : clause.formula.Printable 16
  name : isName clause.name = true

/-- A function is found by its name. -/
theorem find_name (function : Function) :
    Function.find? function.isBetween function.name = some function := by
  cases function <;> decide +kernel

/-- Functions with parentheses take one operand at least. -/
theorem operands_some (function : Function) (operands : List Formula)
    (accepted : function.accepts operands = true) : operands ≠ [] := by
  rintro rfl
  cases function <;> exact absurd accepted (by decide)

/-- An arithmetic function takes a field or a call and an integer. -/
theorem between_accepts (function : Function) (left : Formula) (value : Int)
    (isBetween : function.isBetween = true) (goesOn : left.goesOn = true) :
    function.accepts [left, .literal (.ofInt value)] = true := by
  have first : Kind.expression.accepts left = true := by
    cases left with
    | literal _ => cases goesOn
    | field _ | call _ _ => rfl
  have second : Kind.number.accepts (.literal (.ofInt value)) = true := rfl
  have kinds : function.operands = [.expression, .number] ∧ function.required = 2 := by
    revert isBetween
    cases function <;> decide
  simp [Function.accepts, kinds, first, second]

/-! ### Reading the tokens -/

/-- What may stand behind a formula: no parenthesis and no arithmetic function. -/
structure Follows (rest : List Token) : Prop where
  noCall : rest.head? ≠ some .opening
  noBetween : ∀ name, rest.head? = some (.word name) → Function.find? true name = none

/-- Whether the readers make a formula of its tokens, with enough steps for them. An operand is
read whatever follows but a parenthesis. -/
structure Formula.IsRead (levels : Nat) (formula : Formula) : Prop where
  asFormula : ∀ steps rest, 3 * formula.tokens.length ≤ steps + 1 → Follows rest →
    readFormula levels steps (formula.tokens ++ rest) = some (formula, rest)
  asOperand : formula.goesOn = true → ∀ steps rest, 3 * formula.tokens.length ≤ steps + 2 →
    rest.head? ≠ some .opening →
    readOperand levels steps (formula.tokens ++ rest) = some (formula, rest)

/-- An operand that nothing follows which goes on with it is a formula. -/
theorem readFormula_operand (levels steps : Nat) (tokens rest : List Token) (formula : Formula)
    (follows : Follows rest) (read : readOperand levels steps tokens = some (formula, rest)) :
    readFormula levels (steps + 1) tokens = some (formula, rest) := by
  rw [readFormula, read]
  rcases rest with _ | ⟨⟨name⟩ | _ | _ | _ | _ | _, others⟩
  case cons.word =>
    have none := follows.noBetween name rfl
    simp [none]
  all_goals rfl

/-- A formula that is read as an operand is read. -/
theorem Formula.IsRead.of_operand {levels : Nat} {formula : Formula}
    (operand : ∀ steps rest, 3 * formula.tokens.length ≤ steps + 2 →
      rest.head? ≠ some .opening →
      readOperand levels steps (formula.tokens ++ rest) = some (formula, rest))
    (some : formula.tokens ≠ []) : formula.IsRead levels := by
  refine ⟨?_, fun _ => operand⟩
  intro steps rest enough follows
  have length := List.length_pos_iff.mpr some
  obtain ⟨steps, rfl⟩ : ∃ before, steps = before + 1 := ⟨steps - 1, by omega⟩
  exact readFormula_operand levels steps _ rest formula follows
    (operand steps rest (by omega) follows.noCall)

/-- A formula of one token that is read as an operand in one step is read. -/
theorem Formula.IsRead.of_token {levels : Nat} {formula : Formula} (token : Token)
    (tokens : formula.tokens = [token])
    (operand : ∀ steps rest, rest.head? ≠ some .opening →
      readOperand levels (steps + 1) (token :: rest) = some (formula, rest)) :
    formula.IsRead levels := by
  refine .of_operand (fun steps rest enough noCall => ?_) (by simp [tokens])
  rw [tokens, List.length_singleton] at enough
  obtain ⟨steps, rfl⟩ : ∃ before, steps = before + 1 := ⟨steps - 1, by omega⟩
  rw [tokens]
  exact operand steps rest noCall

/-- The operands of a call are read up to its closing parenthesis. Each is followed by a comma or by
the parenthesis, and neither of them goes on with a formula. -/
theorem readOperands_separated (levels : Nat) (operands : List Formula) (some : operands ≠ [])
    (each : ∀ operand ∈ operands, operand.IsRead levels) (steps : Nat) (rest : List Token)
    (enough : 3 * ((Formula.separated .comma operands).length + 1) ≤ steps) :
    readOperands levels steps (Formula.separated .comma operands ++ .closing :: rest) =
      .some (operands, rest) := by
  induction operands generalizing steps with
  | nil => exact absurd rfl some
  | cons operand operands inductionHypothesis =>
    obtain ⟨steps, rfl⟩ : ∃ before, steps = before + 1 := ⟨steps - 1, by omega⟩
    obtain ⟨first, others⟩ := List.forall_mem_cons.mp each
    cases operands with
    | nil =>
      rw [Formula.separated] at enough ⊢
      rw [readOperands, first.asFormula steps _ (by omega) ⟨by simp, by simp⟩]
      rfl
    | cons next operands =>
      rw [Formula.separated, List.length_append, List.length_cons] at enough
      rw [Formula.separated, List.append_assoc, List.cons_append, readOperands,
        first.asFormula steps _ (by omega) ⟨by simp, by simp⟩]
      have further := inductionHypothesis (List.cons_ne_nil next operands) others steps (by omega)
      simp [further]

/-- A formula begins with a token that closes nothing: with a word, a text or a number. So a
parenthesis that is opened in front of it is not taken for that of a call without operands. -/
theorem Formula.Printable.head {levels : Nat} {formula : Formula}
    (printable : formula.Printable levels) :
    ∃ first others, formula.tokens = first :: others ∧ first ≠ .closing := by
  induction printable with
  | field path _ => exact ⟨_, _, Formula.tokens_field path, by simp⟩
  | text content => exact ⟨_, _, Formula.tokens_text content, by simp⟩
  | integer value _ => exact ⟨_, _, Formula.tokens_integer value, by simp⟩
  | between function left value isBetween _ _ _ inductionHypothesis =>
    obtain ⟨first, others, tokens, opens⟩ := inductionHypothesis
    rw [Formula.tokens_between function left value isBetween, tokens]
    exact ⟨_, _, rfl, opens⟩
  | call function operands enclosed _ _ _ =>
    exact ⟨_, _, Formula.tokens_call function operands enclosed, by simp⟩

/-- The path of a field has no slashes, which are read as dots, so reading leaves the path as
it is. -/
theorem dotted_path (path : String) (isPath : isPath path = true) :
    (path.toList.map fun char => if char = '/' then '.' else char) = path.toList := by
  have noSlash : '/' ∉ path.toList := by
    intro slash
    unfold Compute.isPath at isPath
    cases chars : path.toList with
    | nil => simp [chars] at slash
    | cons first rest =>
      simp only [chars, Bool.and_eq_true, List.all_eq_true] at isPath
      rcases List.mem_cons.mp (chars ▸ slash) with same | later
      · exact absurd (same ▸ isPath.1) (by decide)
      · exact absurd (isPath.2 '/' later) (by decide)
  have kept : ∀ char ∈ path.toList, (if char = '/' then '.' else char) = id char := by
    rintro char inside
    refine if_neg ?_
    rintro rfl
    exact noSlash inside
  rw [List.map_congr_left kept, List.map_id]

/-- A call is read from its name and its operands in parentheses. -/
theorem readOperand_call (levels steps : Nat) (function : Function) (operands : List Formula)
    (tokens rest : List Token) (enclosed : function.isBetween = false)
    (accepted : function.accepts operands = true) (opens : tokens.head? ≠ some .closing)
    (read : readOperands levels steps tokens = some (operands, rest)) :
    readOperand (levels + 1) (steps + 1) (.word function.name :: .opening :: tokens) =
      some (.call function operands, rest) := by
  have found := find_name function
  rw [enclosed] at found
  rcases tokens with _ | ⟨_ | _ | _ | _ | _ | _, others⟩
  case cons.closing => exact absurd rfl opens
  all_goals simp [readOperand, found, read, Function.call?, accepted]

/-- Formulas are read from their tokens. The induction is on the formula and says of every
part that it is read with whatever may follow it, and with steps enough for three readers at
each token. -/
theorem Formula.Printable.isRead {levels : Nat} {formula : Formula}
    (printable : formula.Printable levels) : formula.IsRead levels := by
  induction printable with
  | field path isPath =>
    refine .of_token _ (Formula.tokens_field path) fun steps rest noCall => ?_
    rcases rest with _ | ⟨_ | _ | _ | _ | _ | _, others⟩
    case cons.opening => exact absurd rfl noCall
    all_goals simp [readOperand, dotted_path path isPath]
  | text content => exact .of_token _ (Formula.tokens_text content) fun _ _ _ => rfl
  | integer value _ => exact .of_token _ (Formula.tokens_integer value) fun _ _ _ => rfl
  | between function left value isBetween goesOn _ _ inductionHypothesis =>
    have tokens := Formula.tokens_between function left value isBetween
    refine ⟨fun steps rest enough _ => ?_, fun enclosed => ?_⟩
    · rw [tokens, List.length_append, List.length_cons, List.length_singleton] at enough
      obtain ⟨steps, rfl⟩ : ∃ before, steps = before + 1 := ⟨steps - 1, by omega⟩
      have found := find_name function
      rw [isBetween] at found
      rw [tokens, List.append_assoc, readFormula,
        inductionHypothesis.asOperand goesOn steps _ (by omega) (by simp)]
      simp [found, Function.call?, between_accepts function left value isBetween goesOn]
    · simp [Formula.goesOn, isBetween] at enclosed
  | @call levels function operands enclosed accepted each inductionHypothesis =>
    have tokens := Formula.tokens_call function operands enclosed
    have some := operands_some function operands accepted
    refine .of_operand (fun steps rest enough _ => ?_) (by simp [tokens])
    rw [tokens, List.length_cons, List.length_cons, List.length_append,
      List.length_singleton] at enough
    obtain ⟨steps, rfl⟩ : ∃ before, steps = before + 1 := ⟨steps - 1, by omega⟩
    have read := readOperands_separated levels operands some inductionHypothesis steps rest
      (by omega)
    rw [tokens, List.cons_append, List.cons_append, List.append_assoc, List.singleton_append]
    refine readOperand_call levels steps function operands _ rest enclosed accepted ?_ read
    cases operands with
    | nil => exact absurd rfl some
    | cons operand operands =>
      obtain ⟨first, others, opens⟩ := (each operand List.mem_cons_self).head
      cases operands <;> simp [Formula.separated, opens]

/-- A clause is read from its tokens. -/
theorem Clause.Printable.isRead {clause : Clause} (printable : clause.Printable) :
    Clause.ofTokens? clause.tokens = some clause := by
  obtain ⟨formula, name⟩ := clause
  have follows : Follows [.word "as", .word name] :=
    ⟨by simp, fun word same => by cases same; decide +kernel⟩
  have read : readFormula maximumLevels (3 * (Clause.tokens ⟨formula, name⟩).length + 3)
      (Clause.tokens ⟨formula, name⟩) = some (formula, [.word "as", .word name]) :=
    printable.formula.isRead.asFormula _ _ (by simp [Clause.tokens]; omega) follows
  have isName : isName name = true := printable.name
  simp [Clause.ofTokens?, read, isName, Text.equalIgnoringCase]

end DocumentQuery.Compute
