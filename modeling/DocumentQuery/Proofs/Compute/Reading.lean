import DocumentQuery.Compute.Reader
import DocumentQuery.Proofs.Compute.Value

/-!
# Clauses that are read are accepted

Whatever text a clause is read from, its literals are texts and numbers, each of its functions
takes its operands, and its name is no path. The readers are mutually recursive, so one
induction on the number of their steps is about all of them.
-/

namespace DocumentQuery.Compute

/-- The numerals among tokens are numbers. -/
def Numerals (tokens : List Token) : Prop :=
  ∀ value, Token.number value ∈ tokens → ∃ number, value = .number number

/-- The rest of tokens with numerals has such. -/
theorem Numerals.tail {token : Token} {tokens : List Token}
    (numerals : Numerals (token :: tokens)) : Numerals tokens :=
  fun value inside => numerals value (List.mem_cons_of_mem token inside)

/-- A numeral is a number. -/
theorem numeral_number (text : List Char) (value : Json)
    (read : Filter.numeral? text = some value) : ∃ number, value = .number number := by
  unfold Filter.numeral? at read
  split at read
  · cases read
    exact ⟨_, rfl⟩
  · obtain ⟨decimal, _, rfl⟩ := Option.map_eq_some_iff.mp read
    exact ⟨_, rfl⟩

/-- A numeral among the tokens is a number. -/
theorem readToken_number (char : Char) (rest : List Char) (value : Json) (size : Nat)
    (read : readToken? char rest = some (.number value, size)) :
    ∃ number, value = .number number := by
  unfold readToken? at read
  repeat' split at read
  all_goals simp only [Option.some.injEq, Prod.mk.injEq, Option.map_eq_some_iff, reduceCtorEq,
    false_and, and_false, exists_false] at read
  obtain ⟨own, numeral, same, _⟩ := read
  cases same
  exact numeral_number _ _ numeral

/-- The tokens of a text have numbers as numerals. A numeral is only read at a place where a number
is written, and the characters of a token that was read are passed over. -/
theorem tokensFrom_numerals (passed : Nat) (text : List Char) (tokens : List Token)
    (read : tokensFrom passed text = some tokens) : Numerals tokens := by
  induction text generalizing passed tokens with
  | nil =>
    cases read
    simp [Numerals]
  | cons char rest inductionHypothesis =>
    cases passed with
    | succ passed => exact inductionHypothesis passed tokens read
    | zero =>
      by_cases blank : Text.isBlank char = true
      · simp only [tokensFrom, blank, if_true] at read
        exact inductionHypothesis 0 tokens read
      · simp only [tokensFrom, blank, if_false, Bool.false_eq_true] at read
        obtain ⟨⟨token, size⟩, first, read⟩ := Option.bind_eq_some_iff.mp read
        obtain ⟨others, later, rfl⟩ := Option.map_eq_some_iff.mp read
        intro value inside
        rcases List.mem_cons.mp inside with same | further
        · cases same
          exact readToken_number char rest value size first
        · exact inductionHypothesis size others later value further

/-- A call that a function admits is accepted if its operands are. -/
theorem call_accepted (function : Function) (operands : List Formula) (formula : Formula)
    (called : function.call? operands = some formula)
    (accepted : Formula.AllAccepted operands) : formula.Accepted := by
  unfold Function.call? at called
  split at called
  · cases called
    exact ⟨‹_›, accepted⟩
  · cases called

/-- What the readers of formulas answer is accepted, and so are the numerals behind it. -/
structure Sound (steps : Nat) : Prop where
  formula : ∀ levels tokens formula rest, Numerals tokens →
    readFormula levels steps tokens = some (formula, rest) → formula.Accepted ∧ Numerals rest
  operand : ∀ levels tokens formula rest, Numerals tokens →
    readOperand levels steps tokens = some (formula, rest) → formula.Accepted ∧ Numerals rest
  operands : ∀ levels tokens formulas rest, Numerals tokens →
    readOperands levels steps tokens = some (formulas, rest) →
      Formula.AllAccepted formulas ∧ Numerals rest

/-- A formula is an accepted operand, or an arithmetic function of one and a numeral. One step more
is taken here than for the operand, which is accepted by what is known of fewer steps. -/
theorem Sound.next_formula {steps : Nat} (sound : Sound steps) (levels : Nat)
    (tokens rest : List Token) (formula : Formula) (numerals : Numerals tokens)
    (read : readFormula levels (steps + 1) tokens = some (formula, rest)) :
    formula.Accepted ∧ Numerals rest := by
  simp only [readFormula, Option.bind_eq_bind, Option.bind_eq_some_iff] at read
  obtain ⟨⟨left, behind⟩, first, read⟩ := read
  obtain ⟨accepted, numerals⟩ := sound.operand levels tokens left behind numerals first
  rcases behind with _ | ⟨⟨name⟩ | _ | _ | _ | _ | _, others⟩
  case cons.word =>
    cases found : Function.find? true name with
    | none =>
      simp only [found] at read
      cases read
      exact ⟨accepted, numerals⟩
    | some function =>
      rcases others with _ | ⟨_ | ⟨value⟩ | _ | _ | _ | _, others⟩ <;> simp only [found] at read
      case cons.number =>
        obtain ⟨called, admitted, same⟩ := Option.bind_eq_some_iff.mp read
        cases same
        have number := numerals.tail value List.mem_cons_self
        have both : Formula.AllAccepted [left, .literal value] := ⟨accepted, .inr number, trivial⟩
        exact ⟨call_accepted function _ _ admitted both, numerals.tail.tail⟩
      all_goals cases read
  all_goals
    cases read
    exact ⟨accepted, numerals⟩

/-- An operand is a literal, a field, or an accepted call. The operands of the call are accepted by
what is known of fewer steps, and the call is only made if its function accepts them. -/
theorem Sound.next_operand {steps : Nat} (sound : Sound steps) (levels : Nat)
    (tokens rest : List Token) (formula : Formula) (numerals : Numerals tokens)
    (read : readOperand levels (steps + 1) tokens = some (formula, rest)) :
    formula.Accepted ∧ Numerals rest := by
  rcases tokens with _ | ⟨⟨name⟩ | ⟨value⟩ | ⟨text⟩ | _ | _ | _, others⟩
  case cons.number =>
    cases read
    exact ⟨.inr (numerals value List.mem_cons_self), numerals.tail⟩
  case cons.text =>
    cases read
    exact ⟨.inl ⟨text, rfl⟩, numerals.tail⟩
  case cons.word =>
    have behind := numerals.tail
    rcases others with _ | ⟨_ | _ | _ | _ | _ | _, others⟩
    case cons.opening =>
      cases levels with
      | zero => cases read
      | succ levels =>
        simp only [readOperand, Option.bind_eq_bind, Option.bind_eq_some_iff] at read
        obtain ⟨function, _, read⟩ := read
        have inner : ∃ operands later, Formula.AllAccepted operands ∧ Numerals later ∧
            ((function.call? operands).bind fun called => some (called, later)) =
              some (formula, rest) := by
          split at read
          · exact ⟨[], _, trivial, behind.tail.tail, read⟩
          · obtain ⟨⟨operands, later⟩, inside, read⟩ := Option.bind_eq_some_iff.mp read
            obtain ⟨all, numerals⟩ := sound.operands levels others operands later behind.tail inside
            exact ⟨operands, later, all, numerals, read⟩
        obtain ⟨operands, later, all, numerals, read⟩ := inner
        obtain ⟨called, admitted, same⟩ := Option.bind_eq_some_iff.mp read
        cases same
        exact ⟨call_accepted function operands _ admitted all, numerals⟩
    all_goals
      cases read
      exact ⟨trivial, behind⟩
  all_goals cases read

/-- Operands in parentheses are accepted formulas. The first is read as a formula and the others
behind its comma, each in fewer steps, up to the parenthesis that closes the call. -/
theorem Sound.next_operands {steps : Nat} (sound : Sound steps) (levels : Nat)
    (tokens rest : List Token) (formulas : List Formula) (numerals : Numerals tokens)
    (read : readOperands levels (steps + 1) tokens = some (formulas, rest)) :
    Formula.AllAccepted formulas ∧ Numerals rest := by
  simp only [readOperands, Option.bind_eq_bind, Option.bind_eq_some_iff] at read
  obtain ⟨⟨first, behind⟩, readFirst, read⟩ := read
  obtain ⟨accepted, numerals⟩ := sound.formula levels tokens first behind numerals readFirst
  rcases behind with _ | ⟨_ | _ | _ | _ | _ | _, others⟩
  case cons.comma =>
    obtain ⟨⟨further, later⟩, readFurther, same⟩ := Option.bind_eq_some_iff.mp read
    cases same
    obtain ⟨all, numerals⟩ := sound.operands levels others further _ numerals.tail readFurther
    exact ⟨⟨accepted, all⟩, numerals⟩
  case cons.closing =>
    cases read
    exact ⟨⟨accepted, trivial⟩, numerals.tail⟩
  all_goals cases read

/-- The readers answer accepted formulas. They call one another with one step less, so that what is
said of all three of them is proved together, by induction on the steps. -/
theorem readers_sound (steps : Nat) : Sound steps := by
  induction steps with
  | zero => exact ⟨by simp [readFormula], by simp [readOperand], by simp [readOperands]⟩
  | succ steps inductionHypothesis =>
    constructor
    · exact fun levels tokens formula rest =>
        inductionHypothesis.next_formula levels tokens rest formula
    · exact fun levels tokens formula rest =>
        inductionHypothesis.next_operand levels tokens rest formula
    · exact fun levels tokens formulas rest =>
        inductionHypothesis.next_operands levels tokens rest formulas

/-- The name of a clause is one step of a path, since a dot neither begins nor continues a name. -/
theorem isName_plain (name : String) (isName : isName name = true) : '.' ∉ name.toList := by
  intro dot
  unfold Compute.isName at isName
  cases chars : name.toList with
  | nil => simp [chars] at dot
  | cons first rest =>
    simp only [chars, Bool.and_eq_true, List.all_eq_true] at isName
    obtain ⟨starts, continues⟩ := isName
    rcases List.mem_cons.mp (chars ▸ dot) with same | later
    · exact absurd (same ▸ starts) (by decide)
    · exact absurd (continues '.' later) (by decide)

/-- A clause that is read has an accepted formula, and its name is one step of a path. It is read
from the tokens of the text, of which the numerals are numbers. -/
theorem Clause.accepted_of_text (text : List Char) (clause : Clause)
    (read : Clause.ofText? text = some clause) :
    clause.formula.Accepted ∧ '.' ∉ clause.name.toList := by
  obtain ⟨tokens, split, read⟩ := Option.bind_eq_some_iff.mp read
  have numerals := tokensFrom_numerals 0 text tokens split
  simp only [Clause.ofTokens?, Option.bind_eq_bind, Option.bind_eq_some_iff] at read
  obtain ⟨⟨formula, behind⟩, first, read⟩ := read
  obtain ⟨accepted, _⟩ := (readers_sound _).formula _ tokens formula behind numerals first
  split at read
  · split at read
    case isTrue named =>
      cases read
      exact ⟨accepted, isName_plain _ (Bool.and_eq_true_iff.mp named).2⟩
    case isFalse => cases read
  · cases read

end DocumentQuery.Compute
