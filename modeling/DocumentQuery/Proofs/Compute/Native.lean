import DocumentQuery.Proofs.Compute.Value
import DocumentQuery.Proofs.Pipeline.Rows

/-!
# The native expressions of functions

The native expression of a function has the value of the function on the values of its
operands, whatever expressions stand for them. So a formula has the value of the one expression
in which each of its calls stands in its place.
-/

namespace DocumentQuery.Compute

open Expression (Fault evaluate evaluateItems evaluateNamed)

/-- An expression stands for an operand if an operator does not take it for a list of operands,
and if a literal is written as one. -/
structure StandsFor (operand : Formula) (part : Json) : Prop where
  single : ∀ items, part ≠ .array items
  literal : ∀ value, operand = .literal value → part = literalExpression value

/-- A text or a number written as a literal stands for itself, also a text that looks like a
reference: such a text is wrapped, so that it is not looked up. -/
theorem evaluate_literal (row value : Json)
    (scalar : (∃ text, value = .string text) ∨ ∃ number, value = .number number) :
    evaluate row (literalExpression value) = .ok value := by
  obtain ⟨text, rfl⟩ | ⟨number, rfl⟩ := scalar
  · by_cases marked : Predicate.isOperator text = true
    · have known : Predicate.isOperator "$literal" = true := by decide
      simp [literalExpression, marked, applied, evaluate, known, Expression.operator?]
    · have unread : Expression.fieldOf? text = none := by
        cases chars : text.toList with
        | nil => simp [Expression.fieldOf?, chars]
        | cons first rest =>
          have plain : first ≠ '$' := by simpa [Predicate.isOperator, chars] using marked
          simp [Expression.fieldOf?, chars, plain]
      simp [literalExpression, marked, evaluate, unread]
  · exact Expression.evaluate_number row number

/-- An operator with one operand is applied to its value. -/
theorem evaluate_unary (row operand : Json) (operator : String)
    (apply : Json → Except Fault Json) (named : Predicate.isOperator operator = true)
    (known : Expression.operator? operator = some (.unary apply))
    (single : ∀ items, operand ≠ .array items) :
    evaluate row (applied operator operand) = (evaluate row operand >>= apply) := by
  cases operand with
  | array items => exact absurd rfl (single items)
  | _ => simp [applied, evaluate, named, known]

/-- An operator with a list of operands is applied to their values. A list of three operands is a
case of its own, since the operands of a condition may be such a list. -/
theorem evaluate_positional (row : Json) (operator : String) (operands : List Json)
    (apply : List Json → Except Fault Json) (named : Predicate.isOperator operator = true)
    (known : Expression.operator? operator = some (.positional apply)) :
    evaluate row (applied operator (.array operands)) =
      (evaluateItems row operands >>= apply) := by
  match operands with
  | [] | [_] | [_, _] | [_, _, _] | _ :: _ :: _ :: _ :: _ =>
    simp [applied, evaluate, named, known]

/-- An operator with named operands is applied to their values, in the order of the names. -/
theorem evaluate_named (row : Json) (operator : String) (members : Members Json)
    (names : List String) (apply : List Json → Except Fault Json)
    (named : Predicate.isOperator operator = true)
    (known : Expression.operator? operator = some (.named names apply)) :
    evaluate row (applied operator (.object members)) =
      (names.mapM (fun name => evaluateNamed row name members) >>= apply) := by
  simp [applied, evaluate, named, known]

/-- Whether two expressions have equal values is a truth value. The expression chooses between the
two truth values by the operator of equality, which is to answer with that operator's own value. -/
theorem evaluate_equality (row left right : Json) :
    evaluate row (equality left right) = (do
      let first ← evaluate row left
      let second ← evaluate row right
      return .bool (first.equal second)) := by
  have choice : Predicate.isOperator "$cond" = true := by decide
  have equal : evaluate row (applied "$eq" (.array [left, right])) = (do
      let first ← evaluate row left
      let second ← evaluate row right
      return .bool (first.equal second)) := by
    rw [evaluate_positional row "$eq" [left, right] Expression.equal (by decide) rfl]
    cases first : evaluate row left <;> cases second : evaluate row right <;>
      simp [evaluateItems, Expression.equal, first, second]
  have decided (truth : Bool) : (if Expression.isTrue (.bool truth) = true
      then (.ok (.bool true) : Except Fault Json) else .ok (.bool false)) =
        .ok (.bool truth) := by
    cases truth <;> rfl
  have branch (truth : Bool) : evaluate row (.bool truth) = .ok (.bool truth) := rfl
  simp only [equality]
  rw [applied, evaluate]
  simp only [choice, Expression.operator?, equal, branch, if_true]
  cases evaluate row left <;> cases evaluate row right <;> simp [decided]

/-- There are as many expressions as operands, no fewer than the function requires and no more
than it takes. -/
theorem StandsFor.bounds (function : Function) (operands : List Formula) (parts : List Json)
    (accepted : function.accepts operands = true)
    (standing : List.Forall₂ StandsFor operands parts) :
    function.required ≤ parts.length ∧ parts.length ≤ function.operands.length := by
  have same : operands.length = parts.length := standing.length_eq
  simp only [Function.accepts, Bool.and_eq_true, decide_eq_true_eq] at accepted
  omega

/-- A function that requires all of its operands has as many expressions for them. -/
theorem StandsFor.count (function : Function) (operands : List Formula) (parts : List Json)
    (number : Nat) (accepted : function.accepts operands = true)
    (standing : List.Forall₂ StandsFor operands parts) (needs : function.required = number)
    (takes : function.operands.length = number) : parts.length = number := by
  have bounds := StandsFor.bounds function operands parts accepted standing
  omega

/-- The second operand of a function that takes a text there is the literal of a text. The
function accepts its operands, so the second one is a text, and a literal is lowered to its
own expression. -/
theorem StandsFor.text (function : Function) (operands : List Formula) (first second : Json)
    (others : List Json) (kinds : List Kind) (accepted : function.accepts operands = true)
    (takes : function.operands = .expression :: .text :: kinds)
    (standing : List.Forall₂ StandsFor operands (first :: second :: others)) :
    ∃ text, second = literalExpression (.string text) := by
  cases standing with
  | cons _ later =>
    cases later with
    | @cons operand _ _ _ stands _ =>
      simp only [Function.accepts, takes, List.zip_cons_cons, List.all_cons,
        Bool.and_eq_true] at accepted
      obtain ⟨_, _, taken, _⟩ := accepted
      cases operand with
      | literal value =>
        cases value with
        | string text => exact ⟨text, stands.literal _ rfl⟩
        | _ => simp [Kind.accepts] at taken
      | _ => simp [Kind.accepts] at taken

/-- The length of a text is known from its literal. -/
theorem literalLength_text (text : String) :
    literalLength (literalExpression (.string text)) = text.length := by
  by_cases marked : Predicate.isOperator text = true
  · simp [literalExpression, marked, applied, literalLength, Members.get?, Json.string?]
  · simp [literalExpression, marked, literalLength]

/-- A function whose native operator has one operand has the value of the operator. -/
theorem evaluate_native_unary (row part : Json) (function : Function) (operator : String)
    (apply : Json → Except Fault Json) (single : ∀ items, part ≠ .array items)
    (native : nativeExpression function [part] = applied operator part)
    (known : Expression.operator? operator = some (.unary apply))
    (applies : ∀ value, function.apply [value] = apply value)
    (named : Predicate.isOperator operator = true) :
    evaluate row (nativeExpression function [part]) =
      (evaluateItems row [part] >>= function.apply) := by
  rw [native, evaluate_unary row part operator apply named known single]
  cases result : evaluate row part <;> simp [evaluateItems, result, applies]

/-- A function of a date has the value of an operator on the date that its operand names. -/
theorem evaluate_native_date (row part : Json) (function : Function) (operator : String)
    (apply : Json → Except Fault Json) (single : ∀ items, part ≠ .array items)
    (native : nativeExpression function [part] = applied operator (applied "$toDate" part))
    (known : Expression.operator? operator = some (.unary apply))
    (applies : ∀ value, function.apply [value] = (Expression.toDate value >>= apply))
    (named : Predicate.isOperator operator = true) :
    evaluate row (nativeExpression function [part]) =
      (evaluateItems row [part] >>= function.apply) := by
  have date : evaluate row (applied "$toDate" part) =
      (evaluate row part >>= Expression.toDate) :=
    evaluate_unary row part "$toDate" Expression.toDate (by decide) rfl single
  rw [native, evaluate_unary row _ operator apply named known (by simp [applied]), date]
  cases result : evaluate row part <;> simp [evaluateItems, result, applies]

/-- A function whose native operator has two operands in a list has the value of the operator. -/
theorem evaluate_native_binary (row left right : Json) (function : Function) (operator : String)
    (apply : List Json → Except Fault Json)
    (native : nativeExpression function [left, right] =
      applied operator (.array [left, right]))
    (known : Expression.operator? operator = some (.positional apply))
    (applies : ∀ first second, function.apply [first, second] = apply [first, second])
    (named : Predicate.isOperator operator = true) :
    evaluate row (nativeExpression function [left, right]) =
      (evaluateItems row [left, right] >>= function.apply) := by
  rw [native, evaluate_positional row operator _ apply named known]
  cases first : evaluate row left <;> cases second : evaluate row right <;>
    simp [evaluateItems, first, second, applies]

/-- A function that replaces parts of a text has the value of its native operator. -/
theorem evaluate_native_replacement (row text part other : Json) (function : Function)
    (operator : String) (apply : List Json → Except Fault Json)
    (native : nativeExpression function [text, part, other] =
      replacement operator text part other)
    (known : Expression.operator? operator =
      some (.named ["input", "find", "replacement"] apply))
    (applies : ∀ first second third,
      function.apply [first, second, third] = apply [first, second, third])
    (named : Predicate.isOperator operator = true) :
    evaluate row (nativeExpression function [text, part, other]) =
      (evaluateItems row [text, part, other] >>= function.apply) := by
  rw [native, replacement, evaluate_named row operator _ _ apply named known]
  cases first : evaluate row text <;> cases second : evaluate row part <;>
    cases third : evaluate row other <;>
    simp [evaluateItems, evaluateNamed, first, second, third, applies]

/-- A substring has the value of the function on the values of its three operands. -/
theorem evaluate_substring (row text start count : Json) :
    evaluate row (substring text start count) =
      (evaluateItems row [text, start, count] >>= Expression.substring) :=
  evaluate_positional row "$substrCP" _ Expression.substring (by decide) rfl

/-- The number of characters of an expression's value. -/
theorem evaluate_length (row text : Json) (single : ∀ items, text ≠ .array items) :
    evaluate row (applied "$strLenCP" text) = (evaluate row text >>= Expression.length) :=
  evaluate_unary row text "$strLenCP" Expression.length (by decide) rfl single

/-- Whether a text starts with a part is whether as many of its first characters are the part. -/
theorem evaluate_startsWith (row text : Json) (needle : String) :
    evaluate row (nativeExpression .startsWith [text, literalExpression (.string needle)]) =
      (evaluateItems row [text, literalExpression (.string needle)] >>=
        Function.startsWith.apply) := by
  have part : evaluate row (literalExpression (.string needle)) = .ok (.string needle) :=
    evaluate_literal row (.string needle) (.inl ⟨needle, rfl⟩)
  have number (count : Nat) : evaluate row (.ofNat count) = .ok (.ofNat count) := rfl
  rw [nativeExpression, evaluate_equality, evaluate_substring, literalLength_text]
  cases value : evaluate row text <;>
    simp [evaluateItems, part, number, value, Function.apply, Expression.length]

/-- Whether a text ends with a part is whether as many of its last characters are the part. The
place where these begin is the difference of the lengths, which is computed from the text itself. -/
theorem evaluate_endsWith (row text : Json) (needle : String)
    (single : ∀ items, text ≠ .array items) :
    evaluate row (nativeExpression .endsWith [text, literalExpression (.string needle)]) =
      (evaluateItems row [text, literalExpression (.string needle)] >>=
        Function.endsWith.apply) := by
  have part : evaluate row (literalExpression (.string needle)) = .ok (.string needle) :=
    evaluate_literal row (.string needle) (.inl ⟨needle, rfl⟩)
  have number (count : Nat) : evaluate row (.ofNat count) = .ok (.ofNat count) := rfl
  rw [nativeExpression, evaluate_equality, evaluate_substring, literalLength_text]
  have passed : evaluate row (applied "$subtract"
      (.array [applied "$strLenCP" text, .ofNat needle.length])) = (do
        let size ← evaluate row text >>= Expression.length
        Expression.subtract [size, .ofNat needle.length]) := by
    rw [evaluate_positional row "$subtract" _ Expression.subtract (by decide) rfl]
    simp only [evaluateItems, evaluate_length row text single, number]
    cases evaluate row text >>= Expression.length <;> simp
  cases value : evaluate row text with
  | error fault => simp [evaluateItems, value]
  | ok whole =>
    simp [evaluateItems, part, number, value, passed, Function.apply, Expression.length]

/-- The native expression of a function has the value of the function on the values of its
operands, and if one of them has a fault, it has the first. -/
theorem evaluate_native (row : Json) (function : Function) (operands : List Formula)
    (parts : List Json) (accepted : function.accepts operands = true)
    (standing : List.Forall₂ StandsFor operands parts) :
    evaluate row (nativeExpression function parts) =
      (evaluateItems row parts >>= function.apply) := by
  have count := StandsFor.count function operands parts
  have single : ∀ first others, parts = first :: others → ∀ items, first ≠ .array items := by
    intro first others shape
    subst shape
    cases standing with
    | cons stands _ => exact stands.single
  cases function with
  | add | sub | mul | div | indexOf =>
    obtain ⟨left, right, rfl⟩ := List.length_eq_two.mp (count 2 accepted standing rfl rfl)
    exact evaluate_native_binary row left right _ _ _ rfl rfl (fun _ _ => rfl) (by decide)
  | concat => exact evaluate_positional row "$concat" parts Expression.concat (by decide) rfl
  | toLower | toUpper | length | floor | ceiling =>
    obtain ⟨part, rfl⟩ := List.length_eq_one_iff.mp (count 1 accepted standing rfl rfl)
    exact evaluate_native_unary row part _ _ _ (single part [] rfl) rfl rfl (fun _ => rfl)
      (by decide)
  | year | month | day =>
    obtain ⟨date, rfl⟩ := List.length_eq_one_iff.mp (count 1 accepted standing rfl rfl)
    exact evaluate_native_date row date _ _ _ (single date [] rfl) rfl rfl (fun _ => rfl)
      (by decide)
  | replace | replaceAll =>
    obtain ⟨text, part, other, rfl⟩ :=
      List.length_eq_three.mp (count 3 accepted standing rfl rfl)
    exact evaluate_native_replacement row text part other _ _ _ rfl rfl (fun _ _ _ => rfl)
      (by decide)
  | trim =>
    obtain ⟨text, rfl⟩ := List.length_eq_one_iff.mp (count 1 accepted standing rfl rfl)
    rw [nativeExpression, evaluate_named row "$trim" _ ["input"] Expression.trim (by decide) rfl]
    cases value : evaluate row text <;>
      simp [evaluateItems, evaluateNamed, value, Function.apply]
  | round =>
    obtain ⟨number, rfl⟩ := List.length_eq_one_iff.mp (count 1 accepted standing rfl rfl)
    rw [nativeExpression, evaluate_positional row "$round" _ Expression.round (by decide) rfl]
    have zero : evaluate row (.ofNat 0) = .ok (.ofNat 0) := rfl
    cases value : evaluate row number <;>
      simp [evaluateItems, zero, value, Function.apply]
  | substring =>
    have size := StandsFor.bounds .substring operands parts accepted standing
    simp only [Function.required, Function.operands, List.length_cons, List.length_nil] at size
    match parts, size with
    | [text, start], _ =>
      rw [nativeExpression, evaluate_substring]
      cases whole : evaluate row text <;> cases passed : evaluate row start <;>
        simp [evaluateItems, evaluate_length row text (single text _ rfl), whole, passed,
          Function.apply]
    | [text, start, count], _ =>
      rw [nativeExpression, evaluate_substring]
      cases whole : evaluate row text <;> cases passed : evaluate row start <;>
        cases taken : evaluate row count <;>
        simp [evaluateItems, whole, passed, taken, Function.apply]
  | startsWith =>
    obtain ⟨text, part, rfl⟩ := List.length_eq_two.mp (count 2 accepted standing rfl rfl)
    obtain ⟨needle, rfl⟩ := StandsFor.text _ _ _ _ _ _ accepted rfl standing
    exact evaluate_startsWith row text needle
  | endsWith =>
    obtain ⟨text, part, rfl⟩ := List.length_eq_two.mp (count 2 accepted standing rfl rfl)
    obtain ⟨needle, rfl⟩ := StandsFor.text _ _ _ _ _ _ accepted rfl standing
    exact evaluate_endsWith row text needle (single text _ rfl)

/-- The native expression of a function is no list. -/
theorem native_single (function : Function) (parts items : List Json) :
    nativeExpression function parts ≠ .array items := by
  unfold nativeExpression
  split <;> simp [applied, equality, substring, replacement]

/-- A literal text or number is no list. -/
theorem literal_single (value : Json) (items : List Json)
    (scalar : (∃ text, value = .string text) ∨ ∃ number, value = .number number) :
    literalExpression value ≠ .array items := by
  obtain ⟨text, rfl⟩ | ⟨number, rfl⟩ := scalar
  · by_cases marked : Predicate.isOperator text = true <;>
      simp [literalExpression, marked, applied]
  · simp [literalExpression]

namespace Formula

mutual

/-- A formula as one expression, in which calls stand within calls and no temporary field
is used. -/
def nested : Formula → Json
  | .field path => fieldReference path
  | .literal value => literalExpression value
  | .call function operands => nativeExpression function (nestedParts operands)
termination_by structural formula => formula

/-- Formulas as one expression each, in their order. -/
def nestedParts : List Formula → List Json
  | [] => []
  | formula :: formulas => nested formula :: nestedParts formulas
termination_by structural formulas => formulas

end

/-- A formula as one expression stands for it. -/
theorem standsFor_nested (formula : Formula) (accepted : formula.Accepted) :
    StandsFor formula formula.nested := by
  cases formula with
  | field path => exact ⟨by simp [nested, fieldReference], by simp⟩
  | literal value =>
    refine ⟨fun items => literal_single value items accepted, ?_⟩
    intro other same
    cases same
    rfl
  | call function operands =>
    exact ⟨native_single function (nestedParts operands), by simp⟩

/-- Formulas as one expression each stand for them. -/
theorem standsFor_nestedParts (formulas : List Formula) (accepted : AllAccepted formulas) :
    List.Forall₂ StandsFor formulas (nestedParts formulas) := by
  induction formulas with
  | nil => exact .nil
  | cons formula formulas inductionHypothesis =>
    obtain ⟨first, others⟩ := accepted
    exact .cons (standsFor_nested formula first) (inductionHypothesis others)

mutual

/-- An accepted formula has the value of the one expression that it is written as. -/
theorem evaluate_nested (row : Json) (formula : Formula) (accepted : formula.Accepted) :
    evaluate row formula.nested = formula.value row := by
  match formula, accepted with
  | .field path, _ => exact evaluate_reference row path
  | .literal value, scalar => exact evaluate_literal row value scalar
  | .call function operands, ⟨takes, all⟩ =>
    rw [nested, value, ← evaluate_nestedParts row operands all]
    exact evaluate_native row function operands _ takes (standsFor_nestedParts operands all)
termination_by structural formula

/-- Accepted formulas have the values of the expressions that they are written as. -/
theorem evaluate_nestedParts (row : Json) (formulas : List Formula)
    (accepted : AllAccepted formulas) :
    evaluateItems row (nestedParts formulas) = values row formulas := by
  match formulas, accepted with
  | [], _ => rfl
  | formula :: formulas, ⟨first, others⟩ =>
    simp only [nestedParts, evaluateItems, values, evaluate_nested row formula first,
      evaluate_nestedParts row formulas others]
termination_by structural formulas

end

end Formula

end DocumentQuery.Compute
