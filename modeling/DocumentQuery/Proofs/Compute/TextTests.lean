import DocumentQuery.Proofs.Binary64.Integers
import DocumentQuery.Proofs.Compute.Native
import DocumentQuery.Proofs.Pipeline.Rows

/-!
# Tests of the ends of a text

Whether a text begins or ends with another one is decided on a part of it: as many characters as the
other one has are taken from the front, or from as far before the end. The place of that part is
computed with binary64 numbers, which are exact for these lengths. From the front there is always a
part to compare with, shorter than the other text if need be. Before the end the place lies in front
of a text that is shorter, and then there is a fault instead of an answer.
-/

namespace DocumentQuery

/-- The text in a field, empty if there is none. -/
def textAt (field : String) (row : Json) : String :=
  ((row.valueAt? field).bind Json.string?).getD ""

namespace Expression

/-- Every natural number is a position, if a rounded one. -/
theorem position_natural (operator : String) (count : Nat) :
    position operator (some (.ofNat count)) = .ok (Binary64.rounded count) := by
  simp [position, Json.ofNat, Json.ofInt, Json.binary64?, Number.toBinary64, Binary64.ofInt,
    Binary64.rounded]

/-- An integer is a position unless it is negative. -/
theorem position_integral (operator : String) (value : Json) (place : Int)
    (read : value.binary64? = some (.integral place)) :
    position operator (some value) =
      if place < 0 then .error (.expects operator .positions) else .ok place.natAbs := by
  have sign : ((Binary64.integral place).negative && !(Binary64.integral place).isZero) =
      decide (place < 0) := by
    by_cases below : place < 0
    · have units : place.natAbs * Binary64.one ≠ 0 :=
        Nat.mul_ne_zero (by omega) (Nat.ne_of_gt Binary64.one_pos)
      simp [Binary64.integral, Binary64.isZero, below, units]
    · simp [Binary64.integral, below]
  simp only [position, Option.bind_some, read, sign, decide_eq_true_eq,
    Binary64.wholePart_integral]

/-- A natural number of 53 bits is itself as a position. -/
theorem position_exact (operator : String) (count : Nat) (small : count < 2 ^ 53) :
    position operator (some (.ofNat count)) = .ok count := by
  rw [position_natural, Binary64.rounded_exact count small]

/-- The difference of two lengths is read back exactly. Lengths below `2^53` are exact as binary64
numbers, and so is their difference, also if it is negative. -/
theorem subtract_lengths (left right : Nat) (leftSmall : left < 2 ^ 53)
    (rightSmall : right < 2 ^ 53) : ∃ difference,
      subtract [.ofNat left, .ofNat right] = .ok difference ∧
      difference.binary64? = some (.integral (left - right)) := by
  have small : ((left : Int) - right).natAbs < 2 ^ 53 := by omega
  refine ⟨.ofArithmetic (some (.integral (left - right))), ?_, Binary64.read_integral _ small⟩
  have leftRead : (Json.ofNat left).binary64? = some (.integral left) :=
    congrArg some (Binary64.ofInt_integral left leftSmall)
  have rightRead : (Json.ofNat right).binary64? = some (.integral right) :=
    congrArg some (Binary64.ofInt_integral right rightSmall)
  have operands : numbers "$subtract" [.ofNat left, .ofNat right] =
      .ok [.integral left, .integral right] := by
    simp [numbers, leftRead, rightRead]
  have present : [Json.ofNat left, .ofNat right].any Json.isNull = false := rfl
  simp only [subtract, withNumbers, present, Bool.false_eq_true, if_false, operands,
    subtract.difference, Binary64.sub_integral _ _ small, pure_eq_ok, ok_bind]

/-- Where positions are found, a part of a text is. -/
theorem substring_found (text : String) (start count : Json) (passed taken : Nat)
    (begins : position "$substrCP" (some start) = .ok passed)
    (spans : position "$substrCP" (some count) = .ok taken) :
    substring [.string text, start, count] =
      .ok (.string (String.ofList ((text.toList.drop passed).take taken))) := by
  simp [substring, textOrEmpty, begins, spans]

/-- A part of a text equals a text if it has the same characters. -/
theorem equal_part (part : List Char) (needle : String) :
    (Json.string (String.ofList part)).equal (.string needle) =
      decide (needle.toList = part) := by
  rw [Json.equal, Bool.eq_iff_iff, beq_iff_eq, decide_eq_true_iff]
  constructor
  · rintro rfl
    exact String.toList_ofList
  · rintro rfl
    exact String.ofList_toList

end Expression

namespace Compute

open Expression (Fault evaluate)

section Tests

variable (text needle : String)

/-- The front of a text is compared with the needle. -/
theorem apply_startsWith (taken : Nat)
    (spans : Expression.position "$substrCP" (some (.ofNat needle.length)) = .ok taken) :
    Function.startsWith.apply [.string text, .string needle] =
      .ok (.bool (decide (needle.toList = text.toList.take taken))) := by
  have begins : Expression.position "$substrCP" (some (.ofNat 0)) = .ok 0 :=
    Expression.position_exact "$substrCP" 0 (by decide)
  have front := Expression.substring_found text _ _ _ _ begins spans
  simp only [Function.apply, Expression.length, front, ok_bind, pure_eq_ok,
    Expression.equal_part, List.drop_zero]

/-- As many characters from the front as the needle has are the needle exactly if the text begins
with it. -/
theorem front_iff : needle.toList = text.toList.take needle.length ↔
    needle.toList <+: text.toList := by
  rw [List.prefix_iff_eq_take, String.length_toList]

/-- As many characters before the end are the needle exactly if the text ends with it. -/
theorem end_iff (longer : needle.length ≤ text.length) :
    needle.toList = (text.toList.drop (text.length - needle.length)).take needle.length ↔
      needle.toList <:+ text.toList := by
  have all : (text.toList.drop (text.length - needle.length)).length ≤ needle.length := by
    rw [List.length_drop, String.length_toList]
    omega
  rw [List.take_of_length_le all, List.suffix_iff_eq_drop, String.length_toList,
    String.length_toList]

/-- The end of a text that is not shorter is the needle exactly if the text ends with it, and that
of a shorter one is sought in front of the text. The steps of the test are rewritten one by one,
since else the difference of the lengths would be computed. -/
theorem apply_endsWith (textSmall : text.length < 2 ^ 53) (small : needle.length < 2 ^ 53) :
    Function.endsWith.apply [.string text, .string needle] =
      if needle.length ≤ text.length then .ok (.bool (decide (needle.toList <:+ text.toList)))
      else .error (.expects "$substrCP" .positions) := by
  obtain ⟨difference, subtracted, read⟩ :=
    Expression.subtract_lengths text.length needle.length textSmall small
  have begins := Expression.position_integral "$substrCP" difference _ read
  have spans := Expression.position_exact "$substrCP" needle.length small
  have textLength : Expression.length (.string text) = .ok (.ofNat text.length) := rfl
  have needleLength : Expression.length (.string needle) = .ok (.ofNat needle.length) := rfl
  rw [Function.apply, needleLength, ok_bind, textLength, ok_bind, subtracted, ok_bind]
  by_cases longer : needle.length ≤ text.length
  · have front : ¬ (text.length : Int) - needle.length < 0 := by omega
    have passed : ((text.length : Int) - needle.length).natAbs =
        text.length - needle.length := by omega
    rw [if_neg front, passed] at begins
    have rest := Expression.substring_found text _ _ _ _ begins spans
    rw [rest, ok_bind, pure_eq_ok, Expression.equal_part, if_pos longer]
    simp only [end_iff text needle longer]
  · have before : (text.length : Int) - needle.length < 0 := by omega
    rw [if_pos before] at begins
    rw [if_neg longer]
    simp [Expression.substring, Expression.textOrEmpty, begins]

end Tests

/-- The clause that sets a name to a test of the text in a field. -/
def textTest (function : Function) (field needle name : String) : Clause :=
  ⟨.call function [.field field, .literal (.string needle)], name⟩

section Stages

variable (source : Pipeline.Source) (next : Nat) (function : Function)
variable (field needle name : String) (rows : List Json)

/-- The rows behind a pipeline of the stages of a test. -/
def tested : Except Pipeline.Fault (List Json) :=
  Pipeline.run source ((textTest function field needle name).stages next).1 rows

/-- The stages of a test send each row through the function by itself. The formula is a single call
on a field and a literal, so it is lowered to one stage without temporary fields. -/
theorem tested_eq
    (accepted : function.accepts [.field field, .literal (.string needle)] = true) :
    tested source next function field needle name rows =
      Pipeline.ofExpression (rows.mapM fun row =>
        (function.apply [(row.valueAt? field).getD .null, .string needle]).map
          (row.setAt name)) := by
  have formula (row : Json) : evaluate row (textTest function field needle name).formula.nested =
      function.apply [(row.valueAt? field).getD .null, .string needle] :=
    Formula.evaluate_nested row _ ⟨accepted, trivial, .inl ⟨needle, rfl⟩, trivial⟩
  have stages : ((textTest function field needle name).stages next).1 =
      [.compute [(name, (textTest function field needle name).formula.nested)]] := rfl
  have computed : computeRow [(name, (textTest function field needle name).formula.nested)] =
      fun row => (function.apply [(row.valueAt? field).getD .null, .string needle]).map
        (row.setAt name) := by
    funext row
    rw [← formula row]
    cases answer : evaluate row (textTest function field needle name).formula.nested <;>
      simp [computeRow, answer, Except.map]
  rw [tested, stages, Pipeline.run, Stage.run, computed]
  exact bind_pure _

/-- A test that has an answer on each row sets it there. -/
theorem tested_answers (answer : Json → Json)
    (accepted : function.accepts [.field field, .literal (.string needle)] = true)
    (each : ∀ row ∈ rows, function.apply [(row.valueAt? field).getD .null, .string needle] =
      .ok (answer row)) :
    tested source next function field needle name rows =
      .ok (rows.map fun row => row.setAt name (answer row)) := by
  have made := mapM_made (fun row : Json =>
      (function.apply [(row.valueAt? field).getD .null, .string needle]).map (row.setAt name))
    (fun row => row.setAt name (answer row)) rows
    fun row listed => congrArg (Except.map (row.setAt name)) (each row listed)
  rw [tested_eq source next function field needle name rows accepted, made]
  rfl

/-- A test that has a fault on some row and no other fault on any has this fault on the rows. -/
theorem tested_fault (fault : Fault)
    (accepted : function.accepts [.field field, .literal (.string needle)] = true)
    (same : ∀ row ∈ rows, ∀ other, function.apply
      [(row.valueAt? field).getD .null, .string needle] = .error other → other = fault)
    (failed : ∃ row ∈ rows, function.apply
      [(row.valueAt? field).getD .null, .string needle] = .error fault) :
    tested source next function field needle name rows = .error (.expression fault) := by
  have unset (row : Json) (other : Fault) : (function.apply
      [(row.valueAt? field).getD .null, .string needle]).map (row.setAt name) = .error other ↔
        function.apply [(row.valueAt? field).getD .null, .string needle] = .error other := by
    cases function.apply [(row.valueAt? field).getD .null, .string needle] <;> simp [Except.map]
  rw [tested_eq source next function field needle name rows accepted, mapM_failed _ rows fault]
  · rfl
  · exact fun row listed other stopped => same row listed other ((unset row other).mp stopped)
  · obtain ⟨row, listed, stopped⟩ := failed
    exact ⟨row, listed, (unset row fault).mpr stopped⟩

/-- Each row holds a text in a field. -/
def HoldTexts : Prop :=
  ∀ row ∈ rows, row.valueAt? field = some (.string (textAt field row))

variable {field rows}

/-- What a test is applied to on a row that holds a text. -/
theorem HoldTexts.operand (held : HoldTexts field rows) (row : Json) (listed : row ∈ rows) :
    (row.valueAt? field).getD .null = .string (textAt field row) := by
  rw [held row listed, Option.getD_some]

/-- The fronts of all texts are compared with the needle. -/
theorem HoldTexts.startsWith (held : HoldTexts field rows) (taken : Nat)
    (spans : Expression.position "$substrCP" (some (.ofNat needle.length)) = .ok taken) :
    tested source next .startsWith field needle name rows = .ok (rows.map fun row =>
      row.setAt name (.bool (decide (needle.toList = (textAt field row).toList.take taken)))) := by
  refine tested_answers source next .startsWith field needle name rows _ rfl fun row listed => ?_
  rw [held.operand row listed, apply_startsWith _ needle taken spans]

/-- The ends of texts that are not shorter are compared with the needle. -/
theorem HoldTexts.endsWith (held : HoldTexts field rows) (small : needle.length < 2 ^ 53)
    (textsSmall : ∀ row ∈ rows, (textAt field row).length < 2 ^ 53)
    (longer : ∀ row ∈ rows, needle.length ≤ (textAt field row).length) :
    tested source next .endsWith field needle name rows = .ok (rows.map fun row =>
      row.setAt name (.bool (decide (needle.toList <:+ (textAt field row).toList)))) := by
  refine tested_answers source next .endsWith field needle name rows _ rfl fun row listed => ?_
  rw [held.operand row listed, apply_endsWith _ needle (textsSmall row listed) small,
    if_pos (longer row listed)]

/-- One shorter text is enough for a fault. -/
theorem HoldTexts.endsWith_shorter (held : HoldTexts field rows) (small : needle.length < 2 ^ 53)
    (textsSmall : ∀ row ∈ rows, (textAt field row).length < 2 ^ 53)
    (shorter : ∃ row ∈ rows, (textAt field row).length < needle.length) :
    tested source next .endsWith field needle name rows =
      .error (.expression (.expects "$substrCP" .positions)) := by
  obtain ⟨short, present, less⟩ := shorter
  refine tested_fault source next .endsWith field needle name rows _ rfl
    (fun row listed other failed => ?_) ⟨short, present, ?_⟩
  · rw [held.operand row listed, apply_endsWith _ needle (textsSmall row listed) small] at failed
    split at failed
    · exact absurd failed nofun
    · exact (Except.error.inj failed).symm
  · rw [held.operand short present, apply_endsWith _ needle (textsSmall short present) small,
      if_neg (Nat.not_le.mpr less)]

/-- Whatever texts the rows hold in a field, the stages of `startswith` come through, and each row
is given whether its text begins with the needle. Those of `endswith` give each row whether its text
ends with the needle if no text is shorter than that; if only one is, there are no rows but a fault.

Proof: the test is on a part of the text of the needle's length, which is the needle exactly if the
text begins or ends with it. The part at the end begins at a difference of lengths. For a shorter
text this is a negative place, which is a fault for the whole run. -/
theorem texts_tested (held : HoldTexts field rows) :
    (∃ answers, tested source next .startsWith field needle name rows = .ok answers) ∧
    (needle.length < 2 ^ 53 →
      tested source next .startsWith field needle name rows = .ok (rows.map fun row =>
        row.setAt name (.bool (decide (needle.toList <+: (textAt field row).toList)))) ∧
      ((∀ row ∈ rows, (textAt field row).length < 2 ^ 53) →
        ((∀ row ∈ rows, needle.length ≤ (textAt field row).length) →
          tested source next .endsWith field needle name rows = .ok (rows.map fun row =>
            row.setAt name (.bool (decide (needle.toList <:+ (textAt field row).toList))))) ∧
        ((∃ row ∈ rows, (textAt field row).length < needle.length) →
          tested source next .endsWith field needle name rows =
            .error (.expression (.expects "$substrCP" .positions))))) := by
  have fronts := held.startsWith source next needle name
  refine ⟨⟨_, fronts _ (Expression.position_natural _ _)⟩, fun small => ⟨?_, fun textsSmall =>
    ⟨held.endsWith source next needle name small textsSmall,
      held.endsWith_shorter source next needle name small textsSmall⟩⟩⟩
  simpa only [front_iff] using fronts needle.length (Expression.position_exact _ _ small)

end Stages

/-- Two rows with texts that have a dollar sign and a letter beyond ASCII at an end. -/
def markedRows : List Json :=
  [.object [("name", .string "$ño")], .object [("name", .string "año$ñ")]]

/-- A needle that looks like a reference to a field is found at the front of the one text and at the
end of the other. -/
theorem markedRows_tested :
    tested (fun _ => []) 0 .startsWith "name" "$ñ" "marked" markedRows = .ok
      [.object [("name", .string "$ño"), ("marked", .bool true)],
        .object [("name", .string "año$ñ"), ("marked", .bool false)]] ∧
    tested (fun _ => []) 0 .endsWith "name" "$ñ" "marked" markedRows = .ok
      [.object [("name", .string "$ño"), ("marked", .bool false)],
        .object [("name", .string "año$ñ"), ("marked", .bool true)]] := by
  have held : HoldTexts "name" markedRows := by
    rintro row (_ | ⟨_, _ | ⟨_, none⟩⟩)
    · rfl
    · rfl
    · cases none
  obtain ⟨-, exact⟩ := texts_tested (fun _ => []) 0 "$ñ" "marked" held
  obtain ⟨starts, ends⟩ := exact (by decide)
  have lengths : ∀ row ∈ markedRows,
      "$ñ".length ≤ (textAt "name" row).length ∧ (textAt "name" row).length < 2 ^ 53 := by
    rintro row (_ | ⟨_, _ | ⟨_, none⟩⟩)
    · decide
    · decide
    · cases none
  have found := (ends fun row listed => (lengths row listed).2).1
    fun row listed => (lengths row listed).1
  exact ⟨starts.trans rfl, found.trans rfl⟩

/-- A row with a text of two characters. -/
def laughing : Json := .object [("name", .string "ha")]

/-- The end of a text that is shorter than the needle is not compared with it: there is a fault. The
text has two characters and the needle five, so its end would begin three places before the text. -/
theorem shorterText_fails :
    laughing.valueAt? "name" = some (.string "ha") ∧
    tested (fun _ => []) 0 .endsWith "name" "alpha" "found" [laughing] =
      .error (.expression (.expects "$substrCP" .positions)) := by
  have text : textAt "name" laughing = "ha" := rfl
  have held : HoldTexts "name" [laughing] := by
    intro row listed
    obtain rfl := List.mem_singleton.mp listed
    rfl
  refine ⟨rfl, held.endsWith_shorter (fun _ => []) 0 "alpha" "found" (by decide) ?_
    ⟨laughing, List.mem_singleton.mpr rfl, by rw [text]; decide⟩⟩
  intro row listed
  rw [List.mem_singleton.mp listed, text]
  decide

end Compute

end DocumentQuery
