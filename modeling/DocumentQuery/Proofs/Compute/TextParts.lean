import DocumentQuery.Proofs.Binary64.Integers
import DocumentQuery.Proofs.Compute.Preservation
import DocumentQuery.Proofs.Compute.TextTests
import DocumentQuery.Proofs.Json.Sameness
import DocumentQuery.Proofs.Text.Lists

/-!
# Lengths, places and parts of texts

All functions of texts count characters: a length is a number of characters, a place is the number
of characters in front of it, and a part is taken from a place on. So the part at the place of a
needle, as long as the needle, is the needle, and the parts before and behind a place are the text.
Places and lengths that are written in a formula pass through binary64 numbers, which may round
them. Rounding keeps their order, and a length below `2^53` is exact, so a number that lies behind
the end of such a text still does so when it is rounded.
-/

namespace DocumentQuery

namespace Text

/-- The number of characters in front of the first occurrence of a needle, or -1. -/
def place (needle text : List Char) : Int :=
  match find? needle text with
  | some (passed, _) => passed
  | none => -1

/-- Whether a needle occurs in a text at a place and nowhere before it, or not at all if the place
is -1. -/
def IsFirstPlace (needle text : List Char) (place : Int) : Prop :=
  (place = -1 ∧ ¬ needle <:+: text) ∨
  ∃ passed : Nat, place = passed ∧ needle <+: text.drop passed ∧
    ∀ earlier < passed, ¬ needle <+: text.drop earlier

/-- A needle that is found occurs there and nowhere before. The search looks at the text from each
place on in turn, and has looked in vain at those that it has passed. -/
theorem find_some (needle text after : List Char) (passed : Nat)
    (found : find? needle text = some (passed, after)) :
    needle <+: text.drop passed ∧ ∀ earlier < passed, ¬ needle <+: text.drop earlier := by
  induction text generalizing passed with
  | nil =>
    simp only [find?, List.isEmpty_iff] at found
    split at found
    · next empty =>
      cases found
      exact ⟨empty ▸ List.nil_prefix, fun earlier less => absurd less (Nat.not_lt_zero _)⟩
    · cases found
  | cons char text inductionHypothesis =>
    simp only [find?] at found
    split at found
    · next rest stem =>
      cases found
      refine ⟨?_, fun earlier less => absurd less (Nat.not_lt_zero _)⟩
      exact ⟨_, ((dropStem_iff needle _ _).mp stem).symm⟩
    · next noStem =>
      obtain ⟨⟨others, rest⟩, later, same⟩ := Option.map_eq_some_iff.mp found
      cases same
      obtain ⟨occurs, first⟩ := inductionHypothesis others later
      refine ⟨occurs, fun earlier less => ?_⟩
      cases earlier with
      | zero =>
        rintro ⟨rest, whole⟩
        rw [List.drop_zero] at whole
        cases noStem.symm.trans ((dropStem_iff needle _ rest).mpr whole.symm)
      | succ earlier => exact first earlier (Nat.lt_of_succ_lt_succ less)

/-- A needle that is not found does not occur. It would occur from some place on, and the search has
looked at all of them. -/
theorem find_none (needle text : List Char) (missing : find? needle text = none) :
    ¬ needle <:+: text := by
  induction text with
  | nil =>
    rintro occurs
    obtain rfl := List.infix_nil.mp occurs
    cases missing
  | cons char text inductionHypothesis =>
    simp only [find?] at missing
    split at missing
    · cases missing
    · next noStem =>
      intro occurs
      rcases List.infix_cons_iff.mp occurs with ⟨rest, whole⟩ | later
      · cases noStem.symm.trans ((dropStem_iff needle _ rest).mpr whole.symm)
      · exact inductionHypothesis (Option.map_eq_none_iff.mp missing) later

/-- The place of a needle is where it first occurs. -/
theorem place_first (needle text : List Char) :
    IsFirstPlace needle text (place needle text) := by
  unfold place
  cases found : find? needle text with
  | none => exact .inl ⟨rfl, find_none needle text found⟩
  | some hit =>
    obtain ⟨occurs, first⟩ := find_some needle text hit.2 hit.1 found
    exact .inr ⟨hit.1, rfl, occurs, first⟩

/-- A needle that occurs has a place. -/
theorem place_of_infix (needle text : List Char) (occurs : needle <:+: text) :
    ∃ start : Nat, place needle text = start := by
  rcases place_first needle text with ⟨-, missing⟩ | ⟨start, same, -⟩
  · exact absurd occurs missing
  · exact ⟨start, same⟩

/-- The part of a text at the place of a needle is the needle if it is as long. -/
theorem part_at_place (needle text : List Char) (start : Nat)
    (found : place needle text = start) : (text.drop start).take needle.length = needle := by
  rcases place_first needle text with ⟨missing, -⟩ | ⟨passed, same, occurs, -⟩
  · rw [found] at missing
    cases missing
  · obtain rfl : start = passed := by
      rw [found] at same
      exact_mod_cast same
    exact (List.prefix_iff_eq_take.mp occurs).symm

end Text

namespace Compute

open Expression (evaluate evaluateItems)
open Binary64 (rounded)

/-- What is lowered without stages of its own. -/
def flat (next : Nat) (expression : Json) : Lowered Json := ⟨expression, [], [], next⟩

/-- A clause whose formula is lowered to one expression sets its name to the value of that. -/
theorem Clause.onRow_flat (next : Nat) (clause : Clause) (row value expression : Json)
    (lowered : lower next clause.formula = flat next expression)
    (read : evaluate row expression = .ok value) :
    onRow (clause.stages next).1 row = .ok (row.setAt clause.name value) := by
  rw [Clause.onRow_stages, lowered]
  simp [flat, onRow, read]

/-- The stages of a clause that has an answer on each row answer the rows in turn. -/
theorem Clause.run_answers (source : Pipeline.Source) (next : Nat) (clause : Clause)
    (rows : List Json) (answer : Json → Json)
    (each : ∀ row ∈ rows, onRow (clause.stages next).1 row = .ok (answer row)) :
    Pipeline.run source (clause.stages next).1 rows = .ok (rows.map answer) := by
  rw [Pipeline.run_ok_iff source _ rows _
    fun stage inside => (clause.stages_setsOne next stage inside).worksOnRows,
    List.forall₂_map_right_iff, List.forall₂_same]
  exact each

section Parts

variable (field : String) (start count : Nat)

/-- The length of the text in a field. -/
def lengthOf : Formula := .call .length [.field field]

/-- The place of a needle in the text in a field. -/
def placeIn (needle : String) : Formula :=
  .call .indexOf [.field field, .literal (.string needle)]

/-- The part of the text in a field from a place on, of at most some characters. -/
def partOf : Formula :=
  .call .substring [.field field, .literal (.ofNat start), .literal (.ofNat count)]

/-- The text in a field from a place on. -/
def restOf : Formula := .call .substring [.field field, .literal (.ofNat start)]

/-- The parts of the text in a field before and behind a place, one after the other. -/
def joinedParts : Formula := .call .concat [partOf field 0 start, restOf field start]

variable {field} {row : Json} {text : String}

/-- The reference to a field reads the text in it. -/
theorem evaluate_text (found : row.valueAt? field = some (.string text)) :
    evaluate row (fieldReference field) = .ok (.string text) := by
  rw [evaluate_reference, found, Option.getD_some]

/-- The number of characters of the text in a field. -/
theorem evaluate_lengthOf (found : row.valueAt? field = some (.string text)) :
    evaluate row (applied "$strLenCP" (fieldReference field)) = .ok (.ofNat text.length) := by
  rw [evaluate_length row _ (by simp [fieldReference]), evaluate_text found]
  rfl

/-- The place of a needle in the text in a field. -/
theorem evaluate_placeIn (needle : String) (found : row.valueAt? field = some (.string text)) :
    evaluate row (applied "$indexOfCP"
      (.array [fieldReference field, literalExpression (.string needle)])) =
        .ok (.ofInt (Text.place needle.toList text.toList)) := by
  have literal := evaluate_literal row (.string needle) (.inl ⟨needle, rfl⟩)
  rw [evaluate_positional row "$indexOfCP" _ Expression.indexOf (by decide) rfl]
  simp only [evaluateItems, evaluate_text found, literal, ok_bind, pure_eq_ok, Expression.indexOf,
    Text.place]
  cases Text.find? needle.toList text.toList <;> rfl

/-- A part of the text in a field is taken from a rounded place on, as long as a rounded length. -/
theorem evaluate_part (length : Json) (found : row.valueAt? field = some (.string text))
    (read : evaluate row length = .ok (.ofNat count)) :
    evaluate row (substring (fieldReference field) (.ofNat start) length) =
      .ok (.string (String.ofList ((text.toList.drop (rounded start)).take (rounded count)))) := by
  have begins : evaluate row (.ofNat start) = .ok (.ofNat start) := rfl
  have operands : evaluateItems row [fieldReference field, .ofNat start, length] =
      .ok [.string text, .ofNat start, .ofNat count] := by
    simp only [evaluateItems, evaluate_text found, begins, read, ok_bind, pure_eq_ok]
  rw [evaluate_substring, operands, ok_bind]
  exact Expression.substring_found text _ _ _ _
    (Expression.position_natural "$substrCP" start) (Expression.position_natural "$substrCP" count)

/-- A part of a text below `2^53` characters is taken from the place that is written, as long as
the length that is written. -/
theorem evaluate_partOf (found : row.valueAt? field = some (.string text))
    (small : text.length < 2 ^ 53) :
    evaluate row (substring (fieldReference field) (.ofNat start) (.ofNat count)) =
      .ok (.string (String.ofList ((text.toList.drop start).take count))) := by
  have bound : text.toList.length < 2 ^ 53 := String.length_toList ▸ small
  have behind : (text.toList.drop start).length < 2 ^ 53 :=
    Nat.lt_of_le_of_lt (List.drop_sublist start text.toList).length_le bound
  rw [evaluate_part start count (.ofNat count) found rfl, Binary64.drop_rounded _ start bound,
    Binary64.take_rounded _ count behind]

/-- A text below `2^53` characters is taken from the place that is written to its end. -/
theorem evaluate_restOf (found : row.valueAt? field = some (.string text))
    (small : text.length < 2 ^ 53) :
    evaluate row (substring (fieldReference field) (.ofNat start)
      (applied "$strLenCP" (fieldReference field))) =
        .ok (.string (String.ofList (text.toList.drop start))) := by
  have bound : text.toList.length < 2 ^ 53 := String.length_toList ▸ small
  have all : (text.toList.drop start).length ≤ text.length :=
    String.length_toList ▸ (List.drop_sublist start text.toList).length_le
  rw [evaluate_part start text.length _ found (evaluate_lengthOf found),
    Binary64.drop_rounded _ start bound, Binary64.rounded_exact text.length small,
    List.take_of_length_le all]

end Parts

section Joined

variable {field name text : String} {row : Members Json} (next start : Nat)

/-- A call that is lowered to one expression simulates a value as an operand if the expression reads
as that wherever the field has its text. -/
theorem simulates_operand (live : Members Json) (function : Function) (operands : List Formula)
    (expression value : Json)
    (lowered : lower next (.call function operands) = flat next expression)
    (running : Live next row live) (own : isTemporary field = false)
    (found : (Json.object row).valueAt? field = some (.string text))
    (reads : ∀ whole : Json, whole.valueAt? field = some (.string text) →
      evaluate whole expression = .ok value) :
    Simulates row live (lowerOperand next (.call function operands)) evaluate (.ok value) := by
  refine Simulates.stored running (lower_fresh next _) ?_
  rw [lowered]
  refine simulates_none expression next evaluate value running fun behind temporary => reads _ ?_
  rw [valueAt_behind row behind field own temporary, found]

/-- A call in front of other operands simulates its value in front of theirs. -/
theorem simulates_cons (live : Members Json) (function : Function)
    (operands others : List Formula) (value : Json) (values : List Json)
    (running : Live next row live)
    (head : Simulates row live (lowerOperand next (.call function operands)) evaluate (.ok value))
    (rest : ∀ made, Live (lowerOperand next (.call function operands)).next row (live ++ made) →
      Simulates row (live ++ made)
        (lowerOperands (lowerOperand next (.call function operands)).next others)
        evaluateItems (.ok values)) :
    Simulates row live (lowerOperands next (.call function operands :: others)) evaluateItems
      (.ok (value :: values)) := by
  have fresh := (lower_fresh next (.call function operands)).operand
  have behind (made : Members Json)
      (names : Members.names made = (lowerOperand next (.call function operands)).temporaries) :=
    rest made (running.grow (names ▸ fresh.numbered) fresh.rising)
  exact Simulates.cons (lowerOperands_fresh _ others)
    (fun whole => ⟨_, evaluate_reference whole _⟩) head behind

/-- The two parts of a text are joined to the text again. The field still holds the whole text when
the second part is taken, since the first one stands in a temporary field behind the members of the
row. -/
theorem simulates_joinedParts (clean : Clean row) (own : isTemporary field = false)
    (found : (Json.object row).valueAt? field = some (.string text))
    (small : text.length < 2 ^ 53) :
    Simulates row [] (lower next (joinedParts field start)) evaluate (.ok (.string text)) := by
  have running : Live next row [] := ⟨clean, by simp [Numbered, Members.names]⟩
  have operands := simulates_cons next [] .substring _ [restOf field start] _ _ running
    (simulates_operand next [] .substring
      [.field field, .literal (.ofNat 0), .literal (.ofNat start)] _ _ rfl running own found
      fun whole there => evaluate_partOf 0 start there small)
    fun made live => simulates_cons _ _ .substring _ [] _ _ live
      (simulates_operand _ _ .substring [.field field, .literal (.ofNat start)] _ _ rfl live own
        found fun whole there => evaluate_restOf start there small)
      fun added last => simulates_none _ _ evaluateItems [] last fun _ _ => rfl
  have joined := operands.call .concat fun behind =>
    evaluate_positional behind "$concat" _ Expression.concat (by decide) rfl
  have whole : Function.concat.apply
      [.string (String.ofList ((text.toList.drop 0).take start)),
        .string (String.ofList (text.toList.drop start))] = .ok (.string text) := by
    simp [Function.apply, Expression.concat, Expression.concat.go]
  rw [← whole]
  exact joined

end Joined

section Runs

variable (source : Pipeline.Source) (next : Nat) (field name : String) (rows : List Json)

/-- Whether the stages of a formula set a name on each row to an answer for the text in a field. -/
def Answers (formula : Formula) (answer : String → Json) : Prop :=
  Pipeline.run source ((Clause.mk formula name).stages next).1 rows =
    .ok (rows.map fun row => row.setAt name (answer (textAt field row)))

variable {field rows}

/-- A formula that is lowered to one expression has the answers that the expression has. -/
theorem answers_flat (formula : Formula) (expression : Json) (answer : String → Json)
    (held : HoldTexts field rows) (lowered : lower next formula = flat next expression)
    (each : ∀ row ∈ rows, row.valueAt? field = some (.string (textAt field row)) →
      evaluate row expression = .ok (answer (textAt field row))) :
    Answers source next field name rows formula answer :=
  Clause.run_answers source next _ rows _ fun row listed =>
    Clause.onRow_flat next _ row _ expression lowered (each row listed (held row listed))

/-- Whatever texts the rows hold, the two parts of each are joined to the text. -/
theorem answers_joinedParts (start : Nat) (held : HoldTexts field rows)
    (small : ∀ row ∈ rows, (textAt field row).length < 2 ^ 53)
    (clean : ∀ row ∈ rows, ∃ members, row = .object members ∧ Clean members)
    (plain : '.' ∉ name.toList) (ownName : isTemporary name = false)
    (ownField : isTemporary field = false) :
    Answers source next field name rows (joinedParts field start) Json.string := by
  refine Clause.run_answers source next _ rows _ fun row listed => ?_
  obtain ⟨members, rfl, none⟩ := clean row listed
  have simulates := simulates_joinedParts next start none ownField (held _ listed) (small _ listed)
  rw [Clause.onRow_simulated next _ members _ plain ownName none simulates,
    setAt_plain members name _ plain]
  rfl

/-- Whatever texts the rows hold in a field, the stages of `length` answer the number of characters
of each, those of `indexof` the least place at which the needle occurs, or -1 if it does not, and
those of `substring` the characters between two rounded places. In texts of less than `2^53`
characters, as all are that fit into memory, no place is moved by rounding: a part is what stands
between the places that are written, or all that stands behind one; the part at the place of a
needle, as long as the needle, is the needle; and the parts before and behind a place are joined to
the text.

Proof: each function is a single operator on the field, so `answers_flat` brings its stages down to
what the operator does with a text. Only the joined parts need stages of their own; for them the
first part is kept in a temporary field while the second one is taken. Places below `2^53` are exact
as binary64 numbers. -/
theorem text_functions_consistent (held : HoldTexts field rows) :
    Answers source next field name rows (lengthOf field) (fun text => .ofNat text.length) ∧
    (∀ needle : String,
      Answers source next field name rows (placeIn field needle)
        (fun text => .ofInt (Text.place needle.toList text.toList)) ∧
      ∀ text, Text.IsFirstPlace needle.toList text (Text.place needle.toList text)) ∧
    (∀ start count, Answers source next field name rows (partOf field start count) fun text =>
      .string (String.ofList ((text.toList.drop (rounded start)).take (rounded count)))) ∧
    ((∀ row ∈ rows, (textAt field row).length < 2 ^ 53) →
      (∀ start count, Answers source next field name rows (partOf field start count) fun text =>
        .string (String.ofList ((text.toList.drop start).take count))) ∧
      (∀ start, Answers source next field name rows (restOf field start) fun text =>
        .string (String.ofList (text.toList.drop start))) ∧
      (∀ row ∈ rows, ∀ needle : String, needle.toList <:+: (textAt field row).toList →
        ∃ start : Nat, Text.place needle.toList (textAt field row).toList = start ∧
          Answers source next field name [row] (partOf field start needle.length)
            fun _ => .string needle) ∧
      ((∀ row ∈ rows, ∃ members, row = .object members ∧ Clean members) → '.' ∉ name.toList →
        isTemporary name = false → isTemporary field = false →
        ∀ start, Answers source next field name rows (joinedParts field start) Json.string)) := by
  refine ⟨?_, fun needle => ⟨?_, Text.place_first needle.toList⟩, fun start count => ?_,
    fun small => ⟨fun start count => ?_, fun start => ?_, fun row listed needle occurs => ?_,
      fun clean plain ownName ownField start => ?_⟩⟩
  · exact answers_flat source next name _ _ _ held rfl fun row _ found => evaluate_lengthOf found
  · exact answers_flat source next name _ _ _ held rfl fun row _ found =>
      evaluate_placeIn needle found
  · exact answers_flat source next name _ _ _ held rfl fun row _ found =>
      evaluate_part start count (.ofNat count) found rfl
  · exact answers_flat source next name _ _ _ held rfl fun row listed found =>
      evaluate_partOf start count found (small row listed)
  · exact answers_flat source next name _ _ _ held rfl fun row listed found =>
      evaluate_restOf start found (small row listed)
  · obtain ⟨start, same⟩ := Text.place_of_infix _ _ occurs
    refine ⟨start, same, ?_⟩
    have alone : HoldTexts field [row] := List.forall_mem_singleton.mpr (held row listed)
    refine answers_flat source next name _ _ _ alone rfl fun other only found => ?_
    obtain rfl := List.mem_singleton.mp only
    have part : ((textAt field other).toList.drop start).take needle.length = needle.toList := by
      rw [← String.length_toList]
      exact Text.part_at_place _ _ start same
    have taken := evaluate_partOf start needle.length found (small other listed)
    rw [part, String.ofList_toList] at taken
    exact taken
  · exact answers_joinedParts source next name start held small clean plain ownName ownField

end Runs

/-- A row with letters beyond ASCII and beyond the first plane. -/
def accented : Members Json := [("name", .string "año😀ño")]

/-- Places and lengths count the characters of the text, also of those that take several bytes. -/
theorem accented_parts :
    HoldTexts "name" [.object accented] ∧
    Answers (fun _ => []) 0 "name" "out" [.object accented] (lengthOf "name")
      (fun _ => .ofNat 6) ∧
    Answers (fun _ => []) 0 "name" "out" [.object accented] (placeIn "name" "ño")
      (fun _ => .ofNat 1) ∧
    Answers (fun _ => []) 0 "name" "out" [.object accented] (placeIn "name" "oñ")
      (fun _ => .ofInt (-1)) ∧
    Answers (fun _ => []) 0 "name" "out" [.object accented] (partOf "name" 3 2)
      (fun _ => .string "😀ñ") ∧
    Answers (fun _ => []) 0 "name" "out" [.object accented] (restOf "name" (2 ^ 60))
      (fun _ => .string "") ∧
    Answers (fun _ => []) 0 "name" "out" [.object accented] (joinedParts "name" 4)
      (fun _ => .string "año😀ño") := by
  have held : HoldTexts "name" [.object accented] := List.forall_mem_singleton.mpr rfl
  have small : ∀ row ∈ [Json.object accented], (textAt "name" row).length < 2 ^ 53 :=
    List.forall_mem_singleton.mpr (by decide)
  have clean : ∀ row ∈ [Json.object accented], ∃ members, row = .object members ∧ Clean members :=
    List.forall_mem_singleton.mpr ⟨accented, rfl, by simp only [Clean]; decide⟩
  obtain ⟨length, place, -, exact⟩ := text_functions_consistent (fun _ => []) 0 "out" held
  obtain ⟨part, rest, -, joined⟩ := exact small
  exact ⟨held, length.trans (congrArg Except.ok (by decide +kernel)),
    (place "ño").1.trans (congrArg Except.ok (by decide +kernel)),
    (place "oñ").1.trans (congrArg Except.ok (by decide +kernel)),
    (part 3 2).trans (congrArg Except.ok (by decide +kernel)),
    (rest (2 ^ 60)).trans (congrArg Except.ok (by decide +kernel)),
    (joined clean (by decide) (by decide) (by decide) 4).trans
      (congrArg Except.ok (by decide +kernel))⟩

end Compute

end DocumentQuery
