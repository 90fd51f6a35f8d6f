import DocumentQuery.Proofs.Filter.Misnaming
import DocumentQuery.Proofs.Json.Distinct
import DocumentQuery.Proofs.Json.Sameness

/-!
# What a policy guarantees

A filter text is accepted exactly if it is no longer than allowed and all operators in its
predicate, at any depth, are allowed. Renaming fields adds no operator, so none is in what is handed
on that is not allowed. And renaming changes nothing but where fields are read: what is handed on is
decided on every document, or has a fault there, as the predicate of the text when each field of it
is read under its storage name.
-/

namespace DocumentQuery

/-- Whether an object in a value, at any depth, has a member of a name. -/
inductive Json.HasName (name : String) : Json → Prop where
  | own {members : Members Json} {value : Json} (listed : (name, value) ∈ members) :
      HasName name (.object members)
  | member {members : Members Json} {other : String} {value : Json}
      (listed : (other, value) ∈ members) (inside : HasName name value) :
      HasName name (.object members)
  | item {items : List Json} {value : Json} (listed : value ∈ items)
      (inside : HasName name value) : HasName name (.array items)

namespace Filter

open Predicate

section Operators

variable (allowed : List String)

mutual

/-- The first operator that is not allowed is one of those in a value. It is the name of a
member, or it is found within a member or within an item; the three proofs follow the nesting of
the value. -/
theorem firstDisallowed_found (value : Json) (name : String)
    (found : firstDisallowed? allowed value = some name) :
    isOperator name = true ∧ name ∉ allowed ∧ value.HasName name := by
  cases value with
  | object members =>
    obtain ⟨operator, unlisted, member, listed, named⟩ :=
      firstDisallowedMember_found members name found
    rcases named with rfl | inside
    · exact ⟨operator, unlisted, .own listed⟩
    · exact ⟨operator, unlisted, .member listed inside⟩
  | array items =>
    obtain ⟨operator, unlisted, item, listed, inside⟩ := firstDisallowedItem_found items name found
    exact ⟨operator, unlisted, .item listed inside⟩
  | _ => exact absurd found nofun
termination_by structural value

/-- The first operator that is not allowed within some members is the name of one of them or in what
is under it. -/
theorem firstDisallowedMember_found (members : List (String × Json)) (name : String)
    (found : firstDisallowedMember? allowed members = some name) :
    isOperator name = true ∧ name ∉ allowed ∧
      ∃ member ∈ members, member.1 = name ∨ member.2.HasName name := by
  match members with
  | [] => exact absurd found nofun
  | (own, value) :: members =>
    rw [firstDisallowedMember?] at found
    split at found
    · next refused =>
      obtain rfl := Option.some.inj found
      obtain ⟨operator, unlisted⟩ := Bool.and_eq_true_iff.mp refused
      exact ⟨operator, by simpa using unlisted, _, List.mem_cons_self, .inl rfl⟩
    · cases inside : firstDisallowed? allowed value with
      | some other =>
        obtain rfl : other = name := by simpa [inside] using found
        obtain ⟨operator, unlisted, has⟩ := firstDisallowed_found value other inside
        exact ⟨operator, unlisted, _, List.mem_cons_self, .inr has⟩
      | none =>
        have later : firstDisallowedMember? allowed members = some name := by
          simpa [inside] using found
        obtain ⟨operator, unlisted, member, listed, has⟩ :=
          firstDisallowedMember_found members name later
        exact ⟨operator, unlisted, member, List.mem_cons_of_mem _ listed, has⟩
termination_by structural members

/-- The first operator that is not allowed within some items is in one of them: in the first item,
or in one of the others if nothing was found in the first. -/
theorem firstDisallowedItem_found (items : List Json) (name : String)
    (found : firstDisallowedItem? allowed items = some name) :
    isOperator name = true ∧ name ∉ allowed ∧ ∃ item ∈ items, item.HasName name := by
  match items with
  | [] => exact absurd found nofun
  | value :: items =>
    rw [firstDisallowedItem?] at found
    cases inside : firstDisallowed? allowed value with
    | some other =>
      obtain rfl : other = name := by simpa [inside] using found
      obtain ⟨operator, unlisted, has⟩ := firstDisallowed_found value other inside
      exact ⟨operator, unlisted, value, List.mem_cons_self, has⟩
    | none =>
      have later : firstDisallowedItem? allowed items = some name := by
        simpa [inside] using found
      obtain ⟨operator, unlisted, item, listed, has⟩ := firstDisallowedItem_found items name later
      exact ⟨operator, unlisted, item, List.mem_cons_of_mem _ listed, has⟩
termination_by structural items

end

/-- Members are passed if their names are and what is under them. As long as nothing is found the
search goes on to the end, so all of the members have been looked at. -/
theorem firstDisallowedMember_none (members : List (String × Json))
    (passed : firstDisallowedMember? allowed members = none) (name : String) (value : Json)
    (listed : (name, value) ∈ members) :
    (isOperator name = true → name ∈ allowed) ∧ firstDisallowed? allowed value = none := by
  induction members with
  | nil => exact absurd listed List.not_mem_nil
  | cons first members inductionHypothesis =>
    obtain ⟨own, inner⟩ := first
    rw [firstDisallowedMember?] at passed
    split at passed
    · exact absurd passed nofun
    · next unrefused =>
      obtain ⟨here, later⟩ : firstDisallowed? allowed inner = none ∧
          firstDisallowedMember? allowed members = none := by
        simpa using passed
      rcases List.mem_cons.mp listed with same | behind
      · obtain ⟨rfl, rfl⟩ := Prod.mk.inj same
        exact ⟨by simpa using unrefused, here⟩
      · exact inductionHypothesis later behind

/-- Items are passed if each of them is. -/
theorem firstDisallowedItem_none (items : List Json)
    (passed : firstDisallowedItem? allowed items = none) (value : Json) (listed : value ∈ items) :
    firstDisallowed? allowed value = none := by
  induction items with
  | nil => exact absurd listed List.not_mem_nil
  | cons first items inductionHypothesis =>
    obtain ⟨here, later⟩ : firstDisallowed? allowed first = none ∧
        firstDisallowedItem? allowed items = none := by
      simpa [firstDisallowedItem?] using passed
    rcases List.mem_cons.mp listed with rfl | behind
    · exact here
    · exact inductionHypothesis later behind

/-- A value is passed exactly if every operator in it, at any depth, is allowed. What is found
is an operator that is not allowed, and where nothing is found, all members and items are passed
as well. -/
theorem firstDisallowed_none_iff (value : Json) :
    firstDisallowed? allowed value = none ↔
      ∀ name, isOperator name = true → value.HasName name → name ∈ allowed := by
  constructor
  · intro passed name operator has
    induction has with
    | own listed => exact (firstDisallowedMember_none allowed _ passed _ _ listed).1 operator
    | member listed _ inductionHypothesis =>
      exact inductionHypothesis (firstDisallowedMember_none allowed _ passed _ _ listed).2
    | item listed _ inductionHypothesis =>
      exact inductionHypothesis (firstDisallowedItem_none allowed _ passed _ listed)
  · intro every
    cases found : firstDisallowed? allowed value with
    | none => rfl
    | some name =>
      obtain ⟨operator, unlisted, has⟩ := firstDisallowed_found allowed value name found
      exact absurd (every name operator has) unlisted

end Operators

section Renaming

variable (renamed : Members String)
variable (targets : ∀ entry ∈ renamed, isOperator entry.2 = false)

/-- Renaming goes through the members one by one. -/
theorem renameMembers_eq (members : List (String × Json)) :
    renameMembers renamed members =
      members.map fun member => (storedName renamed member.1, renameFields renamed member.2) := by
  induction members with
  | nil => rfl
  | cons member members inductionHypothesis =>
    rw [renameMembers, inductionHypothesis]
    rfl

/-- Renaming goes through the items one by one. -/
theorem renameItems_eq (items : List Json) :
    renameItems renamed items = items.map (renameFields renamed) := by
  induction items with
  | nil => rfl
  | cons item items inductionHypothesis => rw [renameItems, inductionHypothesis, List.map_cons]

include targets

/-- A field is not given the name of an operator. -/
theorem storedName_field (name : String) (field : isOperator name = false) :
    isOperator (storedName renamed name) = false := by
  rw [storedName, if_neg (by simp [field])]
  cases found : renamed.get? name with
  | none => exact field
  | some target => exact targets _ (Members.mem_of_get name target renamed found)

/-- A name that is an operator's in storage was so before. -/
theorem storedName_operator (name : String)
    (operator : isOperator (storedName renamed name) = true) : storedName renamed name = name := by
  cases own : isOperator name with
  | true => rw [storedName, if_pos own]
  | false =>
    exact absurd ((storedName_field renamed targets name own).symm.trans operator) (by decide)

/-- Renaming fields adds no operator: a member of the renamed object comes from one under the name
that it had before, and no field is given the name of an operator. -/
theorem hasName_renamed (name : String) (operator : isOperator name = true) (stored : Json)
    (has : stored.HasName name) (value : Json) (same : stored = renameFields renamed value) :
    value.HasName name := by
  have source (members : Members Json) (entry : String × Json)
      (listed : entry ∈ Members.ofList (renameMembers renamed members)) :
      ∃ member ∈ members, storedName renamed member.1 = entry.1 ∧
        renameFields renamed member.2 = entry.2 := by
    have entries := Members.mem_ofList _ _ listed
    rw [renameMembers_eq] at entries
    obtain ⟨member, inside, rfl⟩ := List.mem_map.mp entries
    exact ⟨member, inside, rfl, rfl⟩
  induction has generalizing value with
  | own listed =>
    cases value with
    | object members =>
      obtain rfl := Json.object.inj same
      obtain ⟨⟨own, inner⟩, inside, named, -⟩ := source members _ listed
      have kept := storedName_operator renamed targets own (named ▸ operator)
      exact .own (named ▸ kept ▸ inside)
    | _ => exact absurd same nofun
  | member listed _ inductionHypothesis =>
    cases value with
    | object members =>
      obtain rfl := Json.object.inj same
      obtain ⟨⟨own, inner⟩, inside, -, renamedInner⟩ := source members _ listed
      exact .member inside (inductionHypothesis inner renamedInner.symm)
    | _ => exact absurd same nofun
  | item listed _ inductionHypothesis =>
    cases value with
    | array items =>
      obtain rfl := Json.array.inj same
      rw [renameItems_eq] at listed
      obtain ⟨inner, inside, renamedInner⟩ := List.mem_map.mp listed
      exact .item inside (inductionHypothesis inner renamedInner.symm)
    | _ => exact absurd same nofun

end Renaming

section Reading

/-- Only an array has terms, however fields are read. -/
theorem decideTermsWith_single (read : String → Option Json) (condition : Json)
    (single : ∀ terms, condition ≠ .array terms) :
    decideTermsWith read condition = .error .termsNotAnArray := by
  cases condition with
  | array terms => exact absurd rfl (single terms)
  | _ => rfl

variable (read other : String → Option Json)

/-- What a clause under the name of an operator decides depends on the answers of its terms only. -/
theorem holdsWith_operator (name : String) (condition same : Json)
    (operator : isOperator name = true)
    (terms : decideTermsWith read condition = decideTermsWith other same) :
    holdsWith read (clause name condition) = holdsWith other (clause name same) := by
  simp only [holdsWith, clause, holdsAllWith, terms]
  split
  · rfl
  · rfl
  · rfl
  · simp only [operator, if_true]

/-- Whether fields are read in one way as they are under their stored names in another, where the
names of operators are kept and given to no field. -/
structure ReadsStored (stored : String → String) : Prop where
  kept : ∀ name, isOperator name = true → stored name = name
  fields : ∀ name, isOperator name = false → isOperator (stored name) = false
  reads : ∀ name, isOperator name = false → other name = read (stored name)

variable {read other} {stored : String → String}

/-- A test of a renamed field is decided as the test when the field is read under its new name. One
that is named like an operator has the same fault. -/
theorem ReadsStored.test (storing : ReadsStored read other stored) (path : String)
    (condition : Json) (single : ∀ terms, condition ≠ .array terms) :
    holdsWith read (clause (stored path) condition) = holdsWith other (clause path condition) := by
  cases own : isOperator path with
  | false =>
    rw [holdsWith_field read _ condition (storing.fields path own),
      holdsWith_field other _ condition own, storing.reads path own]
  | true =>
    rw [storing.kept path own]
    refine holdsWith_operator read other path condition condition own ?_
    rw [decideTermsWith_single read condition single, decideTermsWith_single other condition single]

mutual

/-- The predicate of a renamed condition is decided as that of the condition when each field is read
under its new name. -/
theorem ReadsStored.predicate (storing : ReadsStored read other stored) (condition : Condition)
    (atoms : ∀ test ∈ condition.tests, test.TakesAtoms) :
    holdsWith read (condition.rename stored).predicate = holdsWith other condition.predicate :=
  match condition with
  | .compare path relation operand => by
    have atom : operand.IsAtom := atoms _ (List.mem_singleton.mpr rfl) operand
      (List.mem_singleton.mpr rfl)
    exact storing.test path _
      (relation.condition_single operand atom)
  | .oneOf path choices =>
    storing.test path _ fun _ => Json.noConfusion
  | .holdsText path placement needle expected => by
    refine storing.test path _ fun _ => ?_
    cases expected <;> exact Json.noConfusion
  | .not inner => by
    refine holdsWith_operator read other "$nor" _ _ (by decide) ?_
    simp only [decideTermsWith, decideEachWith, storing.predicate inner atoms]
  | .all conditions =>
    holdsWith_operator read other "$and" _ _ (by decide) (storing.predicates conditions atoms)
  | .any conditions =>
    holdsWith_operator read other "$or" _ _ (by decide) (storing.predicates conditions atoms)
termination_by structural condition

/-- The predicates of renamed conditions are decided as those of the conditions. -/
theorem ReadsStored.predicates (storing : ReadsStored read other stored)
    (conditions : List Condition)
    (atoms : ∀ test ∈ Condition.testsOf conditions, test.TakesAtoms) :
    decideEachWith read (Condition.predicates (Condition.renameEach stored conditions)) =
      decideEachWith other (Condition.predicates conditions) :=
  match conditions with
  | [] => rfl
  | condition :: conditions => by
    simp only [Condition.renameEach, Condition.predicates, decideEachWith,
      storing.predicate condition fun test present => atoms test (List.mem_append_left _ present),
      storing.predicates conditions fun test present =>
        atoms test (List.mem_append_right _ present)]
termination_by structural conditions

end

end Reading

/-- Blanks are no tokens. -/
theorem tokensFrom_blank (text : List Char) (blank : text.all Text.isBlank = true)
    (position : Nat) : tokensFrom position 0 text = .ok [] := by
  induction text generalizing position with
  | nil => rfl
  | cons char text inductionHypothesis =>
    obtain ⟨first, others⟩ := Bool.and_eq_true_iff.mp blank
    simp only [tokensFrom, first, if_true]
    exact inductionHypothesis others _

/-- A text that is read as a condition is not blank, since a blank text has no tokens and a test
begins with a word. -/
theorem unblank_of_read (text : String) (condition : Condition)
    (read : Condition.ofText text = .ok condition) : text.toList.all Text.isBlank = false := by
  cases blank : text.toList.all Text.isBlank with
  | false => rfl
  | true =>
    have none : tokens text.toList = .ok [] := tokensFrom_blank text.toList blank 0
    have operand : readOperand text.utf8ByteSize maximumLevels 2 [] = _ :=
      readOperand_test text.utf8ByteSize maximumLevels 1 [] rfl (by simp)
    have missing : Condition.ofTokens text.utf8ByteSize [] =
        .error ⟨text.utf8ByteSize, .unexpectedEnd⟩ := by
      simp [Condition.ofTokens, readAny, readAll, operand, readTest, readWord]
    rw [Condition.ofText, none, ok_bind, missing] at read
    cases read

/-- Whether a policy allows every operator in a predicate, at any depth. -/
def Policy.AllowsOperators (policy : Policy) (predicate : Json) : Prop :=
  ∀ allowed, policy.allowed = some allowed →
    ∀ name, isOperator name = true → predicate.HasName name → name ∈ allowed

/-- A text that is read as a condition is admitted exactly if it is short enough and its operators
are allowed. -/
theorem Policy.admits_iff (policy : Policy) (text : String) (condition : Condition)
    (read : Condition.ofText text = .ok condition) :
    policy.Admits text condition ↔
      (∀ maximum, policy.maximumLength = some maximum → text.utf8ByteSize ≤ maximum) ∧
      policy.AllowsOperators condition.predicate := by
  constructor
  · intro admitted
    exact ⟨admitted.length, fun allowed restricted =>
      (firstDisallowed_none_iff allowed _).mp (admitted.operators allowed restricted)⟩
  · rintro ⟨short, allows⟩
    exact ⟨short, read, fun allowed restricted =>
      (firstDisallowed_none_iff allowed _).mpr (allows allowed restricted)⟩

/-- Under a policy that gives no field the name of an operator and makes no last change, a text that
is read is accepted exactly if it is short enough and all operators in its predicate, at any depth,
are allowed. All operators in what it is compiled to are then allowed as well, and that is decided
on every document, or has a fault there, as the predicate of the text when each field of it is read
under its storage name.

Proof: the compiled predicate is the one of the condition with storage names. Renaming keeps the
shape of the predicate and adds no operator, so the operators of both are the same, and where the
one looks up a field the other looks up its storage name. The rest is by induction on the condition,
in step with its predicate. -/
theorem policy_exact (policy : Policy) (text : String) (condition : Condition)
    (unchanged : policy.transform = none)
    (targets : ∀ entry ∈ policy.renamed, isOperator entry.2 = false)
    (read : Condition.ofText text = .ok condition) :
    ((∃ compiled, policy.compile (some (.text text)) = .ok compiled) ↔
      (∀ maximum, policy.maximumLength = some maximum → text.utf8ByteSize ≤ maximum) ∧
      policy.AllowsOperators condition.predicate) ∧
    ∀ compiled, policy.compile (some (.text text)) = .ok compiled →
      policy.AllowsOperators compiled ∧
      ∀ document, holds document compiled =
        holdsWith (fun field => document.valueAt? ((policy.renamed.get? field).getD field))
          condition.predicate := by
  have atoms := atoms_of_text text condition read
  have compiles (compiled : Json) : policy.compile (some (.text text)) = .ok compiled ↔
      policy.Admits text condition ∧ compiled = policy.predicateOf condition := by
    rw [policy.compile_text text (unblank_of_read text condition read), policy.compileText_iff]
    constructor
    · rintro ⟨other, admitted, rfl⟩
      obtain rfl := Except.ok.inj (admitted.read.symm.trans read)
      exact ⟨admitted, rfl⟩
    · rintro ⟨admitted, rfl⟩
      exact ⟨condition, admitted, rfl⟩
  refine ⟨?_, ?_⟩
  · rw [← policy.admits_iff text condition read]
    simp [compiles]
  · intro compiled accepted
    obtain ⟨admitted, rfl⟩ := (compiles compiled).mp accepted
    have stored := policy.predicateOf_rename condition unchanged atoms
    refine ⟨fun allowed restricted name operator has => ?_, fun document => ?_⟩
    · have renamed := renameFields_predicate policy.renamed condition atoms
      rw [stored] at has
      exact ((policy.admits_iff text condition read).mp admitted).2 allowed restricted name operator
        (hasName_renamed policy.renamed targets name operator _ has _ renamed.symm)
    · rw [stored, holds_eq]
      refine ReadsStored.predicate ⟨fun name operator => if_pos operator,
        storedName_field policy.renamed targets, fun name field => ?_⟩ condition atoms
      exact congrArg document.valueAt? (if_neg (by simp [field])).symm

/-- The policy that stores the field `id` as `_id` and allows alternatives and lower bounds. -/
def storedId : Policy where
  allowed := some ["$or", "$gt"]
  maximumLength := some 40
  renamed := [("id", "_id")]

set_option maxRecDepth 4000 in
/-- Two comparisons of a field are read as alternatives, in a list that is in the order of
the text. -/
theorem eitherId_read : Condition.ofText "id gt 5 or id eq 1" =
    .ok (.any [.compare "id" .greater (.ofNat 5), .compare "id" .equal (.ofNat 1)]) := by
  have sequence : tokens "id gt 5 or id eq 1".toList =
      .ok [⟨.word "id", 0⟩, ⟨.word "gt", 3⟩, ⟨.literal (.ofNat 5), 6⟩, ⟨.word "or", 8⟩,
        ⟨.word "id", 11⟩, ⟨.word "eq", 14⟩, ⟨.literal (.ofNat 1), 17⟩] := rfl
  have greater : Test "id" [.word "gt", .literal (.ofNat 5)]
      (.compare (memberPath "id") .greater (.ofNat 5)) :=
    .comparison (by simp [comparisons]) (rfl : Spells "gt" "gt") (.literal _)
  have equal : Test "id" [.word "eq", .literal (.ofNat 1)]
      (.compare (memberPath "id") .equal (.ofNat 1)) :=
    .comparison (by simp [comparisons]) (rfl : Spells "eq" "eq") (.literal _)
  have named : ¬ Spells "id" "not" := by
    simp [Spells, Text.equalIgnoringCase, Text.lowerAscii]
  rw [Condition.ofText, sequence, ok_bind, ofTokens_iff]
  exact .any (.alone (.test named greater))
    (.alternative (rfl : Spells "or" "or") (.alone (.test named equal)) .noAlternative)

/-- Alternatives for a renamed field are accepted, and are decided as if `_id` were read. The
document that has the field by its public name only does not meet them. -/
theorem storedId_exact : ∃ compiled,
    storedId.compile (some (.text "id gt 5 or id eq 1")) = .ok compiled ∧
    storedId.AllowsOperators compiled ∧
    holds (.object [("_id", .ofNat 6)]) compiled = .ok true ∧
    holds (.object [("id", .ofNat 6)]) compiled = .ok false := by
  obtain ⟨accepted, decided⟩ := policy_exact storedId "id gt 5 or id eq 1" _ rfl
    (by decide) eitherId_read
  have short : ∀ maximum, storedId.maximumLength = some maximum →
      "id gt 5 or id eq 1".utf8ByteSize ≤ maximum := by
    intro maximum bounded
    obtain rfl := Option.some.inj bounded
    decide
  have allows : storedId.AllowsOperators (Condition.any [.compare "id" .greater (.ofNat 5),
      .compare "id" .equal (.ofNat 1)]).predicate := by
    intro allowed restricted
    obtain rfl := Option.some.inj restricted
    exact (firstDisallowed_none_iff _ _).mp rfl
  obtain ⟨compiled, compiles⟩ := accepted.mpr ⟨short, allows⟩
  obtain ⟨allowed, same⟩ := decided compiled compiles
  exact ⟨compiled, compiles, allowed, (same _).trans (by rfl), (same _).trans (by rfl)⟩

end Filter

end DocumentQuery
