import DocumentQuery.Filter.Reader

/-!
# The policy on filters

What is done with a filter before it reaches a collection: its length is bounded, the
operators of its predicate may be restricted, fields are renamed to their storage names, and a
last change of the predicate may be installed. Predicates that are not written as text pass
untouched.
-/

namespace DocumentQuery.Filter

/-- Why a filter text is refused. -/
inductive Refusal where
  | tooLong (length maximum : Nat)
  | malformed (fault : Fault)
  | operatorNotAllowed (name : String)
  deriving DecidableEq, Repr

/-- The wording of a refusal. -/
def Refusal.message (refusal : Refusal) : String :=
  "Invalid $filter: " ++ match refusal with
    | .tooLong length maximum =>
      "length " ++ Nat.repr length ++ " exceeds maximum " ++ Nat.repr maximum
    | .malformed fault => fault.message
    | .operatorNotAllowed name => "operator " ++ name ++ " not allowed"

/-- A filter as it is handed in: a text, or a predicate made elsewhere. -/
inductive Source where
  | text (text : String)
  | predicate (predicate : Json)
  deriving Inhabited

/-- What a filter may hold and how it is changed before it is handed on. Without any of the parts
everything is allowed and nothing changed. -/
structure Policy where
  /-- The operators that may occur; all may where there is no list. -/
  allowed : Option (List String) := none
  /-- The greatest number of octets of a text. -/
  maximumLength : Option Nat := none
  /-- The storage names of renamed fields. -/
  renamed : Members String := []
  /-- The change made last. -/
  transform : Option (Json → Json) := none

mutual

/-- The first operator, at any depth, that is not allowed. -/
def firstDisallowed? (allowed : List String) : Json → Option String
  | .object members => firstDisallowedMember? allowed members
  | .array items => firstDisallowedItem? allowed items
  | _ => none
termination_by structural value => value

/-- The first operator within members that is not allowed. -/
def firstDisallowedMember? (allowed : List String) : List (String × Json) → Option String
  | [] => none
  | (name, value) :: members =>
    if Predicate.isOperator name && !allowed.contains name then some name
    else firstDisallowed? allowed value <|> firstDisallowedMember? allowed members
termination_by structural members => members

/-- The first operator within items that is not allowed. -/
def firstDisallowedItem? (allowed : List String) : List Json → Option String
  | [] => none
  | item :: items => firstDisallowed? allowed item <|> firstDisallowedItem? allowed items
termination_by structural items => items

end

mutual

/-- The predicate with its fields renamed at every depth. Operators keep their names. -/
def renameFields (renamed : Members String) : Json → Json
  | .object members => .object (Members.ofList (renameMembers renamed members))
  | .array items => .array (renameItems renamed items)
  | value => value
termination_by structural value => value

/-- Members with their fields renamed. -/
def renameMembers (renamed : Members String) : List (String × Json) → List (String × Json)
  | [] => []
  | (name, value) :: members =>
    let stored := if Predicate.isOperator name then name else (renamed.get? name).getD name
    (stored, renameFields renamed value) :: renameMembers renamed members
termination_by structural members => members

/-- Items with their fields renamed. -/
def renameItems (renamed : Members String) : List Json → List Json
  | [] => []
  | item :: items => renameFields renamed item :: renameItems renamed items
termination_by structural items => items

end

/-- The predicate of a filter text under a policy. The length is checked before the text is read,
the operators are checked as they were written, and only then are fields renamed and the change
made. -/
def Policy.compileText (policy : Policy) (text : String) : Except Refusal Json := do
  if let some maximum := policy.maximumLength then
    if maximum < text.utf8ByteSize then throw (.tooLong text.utf8ByteSize maximum)
  let predicate ← match Condition.ofText text with
    | .ok condition => pure condition.predicate
    | .error fault => throw (.malformed fault)
  if let some allowed := policy.allowed then
    if let some name := firstDisallowed? allowed predicate then throw (.operatorNotAllowed name)
  let stored := if policy.renamed.isEmpty then predicate else renameFields policy.renamed predicate
  return match policy.transform with
    | some transform => transform stored
    | none => stored

/-- The predicate of a filter under a policy. No filter and a blank text let every row pass. -/
def Policy.compile (policy : Policy) : Option Source → Except Refusal Json
  | none => .ok Predicate.always
  | some (.predicate predicate) => .ok predicate
  | some (.text text) =>
    if text.toList.all Text.isBlank then .ok Predicate.always else policy.compileText text

end DocumentQuery.Filter
