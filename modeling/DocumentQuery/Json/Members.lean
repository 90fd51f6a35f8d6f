/-!
# Members of an object

An object's members are a list of named values whose order is kept: a new name goes to the
end, a known one keeps its place, and removing a name moves the last member into the gap. The
operations never repeat a name that is not repeated already. The values are of any type.
-/

namespace DocumentQuery

/-- Named values in a kept order. -/
abbrev Members (Value : Type) := List (String × Value)

namespace Members

variable {Value : Type}

/-- The value of the first member with a name. -/
def get? (name : String) : Members Value → Option Value
  | [] => none
  | (other, value) :: rest => if other = name then some value else get? name rest

/-- Whether some member has the name. -/
def has (name : String) (members : Members Value) : Bool := (members.get? name).isSome

/-- Gives a name its value, in its place if it has one and at the end if it is new. -/
def insert (name : String) (value : Value) : Members Value → Members Value
  | [] => [(name, value)]
  | (other, old) :: rest =>
    if other = name then (name, value) :: rest else (other, old) :: insert name value rest

/-- Removes a name; the last member takes its place. Removal is the one operation on members that
does not keep their order. -/
def erase (name : String) : Members Value → Members Value
  | [] => []
  | (other, value) :: rest =>
    if other = name then
      match rest.getLast? with
      | none => []
      | some final => final :: rest.dropLast
    else (other, value) :: erase name rest

/-- The members of a list of named values in which a later value replaces an earlier one of the same
name. -/
def ofList (entries : List (String × Value)) : Members Value :=
  entries.foldl (fun members entry => members.insert entry.1 entry.2) []

/-- The names in order. -/
def names (members : Members Value) : List String := members.map Prod.fst

end Members

end DocumentQuery
