import DocumentQuery.Json.Basic

/-!
# Drafts of JSON values

A draft is what a text writes as a value, kept as it is written: repeated names of an object
stay, and what the text gets wrong has its place. A part can be well formed and still be no
value; that matters only where the part is looked at. From the first place on at which the text
is not JSON, nothing is known, so such a place ends everything that is open there.
-/

namespace DocumentQuery.Json

/-- What a text writes as a value, as far as the text is JSON. -/
inductive Draft where
  | null
  | bool (value : Bool)
  | number (value : Number)
  | string (text : String)
  | array (items : List Draft)
  /-- An object. A name that pairs no surrogates is none. -/
  | object (members : List (Option String × Draft))
  /-- Well formed, but no value: a number too large, a string that pairs no surrogates, or an
      array or object nested too deep. -/
  | refused
  /-- The place at which the text stops being JSON. -/
  | broken
  deriving Inhabited

namespace Draft

/-- Why a draft cannot be taken for what is asked. -/
inductive Fault where
  /-- The text is not JSON, or what it writes is no value. -/
  | malformed
  /-- The text writes a value of another kind. -/
  | unfit
  deriving DecidableEq, Repr

mutual

/-- The draft of a value, which writes just this value. -/
def ofJson : Json → Draft
  | .null => .null
  | .bool value => .bool value
  | .number value => .number value
  | .string text => .string text
  | .array items => .array (ofItems items)
  | .object members => .object (ofMembers members)
termination_by structural value => value

/-- The drafts of items. -/
def ofItems : List Json → List Draft
  | [] => []
  | item :: items => ofJson item :: ofItems items
termination_by structural items => items

/-- The drafts of members. -/
def ofMembers : List (String × Json) → List (Option String × Draft)
  | [] => []
  | (name, value) :: members => (some name, ofJson value) :: ofMembers members
termination_by structural members => members

end

mutual

/-- Whether the text is JSON up to the end of the draft, so that the draft can be passed over. -/
def isIntact : Draft → Bool
  | .array items => areIntact items
  | .object members => membersAreIntact members
  | .broken => false
  | _ => true
termination_by structural draft => draft

/-- `isIntact` on all items. -/
def areIntact : List Draft → Bool
  | [] => true
  | item :: items => isIntact item && areIntact items
termination_by structural items => items

/-- `isIntact` on the values of all members. -/
def membersAreIntact : List (Option String × Draft) → Bool
  | [] => true
  | (_, value) :: members => isIntact value && membersAreIntact members
termination_by structural members => members

end

mutual

/-- The value of a draft. Of several members with one name the last counts, in the place of the
first. -/
def json : Draft → Except Fault Json
  | .null => .ok .null
  | .bool value => .ok (.bool value)
  | .number value => .ok (.number value)
  | .string text => .ok (.string text)
  | .array items => (jsonItems items).map Json.array
  | .object members => (jsonMembers members).map fun members => .object (Members.ofList members)
  | .refused | .broken => .error .malformed
termination_by structural draft => draft

/-- The values of items. -/
def jsonItems : List Draft → Except Fault (List Json)
  | [] => .ok []
  | item :: items => do return (← json item) :: (← jsonItems items)
termination_by structural items => items

/-- The names and values of members. -/
def jsonMembers : List (Option String × Draft) → Except Fault (List (String × Json))
  | [] => .ok []
  | (none, _) :: _ => .error .malformed
  | (some name, value) :: members => do return (name, ← json value) :: (← jsonMembers members)
termination_by structural members => members

end

/-- The text of a string. -/
def text : Draft → Except Fault String
  | .string text => .ok text
  | .refused | .broken => .error .malformed
  | _ => .error .unfit

/-- A truth value. -/
def truth : Draft → Except Fault Bool
  | .bool value => .ok value
  | .refused | .broken => .error .malformed
  | _ => .error .unfit

/-- An integer below `2 ^ bits`, which is not negative. -/
def natural (bits : Nat) : Draft → Except Fault Nat
  | .number value => match value.unsigned? with
    | some value => if value < Nat.pow 2 bits then .ok value else .error .unfit
    | none => .error .unfit
  | .refused | .broken => .error .malformed
  | _ => .error .unfit

variable {Part : Type}

/-- A part, or null for none. -/
def optional (read : Draft → Except Fault Part) : Draft → Except Fault (Option Part)
  | .null => .ok none
  | draft => (read draft).map some

/-- An array whose items are all of one kind. -/
def list (read : Draft → Except Fault Part) : Draft → Except Fault (List Part)
  | .array items => items.mapM read
  | .refused | .broken => .error .malformed
  | _ => .error .unfit

/-- The members of an object whose values are all of one kind. A later value of a name replaces an
earlier one in its place. -/
def table (read : Draft → Except Fault Part) : Draft → Except Fault (Members Part)
  | .object members => (members.mapM entry).map Members.ofList
  | .refused | .broken => .error .malformed
  | _ => .error .unfit
where
  /-- One member. -/
  entry : Option String × Draft → Except Fault (String × Part)
    | (none, _) => .error .malformed
    | (some name, value) => (read value).map fun part => (name, part)

/-- A choice among names: the name itself, or an object that gives it null. -/
def choice (find : String → Option Part) : Draft → Except Fault Part
  | .string name | .object [(some name, .null)] => match find name with
    | some part => .ok part
    | none => .error .unfit
  | .refused | .broken => .error .malformed
  | _ => .error .unfit

end Draft

end DocumentQuery.Json
