import DocumentQuery.Json.Reader

/-!
# Documents with fixed members

Settings and wire messages are documents whose members are known beforehand. A form says which
members there are, what each has to be, and what they make together. The members may also be
given as a list in their order.

A document is read strictly: a known member must be what it has to be, none may be repeated, and
one that is required must be there. Members that are not known are passed over, and a list has
no room for them. Of several faults the one that stands first in the document is reported; a
missing member stands behind all others.
-/

namespace DocumentQuery.Json

/-- The known members that a document gives, each with its place in it. -/
structure Given where
  /-- Whether the members are listed without their names. -/
  isListed : Bool
  members : List (String × Nat × Draft)
  /-- The place behind all members. -/
  size : Nat

/-- A fault at a place in a document. -/
structure PlacedFault where
  place : Nat
  fault : Draft.Fault

/-- Which members a document has, and the part that they make. -/
structure Form (Part : Type) where
  /-- The names of the members in their order. -/
  names : List String
  /-- The part that members make. -/
  build : Given → Except PlacedFault Part

namespace Form

variable {First Second Part : Type}

/-- Two results made one; of two faults the first in the document is kept. -/
def combine (join : First → Second → Part) :
    Except PlacedFault First → Except PlacedFault Second → Except PlacedFault Part
  | .ok first, .ok second => .ok (join first second)
  | .ok _, .error fault | .error fault, .ok _ => .error fault
  | .error first, .error second => .error (if second.place < first.place then second else first)

instance : Applicative Form where
  pure part := ⟨[], fun _ => .ok part⟩
  seq functions parts :=
    ⟨functions.names ++ (parts ()).names, fun given =>
      combine (fun function part => function part) (functions.build given)
        ((parts ()).build given)⟩

/-- A form with one member, and what it makes where the member is not given. -/
def member (name : String) (read : Draft → Except Draft.Fault Part)
    (absent : Given → Except Draft.Fault Part) : Form Part :=
  ⟨[name], fun given =>
    match given.members.lookup name with
    | some (place, draft) => (read draft).mapError fun fault => ⟨place, fault⟩
    | none => (absent given).mapError fun fault => ⟨given.size, fault⟩⟩

/-- A member that has to be there. -/
def required (name : String) (read : Draft → Except Draft.Fault Part) : Form Part :=
  member name read fun _ => .error .unfit

/-- A member with a part to take where it is absent. -/
def defaulted (name : String) (default : Part) (read : Draft → Except Draft.Fault Part) :
    Form Part :=
  member name read fun _ => .ok default

/-- A member that may be absent or null. -/
def optional (name : String) (read : Draft → Except Draft.Fault Part) : Form (Option Part) :=
  defaulted name none (Draft.optional read)

/-- A member that may be null, and absent only where members are named. -/
def nullable (name : String) (read : Draft → Except Draft.Fault Part) : Form (Option Part) :=
  member name (Draft.optional read) fun given =>
    if given.isListed then .error .unfit else .ok none

/-- The known members of an object, the first of which has the given place. -/
def knownMembers (names : List String) (place : Nat) :
    List (Option String × Draft) → List (String × Nat × Draft)
  | [] => []
  | (some name, draft) :: members =>
    if names.contains name then (name, place, draft) :: knownMembers names (place + 1) members
    else knownMembers names (place + 1) members
  | (none, _) :: members => knownMembers names (place + 1) members

/-- The first of the members, from a place on, that makes an object no document whatever the known
members have to be: one without a name, one that repeats a known name, or an unknown one that is not
JSON. `seen` names the known members before. -/
def firstStray? (names seen : List String) (place : Nat) :
    List (Option String × Draft) → Option PlacedFault
  | [] => none
  | (none, _) :: _ => some ⟨place, .malformed⟩
  | (some name, draft) :: members =>
    if seen.contains name then some ⟨place, .unfit⟩
    else if names.contains name then firstStray? names (name :: seen) (place + 1) members
    else if draft.isIntact then firstStray? names seen (place + 1) members
    else some ⟨place, .malformed⟩

/-- The part that a form makes of members, unless a stray one stands before what is wrong
with them. -/
def settle (form : Form Part) (given : Given) (stray : Option PlacedFault) :
    Except Draft.Fault Part :=
  let checked : Except PlacedFault Unit := match stray with
    | some fault => .error fault
    | none => .ok ()
  (combine (fun _ part => part) checked (form.build given)).mapError PlacedFault.fault

/-- The part that a document makes. An object gives its members by name and an array by position, in
the order of the form; whatever comes first in the document decides which fault is reported. -/
def read (form : Form Part) : Draft → Except Draft.Fault Part
  | .object members =>
    form.settle ⟨false, knownMembers form.names 0 members, members.length⟩
      (firstStray? form.names [] 0 members)
  | .array items =>
    let size := form.names.length
    form.settle ⟨true, form.names.zip (items.zipIdx.map Prod.swap), items.length⟩
      (if size < items.length then some ⟨size, .malformed⟩ else none)
  | .refused | .broken => .error .malformed
  | _ => .error .unfit

/-- The part that a value makes. -/
def ofJson? (form : Form Part) (document : Json) : Option Part :=
  (form.read (.ofJson document)).toOption

/-- The part that a whole text makes. -/
def ofText? (form : Form Part) (text : String) : Option Part :=
  (Draft.ofText? text).bind fun draft => (form.read draft).toOption

end Form

end DocumentQuery.Json
