import DocumentQuery.Failure
import DocumentQuery.Json.Form
import DocumentQuery.Text.Alphabetic

/-!
# Requests of batches

A batch is a list of operations, each with a method, a URL and a body. Operations that name the
same group are carried out together. The key of a row is given in the URL, as a segment or in
parentheses behind the entity set, and is a number where it reads as one.
-/

namespace DocumentQuery.Batch

open Json (Draft Form)

/-- One operation of a batch. -/
structure Operation where
  method : Option String := none
  url : String := ""
  body : Option Json := none
  group : Option String := none
  deriving Inhabited

/-- The answer to an operation or to a group. -/
structure Response where
  status : Nat
  body : Json
  deriving Inhabited

/-- What an operation does. -/
inductive Method where
  | read
  | create
  | update
  | delete
  deriving DecidableEq, Repr

namespace Method

/-- The name of a method. -/
def name : Method → String
  | .read => "GET"
  | .create => "POST"
  | .update => "PATCH"
  | .delete => "DELETE"

/-- The method of a name in capitals. -/
def ofName (name : String) : Except Failure Method :=
  match [read, create, update, delete].find? fun method => method.name == name with
  | some method => .ok method
  | none => .error (.unsupportedMethod name)

/-- Whether a method changes rows. -/
def isMutation (method : Method) : Bool := method != .read

end Method

namespace Response

/-- The answer that reports a failure. -/
def ofFailure (failure : Failure) : Response := ⟨failure.status, failure.document⟩

/-- The answer without a body. -/
def noContent : Response := ⟨204, .null⟩

/-- Whether the status reports success. -/
def isSuccess (response : Response) : Bool := 200 ≤ response.status && response.status < 300

/-- The document of an answer. -/
def document (response : Response) : Json :=
  .object [("status", .ofNat response.status), ("body", response.body)]

end Response

namespace Operation

/-- The document of an operation. -/
def form : Form Operation :=
  Operation.mk
    <$> .optional "method" Draft.text
    <*> .defaulted "url" "" Draft.text
    <*> .optional "body" Draft.json
    <*> .optional "atomicGroup" Draft.text

/-- The name of the method in ASCII capitals; reading is meant where there is none. -/
def methodName (operation : Operation) : String :=
  String.ofList ((operation.method.getD "GET").toList.map Char.toUpper)

/-- The group that an operation belongs to; an empty name is none. -/
def group? (operation : Operation) : Option String :=
  operation.group.filter fun group => !group.isEmpty

/-- The members of the body, which may be absent. -/
def bodyMembers (operation : Operation) : Except Failure (Members Json) :=
  match operation.body with
  | none | some .null => .ok []
  | some (.object members) => .ok members
  | some _ => .error .bodyNotAnObject

/-- The value of a key field in the body. -/
def bodyKey? (operation : Operation) (keyField : String) : Option Json :=
  (operation.body.bind (Json.member? keyField)).filter fun key => !key.isNull

end Operation

/-- The document of a batch. -/
def form : Form (List Operation) :=
  .defaulted "requests" [] (Draft.list Operation.form.read)

/-- The key that a text names: an integer or a finite number where it reads as one. -/
def keyOfText (text : List Char) : Json :=
  match Text.integer64? text with
  | some value => .ofInt value
  | none => match Text.decimal? text with
    | some value => .number (.float value)
    | none => .string (String.ofList text)

/-- The text without one character at its start, if that stands there. -/
def dropOptional (char : Char) : List Char → List Char
  | first :: rest => if first = char then rest else first :: rest
  | [] => []

/-- A key at the start of a text, made of word characters and dashes, and the text behind it. -/
def readKey? (text : List Char) : Option (List Char × List Char) :=
  let key := text.takeWhile fun char => Text.isWord char || char == '-'
  if key.isEmpty then none else some (key, text.drop key.length)

/-- The key behind the name of an entity set: a segment, or parentheses with blanks and quotes
allowed in them. A slash may follow; parameters are not looked at. -/
def keyOfPath? (rest : String) : Option Json := do
  let (key, after) ← match Text.before '?' rest.toList with
    | '/' :: text => readKey? text
    | '(' :: text => do
      let (key, after) ← readKey? (dropOptional '\'' (Text.trimStart text))
      match Text.trimStart (dropOptional '\'' after) with
      | ')' :: after => some (key, after)
      | _ => none
    | _ => none
  if after.isEmpty || after == ['/'] then some (keyOfText key) else none

end DocumentQuery.Batch
