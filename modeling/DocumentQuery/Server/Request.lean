import DocumentQuery.Failure
import DocumentQuery.Json.Reader
import DocumentQuery.Query.Parameters
import DocumentQuery.Server.MediaType

/-!
# Requests and answers

A request has a method, a target, headers and a body; an answer has a status, headers and
content. A body is a document only when its media type says so. What stands behind a document
in a body is not looked at.
-/

namespace DocumentQuery

/-- What a client asks of a server. -/
structure Request where
  method : String := "GET"
  /-- The path with the parameters, and with the server's address before it or not. -/
  target : String
  headers : List (String × String) := []
  body : String := ""
  deriving Inhabited

/-- What an answer brings. -/
inductive Content where
  | empty
  | document (value : Json)
  | text (value : String)
  deriving Inhabited

/-- What a server answers. -/
structure Answer where
  status : Nat
  headers : List (String × String) := []
  content : Content := .empty
  deriving Inhabited

namespace Request

/-- Whether a character may stand in a header that is read as text. -/
def isVisible (char : Char) : Bool := char == '\t' || ' ' ≤ char && char ≤ '~'

/-- The first header with a name, in any letter case, if it is text. -/
def header? (request : Request) (name : String) : Option String :=
  let found := request.headers.find? fun (other, _) =>
    Text.equalIgnoringCase other.toList name.toList
  (found.map Prod.snd).filter fun value => value.toList.all isVisible

/-- The target without a fragment. -/
def plainTarget (request : Request) : List Char := Text.before '#' request.target.toList

/-- The target without the parameters and without an address. A scheme counts as one only if no
slash stands before it. -/
def path (request : Request) : List Char :=
  let target := Text.before '?' request.plainTarget
  match Text.find? "://".toList target with
  | some (passed, rest) =>
    if (target.take passed).contains '/' then target
    else match rest.dropWhile (· != '/') with
      | [] => ['/']
      | path => path
  | none => target

/-- The parameters of the target. -/
def parameters (request : Request) : Parameters :=
  .ofUrl (String.ofList request.plainTarget)

/-- The scheme and host that the client sees. -/
def origin (request : Request) : String :=
  (request.header? "x-forwarded-proto").getD "http" ++ "://"
    ++ (request.header? "host").getD "localhost"

/-- Whether the body is said to be a document. -/
def declaresDocument (request : Request) : Bool :=
  (request.header? "content-type").any fun value =>
    (MediaType.ofText? value.toList).any MediaType.isJson

/-- What the body writes as a document. -/
def draft (request : Request) : Except BodyProblem Json.Draft :=
  if request.declaresDocument then .ok (.ofStart request.body) else .error .notDeclared

end Request

namespace Answer

/-- The answer that brings a document. -/
def ofDocument (status : Nat) (value : Json) : Answer :=
  ⟨status, [("content-type", "application/json")], .document value⟩

/-- The answer that brings a text of a media type. -/
def ofText (status : Nat) (mediaType : String) (value : String) : Answer :=
  ⟨status, [("content-type", mediaType)], .text value⟩

/-- The answer that reports a failure. -/
def ofFailure (failure : Failure) : Answer := ofDocument failure.status failure.document

/-- The answer with another header. -/
def withHeader (answer : Answer) (name value : String) : Answer :=
  { answer with headers := answer.headers ++ [(name, value)] }

/-- The answer with the version of the protocol. -/
def versioned (answer : Answer) : Answer := answer.withHeader "odata-version" "4.0"

/-- The answer to a request that wants the headers alone. -/
def withoutContent (answer : Answer) : Answer := { answer with content := .empty }

end Answer

end DocumentQuery
