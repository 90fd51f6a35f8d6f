import DocumentQuery.Filter.Policy
import DocumentQuery.Json.Draft
import DocumentQuery.Pipeline.Run

/-!
# Failures of requests

Everything that can make a request fail, its kind, and its wording. The kind decides the code
and the status with which a failure is answered.
-/

namespace DocumentQuery

/-- The three kinds of failures. -/
inductive Failure.Kind where
  /-- The request is malformed or not allowed. -/
  | badRequest
  /-- What the request names does not exist. -/
  | notFound
  /-- The request cannot be carried out. -/
  | serverError
  deriving DecidableEq, Repr

/-- The code that names a kind in answers. -/
def Failure.Kind.code : Failure.Kind → String
  | .badRequest => "BadRequest"
  | .notFound => "NotFound"
  | .serverError => "ServerError"

/-- The status of answers that report a kind. -/
def Failure.Kind.status : Failure.Kind → Nat
  | .badRequest => 400
  | .notFound => 404
  | .serverError => 500

/-- Why the body of a request is no document. -/
inductive BodyProblem where
  | notDeclared
  | unusable (fault : Json.Draft.Fault)
  deriving DecidableEq, Repr

/-- The wording of a body's problem. -/
def BodyProblem.message : BodyProblem → String
  | .notDeclared => "Expected request with \x60Content-Type: application/json\x60"
  | .unusable .malformed => "Failed to parse the request body as JSON"
  | .unusable .unfit => "Failed to deserialize the JSON body into the target type"

/-- Why a request fails. A failure keeps the names and values that its wording shows. -/
inductive Failure where
  | filter (refusal : Filter.Refusal)
  | pipeline (fault : Pipeline.Fault)
  | noAggregation (collection : String)
  | notADocument
  | duplicateKey (key : Json) (collection : String)
  | unknownToken
  | tokenExists (token : String)
  | unknownUrl
  | unsupportedMethod (name : String)
  | noKeyFor (method : String)
  | notAMutation
  | missingId
  | duplicateId
  | bodyNotAnObject
  | body (problem : BodyProblem)
  | unknownEntitySet (name : String)
  | noRow (entitySet key : String)
  | unknownResource
  /-- The writer gives a group up for a reason of its own. -/
  | withdrawn (reason : String)
  deriving Inhabited

namespace Failure

/-- The kind of a failure. -/
def kind : Failure → Kind
  | .filter _ | .notADocument | .duplicateKey _ _ | .unknownToken | .unsupportedMethod _
  | .noKeyFor _ | .notAMutation | .duplicateId | .bodyNotAnObject | .body _ => .badRequest
  | .unknownUrl | .missingId | .unknownEntitySet _ | .noRow _ _ | .unknownResource
  | .withdrawn _ => .notFound
  | .pipeline _ | .noAggregation _ | .tokenExists _ => .serverError

/-- The wording of a failure, with the names and values that it arose from. -/
def message : Failure → String
  | .filter refusal => refusal.message
  | .pipeline fault => fault.message
  | .noAggregation collection => "collection " ++ collection ++ " does not support aggregation"
  | .notADocument => "document must be a JSON object"
  | .duplicateKey key collection =>
    "duplicate key " ++ key.toText ++ " in collection " ++ collection
  | .unknownToken => "Invalid delta token"
  | .tokenExists token => "checkpoint " ++ token ++ " already exists"
  | .unknownUrl => "Unknown URL"
  | .unsupportedMethod name => "Unsupported method " ++ name
  | .noKeyFor method => "Missing id for " ++ method
  | .notAMutation => "Invalid method in changeset"
  | .missingId => "Missing id"
  | .duplicateId => "Duplicate id"
  | .bodyNotAnObject => "Request body must be a JSON object"
  | .body problem => problem.message
  | .unknownEntitySet name => "Unknown entity set " ++ name
  | .noRow entitySet key => "No " ++ entitySet ++ " with key " ++ key
  | .unknownResource => "Resource not found"
  | .withdrawn reason => reason

/-- The code in answers. -/
def code (failure : Failure) : String := failure.kind.code

/-- The status of answers. -/
def status (failure : Failure) : Nat := failure.kind.status

/-- The code and the wording as members of an answer. -/
def details (failure : Failure) : Json :=
  .object [("code", .string failure.code), ("message", .string failure.message)]

/-- The document that answers with a failure. -/
def document (failure : Failure) : Json := .object [("error", failure.details)]

end Failure

end DocumentQuery
