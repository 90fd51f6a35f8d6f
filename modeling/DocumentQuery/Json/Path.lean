import DocumentQuery.Json.Basic
import DocumentQuery.Text.Numeral
import DocumentQuery.Text.Split

/-!
# Dotted paths

A path names a place in a document: the text is cut at its dots, and each piece names a member
or, in an array, an index. Setting a path makes the objects it needs on the way, in place of
whatever else stands there; removing one changes nothing where it leads nowhere.
-/

namespace DocumentQuery

/-- The steps from a document to a place in it. -/
abbrev Path := List String

/-- The path that a dotted text names. -/
def Path.ofText (text : String) : Path := (Text.split '.' text.toList).map String.ofList

namespace Json

/-- The item of an array that a step names by its index. -/
def item? (step : String) (items : List Json) : Option Json :=
  (Text.unsigned? step.toList).bind fun index => items[index]?

/-- The value at a path. -/
def get? : Path → Json → Option Json
  | [], value => some value
  | step :: path, .object members => (Members.get? step members).bind (get? path)
  | step :: path, .array items => (item? step items).bind (get? path)
  | _ :: _, _ => none

/-- The document with a value at a path. Whatever is not an object on the way gives place to an
object with the one member that the path needs. -/
def set (value : Json) : Path → Json → Json
  | [], _ => value
  | step :: path, node =>
    let inner := (node.member? step).getD (.object [])
    .object (node.members.insert step (set value path inner))

/-- The document without the member at a path. Only objects are entered. -/
def erase : Path → Json → Json
  | [step], .object members => .object (Members.erase step members)
  | step :: path, .object members =>
    match Members.get? step members with
    | some inner => .object (Members.insert step (erase path inner) members)
    | none => .object members
  | _, value => value

/-- The value that a dotted text leads to. -/
def valueAt? (document : Json) (text : String) : Option Json :=
  get? (Path.ofText text) document

/-- The document with a value where a dotted text leads. -/
def setAt (document : Json) (text : String) (value : Json) : Json :=
  set value (Path.ofText text) document

/-- The document without what a dotted text leads to. -/
def eraseAt (document : Json) (text : String) : Json := erase (Path.ofText text) document

end Json

end DocumentQuery
