import DocumentQuery.Pattern.Reader
import DocumentQuery.Predicate

/-!
# Conditions of filters

What a filter text states about a document, apart from its spelling, and the predicate that
decides it. Tests on texts become patterns in which the text is escaped, and negation is the
combinator that no term holds.
-/

namespace DocumentQuery.Filter

/-- How a value is compared with a literal. -/
inductive Relation where
  | equal
  | unequal
  | greater
  | atLeast
  | less
  | atMost
  deriving DecidableEq, Repr

/-- Where in a text another one is sought. -/
inductive Placement where
  | anywhere
  | atStart
  | atEnd
  deriving DecidableEq, Repr

/-- A condition on a document. Paths are dotted. Conjunctions and disjunctions have lists of
operands, which are flat: a chain of one connective is one list. -/
inductive Condition where
  | compare (path : String) (relation : Relation) (operand : Json)
  | oneOf (path : String) (choices : List Json)
  | holdsText (path : String) (placement : Placement) (needle : String) (expected : Bool)
  | not (condition : Condition)
  | all (conditions : List Condition)
  | any (conditions : List Condition)
  deriving Inhabited

/-- The condition on a field that a comparison with a literal makes. -/
def Relation.condition (relation : Relation) (operand : Json) : Json :=
  match relation with
  | .equal => operand
  | .unequal => Predicate.clause "$ne" operand
  | .greater => Predicate.clause "$gt" operand
  | .atLeast => Predicate.clause "$gte" operand
  | .less => Predicate.clause "$lt" operand
  | .atMost => Predicate.clause "$lte" operand

/-- The written pattern that finds a text at a placement. -/
def Placement.pattern (placement : Placement) (needle : String) : String :=
  let escaped := Pattern.escape needle.toList
  String.ofList (match placement with
    | .anywhere => escaped
    | .atStart => '^' :: escaped
    | .atEnd => escaped ++ ['$'])

namespace Condition

mutual

/-- The predicate that decides a condition. A negation is a `$nor` of one term, and a text is looked
for with a pattern in which it stands escaped. -/
def predicate : Condition → Json
  | .compare path relation operand => Predicate.clause path (relation.condition operand)
  | .oneOf path choices => Predicate.clause path (Predicate.clause "$in" (.array choices))
  | .holdsText path placement needle expected =>
    let found := Predicate.clause "$regex" (.string (placement.pattern needle))
    Predicate.clause path (if expected then found else Predicate.clause "$not" found)
  | .not condition => Predicate.clause "$nor" (.array [predicate condition])
  | .all conditions => Predicate.clause "$and" (.array (predicates conditions))
  | .any conditions => Predicate.clause "$or" (.array (predicates conditions))
termination_by structural condition => condition

/-- The predicates that decide conditions. -/
def predicates : List Condition → List Json
  | [] => []
  | condition :: conditions => predicate condition :: predicates conditions
termination_by structural conditions => conditions

end

/-- The condition that all of one or more hold; one alone is not wrapped. -/
def allOf (first : Condition) (others : List Condition) : Condition :=
  if others.isEmpty then first else .all (first :: others)

/-- The condition that any of one or more holds; one alone is not wrapped. -/
def anyOf (first : Condition) (others : List Condition) : Condition :=
  if others.isEmpty then first else .any (first :: others)

end Condition

end DocumentQuery.Filter
