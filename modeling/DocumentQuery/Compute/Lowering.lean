import DocumentQuery.Compute.Formula
import DocumentQuery.Pipeline.Stage

/-!
# Computed fields as stages

A clause becomes stages of a pipeline. The value of a call inside another call is set to a
temporary field by a stage of its own, and the temporary fields of a clause are removed behind
it. The numbers of temporary fields run through all clauses of a query.
-/

namespace DocumentQuery.Compute

/-- The name of a temporary field. -/
def temporaryName (number : Nat) : String := "__tmp_" ++ Nat.repr number

/-- An expression that applies an operator. -/
def applied (operator : String) (operand : Json) : Json := .object [(operator, operand)]

/-- A literal as an expression: texts that would read a field are marked as literals. -/
def literalExpression : Json → Json
  | .string text =>
    if Predicate.isOperator text then applied "$literal" (.string text) else .string text
  | value => value

/-- The number of characters of an expression that is a literal text. -/
def literalLength : Json → Nat
  | .string text => text.length
  | .object members =>
    match (Members.get? "$literal" members).bind Json.string? with
    | some text => text.length
    | none => 0
  | _ => 0

/-- An expression for whether two expressions have equal values. -/
def equality (left right : Json) : Json :=
  applied "$cond" (.array [applied "$eq" (.array [left, right]), .bool true, .bool false])

/-- An expression for the characters of a text from a position on. -/
def substring (text start length : Json) : Json :=
  applied "$substrCP" (.array [text, start, length])

/-- An expression for a text with a part replaced. -/
def replacement (operator : String) (text find replacement : Json) : Json :=
  applied operator (.object [("input", text), ("find", find), ("replacement", replacement)])

/-- The expression for a function, given expressions for its operands. Operands behind those that
the function takes have no effect; where some are missing, there is no expression. -/
def nativeExpression : Function → List Json → Json
  | .add, left :: right :: _ => applied "$add" (.array [left, right])
  | .sub, left :: right :: _ => applied "$subtract" (.array [left, right])
  | .mul, left :: right :: _ => applied "$multiply" (.array [left, right])
  | .div, left :: right :: _ => applied "$divide" (.array [left, right])
  | .concat, operands => applied "$concat" (.array operands)
  | .toLower, text :: _ => applied "$toLower" text
  | .toUpper, text :: _ => applied "$toUpper" text
  | .substring, [text, start] => substring text start (applied "$strLenCP" text)
  | .substring, text :: start :: length :: _ => substring text start length
  | .trim, text :: _ => applied "$trim" (.object [("input", text)])
  | .length, text :: _ => applied "$strLenCP" text
  | .indexOf, text :: needle :: _ => applied "$indexOfCP" (.array [text, needle])
  | .replace, text :: find :: other :: _ => replacement "$replaceOne" text find other
  | .replaceAll, text :: find :: other :: _ => replacement "$replaceAll" text find other
  | .startsWith, text :: needle :: _ =>
    equality (substring text (.ofNat 0) (.ofNat (literalLength needle))) needle
  | .endsWith, text :: needle :: _ =>
    let length := Json.ofNat (literalLength needle)
    let start := applied "$subtract" (.array [applied "$strLenCP" text, length])
    equality (substring text start length) needle
  | .year, date :: _ => applied "$year" (applied "$toDate" date)
  | .month, date :: _ => applied "$month" (applied "$toDate" date)
  | .day, date :: _ => applied "$dayOfMonth" (applied "$toDate" date)
  | .round, number :: _ => applied "$round" (.array [number, .ofNat 0])
  | .floor, number :: _ => applied "$floor" number
  | .ceiling, number :: _ => applied "$ceil" number
  | _, _ => .null

/-- An expression, the stages that have to run before it, the temporary fields they set, and the
number of the next one. -/
structure Lowered (Part : Type) where
  part : Part
  stages : List Stage
  temporaries : List String
  next : Nat

mutual

/-- The expression for a formula when temporary fields are numbered from `next` on. -/
def lower (next : Nat) : Formula → Lowered Json
  | .field path => ⟨fieldReference path, [], [], next⟩
  | .literal value => ⟨literalExpression value, [], [], next⟩
  | .call function operands =>
    let lowered := lowerOperands next operands
    { lowered with part := nativeExpression function lowered.part }
termination_by structural formula => formula

/-- The expressions for operands; that for a call reads the temporary field of its value. -/
def lowerOperands (next : Nat) : List Formula → Lowered (List Json)
  | [] => ⟨[], [], [], next⟩
  | operand :: operands =>
    let lowered := lower next operand
    let first : Lowered Json := match operand with
      | .call _ _ =>
        let name := temporaryName lowered.next
        ⟨fieldReference name, lowered.stages ++ [.compute [(name, lowered.part)]],
          lowered.temporaries ++ [name], lowered.next + 1⟩
      | _ => lowered
    let others := lowerOperands first.next operands
    ⟨first.part :: others.part, first.stages ++ others.stages,
      first.temporaries ++ others.temporaries, others.next⟩
termination_by structural operands => operands

end

/-- The stages of a clause and the number of the next temporary field. -/
def Clause.stages (next : Nat) (clause : Clause) : List Stage × Nat :=
  let lowered := lower next clause.formula
  let set := lowered.stages ++ [.compute [(clause.name, lowered.part)]]
  let all := if lowered.temporaries.isEmpty then set else set ++ [.unset lowered.temporaries]
  (all, lowered.next)

/-- The stages of clauses when temporary fields are numbered from `next` on. -/
def stagesFrom (next : Nat) : List Clause → List Stage
  | [] => []
  | clause :: clauses =>
    let (stages, next) := clause.stages next
    stages ++ stagesFrom next clauses

/-- The stages of clauses. -/
def stages (clauses : List Clause) : List Stage := stagesFrom 0 clauses

end DocumentQuery.Compute
