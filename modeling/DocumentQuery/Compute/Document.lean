import DocumentQuery.Compute.Formula
import DocumentQuery.Json.Form

/-!
# Documents of computed fields

The written form of formulas and clauses in descriptions of queries: a formula is an object
with its kind and its content.
-/

namespace DocumentQuery.Compute

open Json (Draft Form)

mutual

/-- The document of a formula. -/
def Formula.document : Formula → Json
  | .field path => .object [("kind", "field"), ("value", .string path)]
  | .literal value => .object [("kind", "literal"), ("value", value)]
  | .call function operands =>
    .object [("kind", "call"), ("value", .object
      [("function", .string function.name), ("args", .array (documents operands))])]
termination_by structural formula => formula

/-- The documents of formulas. -/
def documents : List Formula → List Json
  | [] => []
  | formula :: formulas => formula.document :: documents formulas
termination_by structural formulas => formulas

end

/-- The document of a clause. -/
def Clause.document (clause : Clause) : Json :=
  .object [("expression", clause.formula.document), ("alias", .string clause.name)]

/-- The function of a document's name, which is written in small letters. -/
def Function.ofName? (name : String) : Option Function :=
  Function.all.find? fun function => function.name == name

/-- The document of a formula: its kind, and its content as it is written. -/
def formulaForm : Form (String × Draft) :=
  Prod.mk
    <$> .required "kind" (Draft.choice some)
    <*> .required "value" .ok

/-- The content of a call: its function, and its operands as they are written. -/
def callForm : Form (Function × Draft) :=
  Prod.mk
    <$> .required "function" (Draft.choice Function.ofName?)
    <*> .required "args" .ok

/-- The formula of a draft that nests at most `levels` deep, under the name of its kind. The
operands of a call may be any formulas here; the reader of texts is the one that checks
their kinds. -/
def Formula.read : Nat → Draft → Except Draft.Fault Formula
  | 0, _ => .error .unfit
  | levels + 1, draft => do
    let (kind, content) ← formulaForm.read draft
    match kind with
    | "field" => content.text.map Formula.field
    | "literal" => content.json.map Formula.literal
    | "call" =>
      let (function, operands) ← callForm.read content
      return .call function (← operands.list (Formula.read levels))
    | _ => .error .unfit

/-- The document of a clause, as it is read. No value that is read nests deeper than the bound of
the reader. -/
def Clause.form : Form Clause :=
  Clause.mk
    <$> .required "expression" (Formula.read Json.depthBound)
    <*> .required "alias" Draft.text

end DocumentQuery.Compute
