import DocumentQuery.Json.Form

/-!
# Metadata

The description of exposed entity sets: for each its entity type, the key of that type, and the
properties with their types in the entity data model. Properties can be inferred from a JSON
schema.
-/

namespace DocumentQuery

open Json (Draft Form)

/-- A property of an entity type. -/
structure Metadata.Property where
  name : String
  typeName : String
  nullable : Bool := true
  deriving DecidableEq, Repr, Inhabited

/-- An entity set with its type. -/
structure Metadata.EntitySet where
  name : String
  typeName : String
  key : String
  properties : List Metadata.Property
  deriving DecidableEq, Repr, Inhabited

/-- The description of the entity sets of a schema. -/
structure Metadata where
  schema : String
  container : String
  entitySets : List Metadata.EntitySet := []
  deriving DecidableEq, Repr, Inhabited

namespace Metadata

/-- The document of a property, as it is read. -/
def Property.form : Form Property :=
  Property.mk
    <$> .required "name" Draft.text
    <*> .required "type" Draft.text
    <*> .defaulted "nullable" true Draft.truth

/-- The document of a property. -/
def Property.document (property : Property) : Json :=
  .object [("name", .string property.name), ("type", .string property.typeName),
    ("nullable", .bool property.nullable)]

/-- The name of the type that a JSON schema gives, the first of several. -/
def declaredType? (schema : Json) : Option String :=
  match schema.member? "type" with
  | some (.array types) => types.head?.bind Json.string?
  | some (.string name) => some name
  | _ => none

/-- The entity data model's type for the values of a JSON schema, if it has one. -/
def inferredType? (schema : Json) : Option String :=
  match declaredType? schema with
  | some "string" => match (schema.member? "format").bind Json.string? with
    | some "date-time" => some "Edm.DateTimeOffset"
    | some "uuid" => some "Edm.Guid"
    | _ => some "Edm.String"
  | some "integer" => some "Edm.Int32"
  | some "number" => some "Edm.Double"
  | some "boolean" => some "Edm.Boolean"
  | _ => none

/-- The names that a JSON schema requires. -/
def requiredNames (schema : Json) : List String :=
  (((schema.member? "required").bind Json.array?).getD []).filterMap Json.string?

/-- The properties that a JSON schema of objects describes, those without a type in the entity data
model left out. There are none to infer where no property is left. -/
def inferProperties? (schema : Json) : Option (List Property) := do
  let members ← (schema.member? "properties").bind Json.object?
  let required := requiredNames schema
  let properties : List Property := List.filterMap (fun (name, described) =>
    (inferredType? described).map fun typeName =>
      { name, typeName, nullable := !required.contains name }) members
  if properties.isEmpty then none else some properties

end Metadata

end DocumentQuery
