import DocumentQuery.Coercion
import DocumentQuery.Metadata.Basic
import DocumentQuery.Pipeline.Stage
import DocumentQuery.Plan.Settings

/-!
# Entity sets

A collection as it is exposed to requests: its public name, the property that addresses its
rows, its description, and what is laid down for queries against it. The key `id` stands for
the identity of the rows; any other key is a field of its own name.
-/

namespace DocumentQuery

open Json (Draft Form)

/-- A collection as it is exposed to requests: where it is stored, what its metadata says, what
queries may ask of it, and the rows that it begins with. -/
structure EntitySet where
  name : String
  /-- The collection; one of the same name where there is none. -/
  collection : Option String := none
  key : String := "id"
  typeName : Option String := none
  properties : Option (List Metadata.Property) := none
  /-- A JSON schema from which properties are inferred where they are not listed. -/
  schema : Option Json := none
  expansions : Members Expansion := []
  limits : Limits := {}
  restrictions : Restrictions := {}
  searched : List String := []
  coercion : Option Coercion := none
  /-- The rows that the collection begins with. -/
  seed : List Json := []
  deriving Inhabited

namespace EntitySet

/-- The name of the collection. -/
def collectionName (entitySet : EntitySet) : String := entitySet.collection.getD entitySet.name

/-- The name of the entity type: as laid down, or else the set's name without its last character. -/
def entityType (entitySet : EntitySet) : String :=
  entitySet.typeName.getD
    (match entitySet.name.toList.dropLast with
    | [] => "Entity"
    | singular => String.ofList singular)

/-- The fields that stand for others in filters. -/
def renamed (entitySet : EntitySet) : Members String :=
  if entitySet.key = "id" then [("id", identityField)] else []

/-- The field of the rows that keys are compared with. -/
def keyField (entitySet : EntitySet) : String :=
  (entitySet.renamed.get? entitySet.key).getD entitySet.key

/-- The properties of the entity type: those listed, or else those inferred, or else the
key alone. -/
def resolvedProperties (entitySet : EntitySet) : List Metadata.Property :=
  (entitySet.properties <|> entitySet.schema.bind Metadata.inferProperties?).getD
    [⟨entitySet.key, "Edm.String", false⟩]

/-- The description of the set. -/
def description (entitySet : EntitySet) : Metadata.EntitySet :=
  ⟨entitySet.name, entitySet.entityType, entitySet.key, entitySet.resolvedProperties⟩

/-- The settings of queries against the set, whose links have the given base. -/
def settings (entitySet : EntitySet) (base : Option String) : Settings :=
  { expansions := entitySet.expansions
    limits := entitySet.limits
    restrictions := entitySet.restrictions
    renamed := entitySet.renamed
    searched := entitySet.searched
    base }

/-- The document of an entity set. Only the name is required; every other member has a default. -/
def form : Form EntitySet :=
  EntitySet.mk
    <$> .required "name" Draft.text
    <*> .optional "collection" Draft.text
    <*> .defaulted "key" "id" Draft.text
    <*> .optional "entity_type" Draft.text
    <*> .optional "properties" (Draft.list Metadata.Property.form.read)
    <*> .optional "json_schema" Draft.json
    <*> .defaulted "expand_map" [] (Draft.table Expansion.form.read)
    <*> .defaulted "limits" {} Limits.form.read
    <*> .defaulted "security" {} Restrictions.form.read
    <*> .defaulted "search_fields" [] (Draft.list Draft.text)
    <*> .optional "date_coercion" Coercion.form.read
    <*> .defaulted "seed" [] (Draft.list Draft.json)

end EntitySet

end DocumentQuery
