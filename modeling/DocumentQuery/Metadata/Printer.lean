import DocumentQuery.Metadata.Basic

/-!
# The text of metadata

Metadata is written as an XML document in a fixed layout, one element to a line. Names stand in
attributes, where the four characters that could end an attribute or begin markup are escaped.
-/

namespace DocumentQuery.Metadata

/-- The form of a character inside an attribute. -/
def escapeChar : Char → List Char
  | '&' => "&amp;".toList
  | '<' => "&lt;".toList
  | '>' => "&gt;".toList
  | '"' => "&quot;".toList
  | char => [char]

/-- The form of a text inside an attribute. -/
def escape (text : String) : List Char := text.toList.flatMap escapeChar

/-- A line of its own, behind an indentation. -/
def line (indentation : Nat) (parts : List (List Char)) : List Char :=
  List.replicate indentation ' ' ++ parts.flatten ++ ['\n']

/-- An element's start up to the value of its first attribute. -/
def opening (element first : String) : List Char :=
  ("<" ++ element ++ " " ++ first ++ "=\"").toList

/-- The element of a property. -/
def Property.element (property : Property) : List Char :=
  let nullable := if property.nullable then "" else " Nullable=\"false\""
  line 8 [opening "Property" "Name", escape property.name, "\" Type=\"".toList,
    escape property.typeName, "\"".toList, nullable.toList, " />".toList]

/-- The element of an entity type. -/
def EntitySet.typeElement (entitySet : EntitySet) : List Char :=
  line 6 [opening "EntityType" "Name", escape entitySet.typeName, "\">".toList]
    ++ line 8 ["<Key>".toList]
    ++ line 10 [opening "PropertyRef" "Name", escape entitySet.key, "\" />".toList]
    ++ line 8 ["</Key>".toList]
    ++ entitySet.properties.flatMap Property.element
    ++ line 6 ["</EntityType>".toList]

/-- The element that puts an entity set into the container. -/
def EntitySet.element (schema : String) (entitySet : EntitySet) : List Char :=
  line 8 [opening "EntitySet" "Name", escape entitySet.name, "\" EntityType=\"".toList,
    escape schema, ".".toList, escape entitySet.typeName, "\" />".toList]

/-- The text of metadata: the schema with its entity types, and behind them the container with its
entity sets. All names are escaped where they stand in attributes. -/
def toText (metadata : Metadata) : String :=
  String.ofList (
    line 0 ["<?xml version=\"1.0\" encoding=\"utf-8\"?>".toList]
    ++ line 0 [("<edmx:Edmx Version=\"4.0\" "
      ++ "xmlns:edmx=\"http://docs.oasis-open.org/odata/ns/edmx\">").toList]
    ++ line 2 ["<edmx:DataServices>".toList]
    ++ line 4 [opening "Schema" "Namespace", escape metadata.schema,
      "\" xmlns=\"http://docs.oasis-open.org/odata/ns/edm\">".toList]
    ++ metadata.entitySets.flatMap EntitySet.typeElement
    ++ line 6 [opening "EntityContainer" "Name", escape metadata.container, "\">".toList]
    ++ metadata.entitySets.flatMap (EntitySet.element metadata.schema)
    ++ line 6 ["</EntityContainer>".toList]
    ++ line 4 ["</Schema>".toList]
    ++ line 2 ["</edmx:DataServices>".toList]
    ++ "</edmx:Edmx>".toList)

end DocumentQuery.Metadata
