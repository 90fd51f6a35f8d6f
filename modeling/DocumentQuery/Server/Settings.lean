import DocumentQuery.Batch.Process
import DocumentQuery.EntitySet

/-!
# Settings of a server

Where a server listens, the path before its resources, how it marks changes, and the entity
sets that it exposes. The settings are read from a document; everything has a usual value. Of
several sets with one name the last answers requests.
-/

namespace DocumentQuery

open Json (Draft Form)

/-- What is laid down for a server: where it listens, what it exposes, and how it reports. -/
structure ServerSettings where
  host : String := "0.0.0.0"
  /-- The number of the socket on the host. -/
  portNumber : Nat := 8080
  /-- The path before the names of resources, as it is laid down. -/
  basePath : String := "/odata"
  /-- The origins that browsers may send requests from; all where the list is empty. -/
  origins : List String := []
  schema : String := "Default"
  container : String := "Container"
  changeField : String := "_updatedAtMs"
  logLevel : String := "info"
  logsDocuments : Bool := false
  entitySets : List EntitySet := []
  deriving Inhabited

namespace ServerSettings

/-- The path before the names of resources, without slashes at its end. -/
def base (settings : ServerSettings) : String := Batch.withoutFinalSlashes settings.basePath

/-- The address that a server listens at. -/
def socket (settings : ServerSettings) : String :=
  settings.host ++ ":" ++ Nat.repr settings.portNumber

/-- The first entity set that is laid down under a name. -/
def entitySet? (settings : ServerSettings) (name : String) : Option EntitySet :=
  settings.entitySets.find? fun entitySet => entitySet.name == name

/-- The description of the entity sets. -/
def metadata (settings : ServerSettings) : Metadata :=
  ⟨settings.schema, settings.container, settings.entitySets.map EntitySet.description⟩

/-- The document that names the schema and the container. -/
def namesForm : Form (String × String) :=
  Prod.mk
    <$> .defaulted "namespace" "Default" Draft.text
    <*> .defaulted "container" "Container" Draft.text

/-- The document of settings. Every member may be left out and has its default then. -/
def form : Form ServerSettings :=
  make
    <$> .defaulted "host" "0.0.0.0" Draft.text
    <*> .defaulted "port" 8080 (Draft.natural 16)
    <*> .defaulted "base_path" "/odata" Draft.text
    <*> .defaulted "cors_origins" [] (Draft.list Draft.text)
    <*> .defaulted "metadata" ("Default", "Container") namesForm.read
    <*> .defaulted "change_field" "_updatedAtMs" Draft.text
    <*> .defaulted "log_level" "info" Draft.text
    <*> .defaulted "log_json" false Draft.truth
    <*> .defaulted "entity_sets" [] (Draft.list EntitySet.form.read)
where
  /-- The settings of their parts. -/
  make (host : String) (portNumber : Nat) (basePath : String) (origins : List String)
      (names : String × String) (changeField logLevel : String) (logsDocuments : Bool)
      (entitySets : List EntitySet) : ServerSettings :=
    ⟨host, portNumber, basePath, origins, names.1, names.2, changeField, logLevel,
      logsDocuments, entitySets⟩

end ServerSettings

end DocumentQuery
