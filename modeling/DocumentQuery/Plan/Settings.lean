import DocumentQuery.Filter.Policy
import DocumentQuery.Json.Form

/-!
# Settings of an execution

What the owner of a collection lays down for the queries against it: the joins that a query may
ask for, limits of page sizes, the policy on filters, the fields that are searched, and the
base of links. They are read from documents.
-/

namespace DocumentQuery

open Json (Draft Form)

/-- A join that queries may ask for by a path: which rows of which collection are joined, by which
fields, and where they are shown. -/
structure Expansion where
  collection : String
  localField : String
  foreignField : String
  /-- The field that takes the joined rows; the collection's name where there is none. -/
  output : Option String := none
  /-- Whether at most one row is joined, which then stands alone. -/
  single : Bool := false
  deriving DecidableEq, Repr, Inhabited

/-- The field that takes the joined rows. -/
def Expansion.outputField (expansion : Expansion) : String :=
  expansion.output.getD expansion.collection

/-- Limits of page sizes. -/
structure Limits where
  maximum : Option Nat := none
  pageSize : Option Nat := none
  deriving DecidableEq, Repr, Inhabited

/-- The greatest page size; 1000 where none is set. -/
def Limits.hardMaximum (limits : Limits) : Nat := limits.maximum.getD 1000

/-- Restrictions on filter texts. -/
structure Restrictions where
  allowed : Option (List String) := none
  maximumLength : Option Nat := none
  deriving DecidableEq, Repr, Inhabited

/-- What is laid down for queries against a collection, as it takes part in planning them. -/
structure Settings where
  expansions : Members Expansion := []
  limits : Limits := {}
  restrictions : Restrictions := {}
  renamed : Members String := []
  searched : List String := []
  base : Option String := none
  transform : Option (Json → Json) := none
  deriving Inhabited

/-- The policy on filters. -/
def Settings.policy (settings : Settings) : Filter.Policy :=
  { allowed := settings.restrictions.allowed
    maximumLength := settings.restrictions.maximumLength
    renamed := settings.renamed
    transform := settings.transform }

/-- The document of an expansion. -/
def Expansion.form : Form Expansion :=
  Expansion.mk
    <$> .required "from" Draft.text
    <*> .required "local_field" Draft.text
    <*> .required "foreign_field" Draft.text
    <*> .optional "alias" Draft.text
    <*> .defaulted "single" false Draft.truth

/-- The document of limits. -/
def Limits.form : Form Limits :=
  Limits.mk
    <$> .optional "max_top" (Draft.natural 64)
    <*> .optional "default_page_size" (Draft.natural 64)

/-- The document of restrictions. -/
def Restrictions.form : Form Restrictions :=
  Restrictions.mk
    <$> .optional "allowed_operators" (Draft.list Draft.text)
    <*> .optional "max_filter_length" (Draft.natural 64)

/-- The document of searched fields. -/
def searchedForm : Form (List String) := .defaulted "fields" [] (Draft.list Draft.text)

/-- The document of settings. No transform can be written. -/
def Settings.form : Form Settings :=
  Settings.mk
    <$> .defaulted "expand_map" [] (Draft.table Expansion.form.read)
    <*> .defaulted "limits" {} Limits.form.read
    <*> .defaulted "security" {} Restrictions.form.read
    <*> .defaulted "field_map" [] (Draft.table Draft.text)
    <*> .defaulted "search" [] searchedForm.read
    <*> .optional "base_url" Draft.text
    <*> pure none

end DocumentQuery
