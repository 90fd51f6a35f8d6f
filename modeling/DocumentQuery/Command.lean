import DocumentQuery.Explain
import DocumentQuery.Server.Basic

/-!
# Commands

What the program can be asked to do: explain a URL, or serve requests. A command is read from
arguments, in which every option is followed by its value. A command that fails reports a code
and a message.
-/

namespace DocumentQuery

open Json (Draft Form)

/-- What the program is asked to do. Settings are named by the file that holds them. -/
inductive Command where
  | explain (url : String) (settings entitySet : Option String)
  | serve (settings : String)
  deriving DecidableEq, Repr

/-- Why a command fails. -/
inductive Command.Fault where
  | unreadableSettings (reason : String)
  | malformedSettings
  | unexplained (fault : Explain.Fault)
  | unstarted (cause : Failure)
  deriving Inhabited

namespace Command

/-- How the program is called. -/
def usage : String :=
  "usage: explain --url URL [--config FILE] [--entity-set NAME]\n"
    ++ "       serve [--config FILE]"

/-- Options with their values, each behind its option or joined to it by an equals sign. -/
def options? : List String → Option (List (String × String))
  | [] => some []
  | word :: words => match Text.cut? '=' word.toList with
    | some (name, value) =>
      (options? words).map fun options => (String.ofList name, String.ofList value) :: options
    | none => match words with
      | [] => none
      | value :: others => (options? others).map fun options => (word, value) :: options

/-- Whether all options are among the known ones, and none is repeated. -/
def areKnown (known : List String) (options : List (String × String)) : Bool :=
  let names := options.map Prod.fst
  names.all known.contains && names.eraseDups.length == names.length

/-- The command of some arguments. -/
def ofArguments? : List String → Option Command
  | "explain" :: words => do
    let options ← options? words
    if !areKnown ["--url", "--config", "--entity-set"] options then none
    return .explain (← options.lookup "--url") (options.lookup "--config")
      (options.lookup "--entity-set")
  | "serve" :: words => do
    let options ← options? words
    if !areKnown ["--config"] options then none
    return .serve ((options.lookup "--config").getD "./settings.json")
  | _ => none

/-- The code and the wording of a fault. -/
def Fault.message : Fault → String
  | .unreadableSettings reason => "ODATA_CLI_CONFIG_ERROR: Failed to read config: " ++ reason
  | .malformedSettings => "ODATA_CLI_CONFIG_ERROR: Invalid config JSON"
  | .unexplained fault => fault.code ++ ": " ++ fault.message
  | .unstarted cause => match cause.kind with
    | .badRequest => "ODATA_CLI_INVALID_QUERY: " ++ cause.message
    | .notFound | .serverError => "ODATA_CLI_BOOT_FAILED: " ++ cause.message

/-- The settings that a text holds. -/
def settingsOfText (text : String) : Except Fault ServerSettings :=
  match ServerSettings.form.ofText? text with
  | some settings => .ok settings
  | none => .error .malformedSettings

/-- The document of a request. -/
def requestForm : Form Request :=
  Request.mk
    <$> .defaulted "method" "GET" Draft.text
    <*> .required "target" Draft.text
    <*> .defaulted "headers" [] (Draft.table Draft.text)
    <*> .defaulted "body" "" Draft.text

/-- The document of an answer. -/
def answerDocument (answer : Answer) : Json :=
  let body : Json := match answer.content with
    | .empty => .null
    | .document value => value
    | .text value => .string value
  .object [("status", .ofNat answer.status),
    ("headers", .object (answer.headers.map fun (name, value) => (name, .string value))),
    ("body", body)]

/-- Answers a request that is given as the text of a document. -/
def answerText (settings : ServerSettings) (store : Store) (text : String) : String × Store :=
  match requestForm.ofText? text with
  | none => ((answerDocument ⟨400, [], .empty⟩).toText, store)
  | some request =>
    let (answer, store) := Server.answer settings store request
    ((answerDocument answer).toText, store)

end Command

end DocumentQuery
