import DocumentQuery.Command
import DocumentQuery.Json.Indented

/-!
# The program

Reads the arguments and the settings' file, carries out the command, and prints what comes of
it. Requests to serve stand on the lines of the input, each the document of one request, and
each is answered by a line.
-/

namespace DocumentQuery

/-- Reports a fault. -/
def report (fault : Command.Fault) : IO UInt32 := do
  IO.eprintln fault.message
  return 1

/-- The settings in a file. -/
def readSettings (file : String) : IO (Except Command.Fault ServerSettings) := do
  try
    return Command.settingsOfText (← IO.FS.readFile file)
  catch error =>
    return .error (.unreadableSettings error.toString)

/-- Prints the explanation of a URL. -/
def explain (url : String) (settings : Option ServerSettings) (entitySet : Option String) :
    IO UInt32 := do
  match Explain.report url settings entitySet with
  | .error fault => report (.unexplained fault)
  | .ok explanation =>
    IO.println (explanation.indented 0)
    return 0

/-- Answers the requests on the lines of the input until it ends. The clock follows that of the
machine and never stands still. -/
partial def serve (settings : ServerSettings) (store : Store) : IO UInt32 := do
  let line ← (← IO.getStdin).getLine
  if line.isEmpty then return 0
  let clock := store.clock.set (max store.clock.now (← IO.monoMsNow))
  let (answer, store) := Command.answerText settings { store with clock } line
  IO.println answer
  (← IO.getStdout).flush
  serve settings store

/-- Carries out a command. Settings are read first, and a fault in them is reported without anything
else being done. -/
def run : Command → IO UInt32
  | .explain url none entitySet => explain url none entitySet
  | .explain url (some file) entitySet => do
    match ← readSettings file with
    | .error fault => report fault
    | .ok settings => explain url (some settings) entitySet
  | .serve file => do
    match ← readSettings file with
    | .error fault => report fault
    | .ok settings => match Server.start settings ⟨0, 1⟩ with
      | .error cause => report (.unstarted cause)
      | .ok store => serve settings store

end DocumentQuery

/-- Carries out the command that the arguments give. -/
def main (arguments : List String) : IO UInt32 := do
  match DocumentQuery.Command.ofArguments? arguments with
  | some command => DocumentQuery.run command
  | none =>
    IO.eprintln DocumentQuery.Command.usage
    return 2
