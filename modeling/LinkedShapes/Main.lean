import LinkedShapes.CommandLine.Outcome
import LinkedShapes.Resolution.Seed

/-!
# The program

Reads the files that a command names, runs the command, prints its output, and ends with its code. An
error is told on the standard error. There is no connection to servers.
-/

namespace LinkedShapes.CommandLine

/-- What is found at a path. -/
def fileAt (path : String) : IO FileState := do
  try
    let bytes ← IO.FS.readBinFile path
    return match String.fromUTF8? bytes with
      | some content => .text content
      | none => .notText
  catch _ => return .missing

/-- The text of the standard input, if a command needs it. -/
def inputFor (command : Except Stop Command) : IO String := do
  match command with
  | .ok (.query { query := none, .. }) => (← IO.getStdin).readToEnd
  | _ => return ""

/-- The number that bytes write. -/
def seedOf (bytes : ByteArray) : UInt64 :=
  bytes.toList.foldl (fun n byte => n * 256 + byte.toUInt64) 0

/-- The answer to a request as JSON. -/
def responseJson (response : GraphQL.Response) : Json :=
  let errors := response.errors.map fun error => Json.object [("message", .string error.message)]
  .object (("data", response.data) :: if errors.isEmpty then [] else [("errors", .array errors)])

/-- The text that is printed. -/
def Output.written : Output → String
  | .nothing => ""
  | .text content => content
  | .response answer => (responseJson answer).pretty 0 ++ "\n"

end LinkedShapes.CommandLine

open LinkedShapes LinkedShapes.CommandLine in
/-- Runs the command that the words of the command line ask for. -/
def main (words : List String) : IO UInt32 := do
  let command := Command.read words
  let paths := match command with
    | .ok command => command.paths
    | .error _ => []
  let files ← paths.mapM fun path => return (path, ← fileAt path)
  let input ← inputFor command
  let seed ← IO.getRandomBytes 8
  let surroundings : Surroundings :=
    { file := fun path => ((files.find? (·.1 = path)).map Prod.snd).getD .missing
      input := input
      names := Resolution.Names.ofSeed (seedOf seed) }
  let (outcome, _) := run surroundings words
  (← IO.getStdout).putStr outcome.output.written
  (← IO.getStdout).flush
  match outcome.error with
  | .ok (some error) => IO.eprintln ("Error: " ++ error.message)
  | .error .misuse => IO.eprintln "Usage: shapeql [OPTIONS] <COMMAND>"
  | _ => pure ()
  return UInt32.ofNat outcome.code
