import StorageGate.CommandLine
import StorageGate.Gate
/-!
# The program

Reads the command line and the configuration and then answers what comes in, one exchange a line: the seconds since 1970,
a tab and a document.  Each answer is a line as well: the status, a tab and the document.  A configuration that cannot be
used does not stop the program; the answers then say so.
-/
namespace StorageGate

/-- How the program is called. -/
def usage : String := "Usage: storage-gate [-c FILE] [-l ADDRESS:PORT] [-p PATH] [--json-logs]"

/-- The text of the error. -/
def UsageError.message : UsageError → String
  | help => usage
  | unknownArgument => "an argument is not known"
  | missingValue => "an option has no value"
  | invalidAddress => "the address to listen at is not valid"
  | repeated => "an option is given twice"
  | unexpectedValue => "an option takes no value"

/-- A line of the log. -/
def CommandLine.logLine (line : CommandLine) (text : String) : String :=
  if line.jsonLogs then String.ofList (Json.Value.object [("message", .string text)]).write else text

/-- When the exchange of a line takes place, and its document. -/
def exchangeOfLine? (text : String) : Option (Instant × String) :=
  let cs := text.toList.takeWhile (· != '\n')
  match cs.dropWhile (· != '\t') with
  | [] => none
  | _ :: document => do
    let seconds ← (String.ofList (cs.takeWhile (· != '\t'))).toInt?
    return (.ofSeconds seconds 0, String.ofList document)

/-- The line with an answer. -/
def Reply.line (reply : Reply) : String := toString reply.status ++ "\t" ++ reply.body

/-- The gate that a command line asks for. -/
def CommandLine.gate (line : CommandLine) (read : String → Reading) : Gate Id :=
  match line.loadConfig read with
  | .ok config => .ofConfig .standard config
  | .error cause => .failed cause

/-- Reads a path. -/
def readPath (path : String) : IO Reading := do
  try
    return .text (← IO.FS.readFile path)
  catch
    | .noFileOrDirectory .. => return .missing
    | _ => return .unreadable

/-- Random bits for a new identifier. -/
def randomBits : IO Nat := do
  return (← IO.getRandomBytes 10).toList.foldl (fun n b => n * 256 + b.toNat) 0

/-- Answers lines until there are no more. -/
partial def serve (gate : Gate Id) (input output : IO.FS.Stream) : IO Unit := do
  let text ← input.getLine
  unless text.isEmpty do
    let reply ← match exchangeOfLine? text with
      | none => pure (Reply.ofError .malformedMessage)
      | some (now, document) => do
        let moment : Moment := { now, random := ← randomBits }
        pure (gate.handle moment {} document).run
    output.putStrLn reply.line
    output.flush
    serve gate input output

end StorageGate

open StorageGate in
/-- Runs the program. -/
def main (args : List String) : IO UInt32 := do
  match CommandLine.parse args with
  | .error .help =>
    IO.println usage
    return 0
  | .error e =>
    IO.eprintln e.message
    return 2
  | .ok line =>
    let config ← match line.config with
      | some path => readPath path
      | none => pure .missing
    let gate := line.gate fun _ => config
    if let some cause := gate.initializationError? then
      IO.eprintln (line.logLine cause.message)
    IO.eprintln (line.logLine ("answering for " ++ line.path ++ " at " ++ line.listen.text))
    serve gate (← IO.getStdin) (← IO.getStdout)
    return 0
