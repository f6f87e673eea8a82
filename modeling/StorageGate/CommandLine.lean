import StorageGate.Config
import StorageGate.Files
import StorageGate.SocketAddress
/-!
# The command line

Options take the next argument as their value, or what is attached to them; each may be given once.  A value is judged
when the next option comes or the arguments end, so a fault in the shape of a later argument can be reported before it.
-/
namespace StorageGate

/-- What the arguments say. -/
structure CommandLine where
  /-- The file with the configuration. -/
  config : Option String := none
  listen : SocketAddress := { ip := .v4 0x7F000001, port := 8080 }
  path : String := "/gatekeeper"
  jsonLogs : Bool := false
deriving DecidableEq, Repr

/-- Why arguments are not taken. -/
inductive UsageError where
  /-- Help is asked for. -/
  | help
  | unknownArgument
  | missingValue
  | invalidAddress
  | repeated
  /-- A value is attached to an option that takes none. -/
  | unexpectedValue
deriving DecidableEq, Repr

namespace CommandLine

/-- The options that take a value. -/
inductive ValueOption where
  | config
  | listen
  | path
deriving DecidableEq, Repr

/-- The option of a long name. -/
def ValueOption.ofLong? : List Char → Option ValueOption := fun name =>
  [("config", config), ("listen", listen), ("path", path)].findSome? fun e =>
    if name = e.1.toList then some e.2 else none

/-- The option of a letter. -/
def ValueOption.ofShort? : Char → Option ValueOption
  | 'c' => some config
  | 'l' => some listen
  | 'p' => some path
  | _ => none

/-- How far the arguments are read. -/
structure Progress where
  line : CommandLine := {}
  /-- The options that have their value. -/
  settled : List ValueOption := []
  /-- The last option, if its value is not judged yet, and the value, if it has come. -/
  pending : Option (ValueOption × Option (List Char)) := none

namespace Progress

/-- Gives an option its value. -/
def assign (p : Progress) (option : ValueOption) (value : List Char) : Except UsageError Progress :=
  if p.settled.contains option then .error .repeated
  else
    let done (line : CommandLine) : Progress := { line, settled := option :: p.settled, pending := none }
    match option with
    | .config =>
      if value.isEmpty then .error .missingValue
      else .ok (done { p.line with config := some (String.ofList value) })
    | .listen =>
      match SocketAddress.parse? (String.ofList value) with
      | some listen => .ok (done { p.line with listen })
      | none => .error .invalidAddress
    | .path => .ok (done { p.line with path := String.ofList value })

/-- Judges the value that is pending. -/
def settle (p : Progress) : Except UsageError Progress :=
  match p.pending with
  | none => .ok p
  | some (_, none) => .error .missingValue
  | some (option, some value) => p.assign option value

/-- Takes an option, with a value if one is attached. -/
def takeOption (p : Progress) (option : ValueOption) (attached : Option (List Char)) : Except UsageError Progress := do
  let p ← p.settle
  match attached with
  | some value => p.assign option value
  | none => return { p with pending := some (option, none) }

/-- Takes a long option, after its two hyphens. -/
def takeLong (p : Progress) (text : List Char) : Except UsageError Progress :=
  let name := text.takeWhile (· != '=')
  let attached := match text.dropWhile (· != '=') with
    | [] => none
    | _ :: value => some value
  match ValueOption.ofLong? name with
  | some option => p.takeOption option attached
  | none =>
    if name = "json-logs".toList ∨ name = "help".toList then
      if attached.isSome then .error .unexpectedValue
      else do
        let p ← p.settle
        if name = "help".toList then .error .help
        else if p.line.jsonLogs then .error .repeated
        else return { p with line := { p.line with jsonLogs := true } }
    else .error .unknownArgument

/-- Takes a short option, after its hyphen. -/
def takeShort (p : Progress) (letter : Char) (attached : List Char) : Except UsageError Progress :=
  match ValueOption.ofShort? letter with
  | some option =>
    p.takeOption option (match attached with
      | [] => none
      | '=' :: value => some value
      | value => some value)
  | none => if letter = 'h' then do let _ ← p.settle; .error .help else .error .unknownArgument

/-- Takes an argument that is no option: the value that is waited for. -/
def takeValue (p : Progress) (value : List Char) : Except UsageError Progress :=
  match p.pending with
  | some (option, none) => .ok { p with pending := some (option, some value) }
  | _ => .error .unknownArgument

/-- Takes the arguments in order.  After two hyphens alone none may come. -/
def run (p : Progress) : List String → Except UsageError Progress
  | [] => p.settle
  | arg :: rest =>
    match arg.toList with
    | ['-', '-'] => if rest.isEmpty then p.settle else .error .unknownArgument
    | '-' :: '-' :: text => do run (← p.takeLong text) rest
    | '-' :: letter :: attached => do run (← p.takeShort letter attached) rest
    | value => do run (← p.takeValue value) rest

end Progress

/-- Reads arguments. -/
def parse (args : List String) : Except UsageError CommandLine :=
  (Progress.run {} args).map Progress.line

/-- The configuration that the command line asks for, given what reading a path gives. -/
def loadConfig (line : CommandLine) (read : String → Reading) : Except InitializationError Config :=
  match line.config with
  | none => .ok {}
  | some path =>
    match read path with
    | .text content => Config.parse content.toList
    | .missing => .error (.missingFile path)
    | .unreadable => .error (.unreadableFile path)

end CommandLine
end StorageGate
