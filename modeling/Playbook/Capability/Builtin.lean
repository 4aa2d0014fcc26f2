import Playbook.Capability
import Playbook.Command.Shell
import Playbook.Json.Reader
import Playbook.Lookup
import Playbook.Number.Shortest
import Playbook.Text.Encoding

/-!
# Built-in capabilities

Setting properties and identifiers, pausing, extracting values from JSON texts, reading files of
the workspace and running commands.
-/

namespace Playbook.Capability

def param (params : List (String × Value)) (name : String) : Value :=
  (Ordered.find? name params).getD .null

/-- The text of a parameter that is read as a text. -/
def textParam (params : List (String × Value)) (name : String) : String :=
  (param params name).text?.getD ""

/-- An effect without delay. -/
def immediately (result : Fallible Value) : Effect := { result := result }

/-- The failure of an operation. -/
def failed {α : Type} (message : String) : Fallible α := .error (.plain .capability message)

/-- Does nothing with any parameters. -/
def empty : Capability where
  name := "empty"
  opens := true
  behaviour := fun _ _ => immediately (.ok .null)

/-- The rule that undeclared names are property keys. -/
def propertyKeyRule : NameRule where
  source := Name.propertyKeyPattern
  allows := fun name => (Name.matchPropertyKey? name.toList).isSome

/-- Exports every parameter. -/
def set : Capability where
  name := "set"
  opens := true
  nameRule := some propertyKeyRule
  behaviour := fun params _ => immediately (.ok (.record params))

/-- A capability that exports one text, its parameter `value`, under its own name. -/
def identifier (name : String) : Capability where
  name := name
  parameters := [("value", { type := .text, aliases := [name], required := true })]
  behaviour := fun params _ => immediately (.ok (.record [(name, param params "value")]))

/-- Sets the identifier of a scenario. -/
def id : Capability := identifier "id"

/-- Sets the description of a scenario. -/
def desc : Capability := identifier "desc"

/-- The integer of a parameter that is read as one. -/
def integerParam (params : List (String × Value)) (name : String) : Int :=
  match param params name with
  | .int n => n
  | _ => 0

def secondsOf (milliseconds : Int) : Except Fault Binary64 :=
  match Binary64.ofRatio (milliseconds < 0) milliseconds.natAbs 1000 with
  | .infinite _ => .error .quotientRange
  | x => .ok x

/-- What a pause ends with. -/
def pauseResult (milliseconds : Int) (seconds : Binary64) (context : Context) :
    Fallible Value := do
  let shown ← (intText milliseconds).mapError Failure.fault
  if milliseconds < 0 then failed ("Negative sleep duration: " ++ shown)
  else if context.cancelled then failed "Sleep interrupted by cancellation"
  else if context.timeout.lt seconds then
    throw (.plain .timeout ("Sleep of " ++ shown ++ " ms exceeds the step timeout of " ++
      context.timeout.briefText ++ " s"))
  else return .null

/-- Pauses, at most for the time of the step. -/
def pause (milliseconds : Int) (context : Context) : Effect :=
  match secondsOf milliseconds with
  | .error fault => immediately (.error (.fault fault))
  | .ok seconds =>
      let taken :=
        if milliseconds < 0 || context.cancelled then .zero false
        else if context.timeout.lt seconds then context.timeout
        else seconds
      { result := pauseResult milliseconds seconds context, seconds := taken }

/-- Pauses for a number of milliseconds. -/
def sleep : Capability where
  name := "sleep"
  parameters := [("duration", { type := .integer, aliases := ["ms"], required := true })]
  behaviour := fun params context => pause (integerParam params "duration") context

/-- The value that a source stands for: texts are read as JSON. -/
def sourceValue (source : Value) : Fallible Value :=
  match source with
  | .text s =>
      match Json.read s with
      | .ok v => .ok v
      | .error (.integerTooLong digits) => .error (.fault (.digitsRead digits))
      | .error fault => failed ("Source is not valid JSON: " ++ fault.message)
  | v => .ok v

/-- The value at a path in a source, under a key. -/
def extractResult (params : List (String × Value)) : Fallible Value := do
  let source ← sourceValue (param params "source")
  let path := textParam params "path"
  let lookup := Lookup.ofPath path
  let found ← (lookup.findAll source).mapError Failure.fault
  if found.isEmpty then failed ("Path " ++ Text.quoted path ++ " not found in source")
  else
    let v ← (lookup.resolve source).mapError Failure.fault
    return .record [(textParam params "into", v)]

/-- Extracts a value from JSON. -/
def extract : Capability where
  name := "extract"
  parameters :=
    [("source", { required := true }), ("path", { type := .text, required := true }),
      ("into", { type := .text, required := true })]
  behaviour := fun params _ => immediately (extractResult params)

/-- Whether a fault is one of reading a file, which the operation reports as its own. -/
def isReadFault : Fault → Bool
  | .system .. | .undecodable _ => true
  | _ => false

/-- A reading fault as the failure of an operation, with what could not be done. -/
def reported {α : Type} (what : String) (result : Except Fault α) : Fallible α :=
  match result with
  | .ok a => .ok a
  | .error fault =>
      if isReadFault fault then failed (what ++ ": " ++ fault.message) else .error (.fault fault)

/-- The text of a file of the workspace, under a key. -/
def readFileResult (params : List (String × Value)) (context : Context) : Fallible Value := do
  let path := textParam params "path"
  let given := textParam params "encoding"
  let content ← reported ("Can not read file " ++ Text.quoted path) (do
    let bytes ← context.files.bytes (context.workspace.join (.ofText path))
    let encoding ← Text.Encoding.find (if given.isEmpty then "utf-8" else given)
    encoding.read bytes)
  return .record [(textParam params "into", .text content)]

def readFile : Capability where
  name := "readFile"
  parameters :=
    [("path", { type := .text, aliases := ["file"], required := true }),
      ("into", { type := .text, required := true }),
      ("encoding", { type := .text, fallback := .text "utf-8" })]
  behaviour := fun params context => immediately (readFileResult params context)

/-- Seconds between two looks at a running command. -/
def pollSeconds : Binary64 := .ofRatio false 5 100

def start (command : Value) (around : Command.Surroundings) : Except Fault Command.Finish :=
  match command with
  | .text line => Command.runShell around line
  | v => Command.runArguments around ((v.items?.getD []).filterMap Value.text?)

def outputText (bytes : List UInt8) : Fallible String :=
  (Text.Encoding.utf8.read bytes).mapError .fault

/-- What a command that has come to its end exports. -/
def finishResult (check : Bool) (finish : Command.Finish) : Fallible Value := do
  let output ← outputText finish.output
  let errors ← outputText finish.errors
  if check && finish.code != 0 then
    failed ("Command exited with code " ++ toString finish.code ++ ": " ++ Text.strip errors)
  else
    let shown (s : String) : Value := .text (Text.dropEndWhile (fun c => c == '\r' || c == '\n') s)
    return .record [("stdout", shown output), ("stderr", shown errors),
      ("returncode", .int finish.code)]

/-- Waits for a command, which may be interrupted or run out of time. -/
def await (check : Bool) (context : Context) (finish : Command.Finish) : Effect :=
  let outlasts := pollSeconds.lt finish.seconds
  if outlasts && context.cancelled then
    { result := failed "Command interrupted by cancellation", seconds := pollSeconds }
  else if outlasts && context.timeout.lt finish.seconds then
    { result := .error (.plain .timeout
        ("Command timed out after " ++ context.timeout.briefText ++ " s"))
      seconds := context.timeout }
  else { result := finishResult check finish, seconds := finish.seconds }

def runCommand (params : List (String × Value)) (context : Context) : Effect :=
  let command := param params "command"
  let directory := textParam params "cwd"
  let around : Command.Surroundings :=
    ⟨context.files,
      if directory.isEmpty then context.workspace else context.workspace.join (.ofText directory)⟩
  match reported ("Can not run command " ++ (command.literal.toOption.getD ""))
      (start command around) with
  | .ok finish => await (param params "check").isTrue context finish
  | .error failure => immediately (.error failure)

/-- Runs a command and exports its outputs. -/
def shell : Capability where
  name := "shell"
  parameters :=
    [("command", { type := .either .text (.listOf .text), aliases := ["cmd"], required := true }),
      ("cwd", { type := .text }),
      ("check", { type := .truth, fallback := .bool false })]
  behaviour := runCommand

/-- The capabilities that are always there. -/
def builtin : List Capability := [empty, set, id, desc, sleep, extract, readFile, shell]

end Playbook.Capability
