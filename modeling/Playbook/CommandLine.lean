import Playbook.CommandLine.Arguments
import Playbook.Diagnostic.Text
import Playbook.Report
import Playbook.Runner

/-!
# Command line

A call of the program runs a scenario and prints its report, loads one without running it, or
lists what steps may be of. The exit code of a run tells its status.
-/

namespace Playbook.CommandLine

/-- What a call finds around it. -/
structure Surroundings where
  environment : List (String × String) := []
  files : Files := ⟨[], []⟩
  entryPoints : List EntryPoint := []
  /-- Lines that are typed when something is asked. -/
  typed : List String := []

/-- What a call ends with: its output, what it tells apart from that, its exit code, and a
failure that it does not handle. -/
structure Ending where
  output : String := ""
  errors : String := ""
  code : Nat := 0
  failure : Option Failure := none

/-- Why a call ends before its command is carried out. -/
inductive Stop where
  | help
  | usage (fault : UsageFault)
  | failure (failure : Failure)
  /-- There is no answer to a question. -/
  | unanswered
deriving Repr

def exitCode : Status → Nat
  | .pass => 0
  | .fail => 1
  | .error => 2

/-- The choices that the switches of a call make. -/
structure Choices where
  test : Option FilePath := none
  workspace : FilePath := .ofText ""
  properties : Option FilePath := none
  timeout : Option Binary64 := none
deriving Repr

/-- What is found at the text of a path. A path that ends in a slash or a point is one of a
directory. -/
def found (files : Files) (text : String) : Except Files.AccessFault Files.Entry := do
  if text.isEmpty then throw .missing
  else
    match ← files.entry (.ofText text) with
    | .file content =>
        match (Text.splitOnChar '/' text.toList).getLast? with
        | some [] | some ['.'] => throw .notDirectory
        | _ => return .file content
    | .directory => return .directory

/-- The failure of a path that no file can have. -/
def nullCharacter : Failure := .fault (Files.AccessFault.nullCharacter.at "")

/-- A path that must not lead to a directory. -/
def filePath (files : Files) (switch : Switch) (text : String) : Except Stop FilePath :=
  match found files text with
  | .ok .directory =>
      .error (.usage (.invalidValue switch ("File " ++ Text.quoted text ++ " is a directory.")))
  | .error .nullCharacter => .error (.failure nullCharacter)
  | _ => .ok (.ofText text)

/-- A path that must lead to a directory. -/
def directoryPath (files : Files) (switch : Switch) (text : String) : Except Stop FilePath :=
  match found files text with
  | .ok .directory => .ok (.ofText text)
  | .ok (.file _) =>
      .error (.usage (.invalidValue switch ("Directory " ++ Text.quoted text ++ " is a file.")))
  | .error .nullCharacter => .error (.failure nullCharacter)
  | .error _ =>
      .error (.usage
        (.invalidValue switch ("Directory " ++ Text.quoted text ++ " does not exist.")))

/-- A number above zero. -/
def positiveNumber (switch : Switch) (text : String) : Except Stop Binary64 :=
  match Numeral.readBinary64 text.toList with
  | none =>
      .error (.usage (.invalidValue switch (Text.quoted text ++ " is not a valid float range.")))
  | some x =>
      if x.le (.zero false) then
        .error (.usage (.invalidValue switch (x.text ++ " is not in the range x>0.")))
      else .ok x

def choose (files : Files) (choices : Choices) (switch : Switch) (value : String) :
    Except Stop Choices :=
  match switch with
  | .test => do return { choices with test := some (← filePath files switch value) }
  | .workspace => do return { choices with workspace := ← directoryPath files switch value }
  | .properties => do return { choices with properties := some (← filePath files switch value) }
  | .timeout => do return { choices with timeout := some (← positiveNumber switch value) }
  | .verbose => .ok choices
  | .help => .ok choices

def chooseAll (files : Files) : Choices → List (Switch × String) → Except Stop Choices
  | choices, [] => .ok choices
  | choices, (switch, value) :: rest => do
      chooseAll files (← choose files choices switch value) rest

/-- Asks for a scenario until there is an answer that can be taken. The text that is shown
comes with the answer. -/
def ask (files : Files) (prompt : String) : String → List String → String × Except Stop FilePath
  | shown, [] => (shown ++ prompt, .error .unanswered)
  | shown, answer :: rest =>
      let shown := shown ++ prompt ++ answer ++ "\n"
      if answer.isEmpty then ask files prompt shown rest
      else
        match filePath files .test answer with
        | .error (.usage (.invalidValue _ message)) =>
            ask files prompt (shown ++ "Error: " ++ message ++ "\n") rest
        | result => (shown, result)

/-- The choices of a call, with the scenario asked for if it is not given, and what has been
shown. -/
def readChoices (around : Surroundings) (command : Command) (arguments : Arguments) :
    String × Except Stop Choices :=
  match chooseAll around.files {} arguments.values with
  | .error stop => ("", .error stop)
  | .ok choices =>
      if command = .kinds || choices.test.isSome then ("", .ok choices)
      else
        let (shown, answer) := ask around.files command.prompt "" around.typed
        (shown, answer.map fun path => { choices with test := some path })

def noPlain (arguments : Arguments) : Except Stop Unit :=
  if arguments.plain.isEmpty then .ok () else .error (.usage (.extraArguments arguments.plain))

/-- Lines of an output. -/
def printed (lines : List String) : String := String.join (lines.map (· ++ "\n"))

/-- The settings of a call. -/
def settingsFor (around : Surroundings) (timeout : Option Binary64) : Fallible Settings :=
  (Settings.read around.environment
    ((timeout.map fun x => ("default_timeout", Value.float x)).toList)).mapError .issue

/-- The registry of a call. -/
def registryFor (around : Surroundings) (settings : Settings) : Fallible Registry :=
  (Registry.ofEntryPoints settings.strictPlugins around.entryPoints).map Prod.fst

/-- The runner of a call, given its settings and its registry. -/
def runnerWith (around : Surroundings) (choices : Choices) (settings : Settings)
    (registry : Registry) : Runner where
  engine := ⟨registry, choices.workspace, around.files, settings⟩
  propertiesFile := choices.properties

/-- The path of the scenario of a call. -/
def Choices.path (choices : Choices) : String := (choices.test.map FilePath.text).getD ""

/-- The ending of a call that has run a scenario. -/
def endingFor (result : Result) : Ending :=
  { output := printed result.reportLines, code := exitCode result.status }

/-- Runs a scenario and prints its report. -/
def runCommand (around : Surroundings) (choices : Choices) : Fallible Ending := do
  let settings ← settingsFor around choices.timeout
  let registry ← registryFor around settings
  let (result, _) ← (runnerWith around choices settings registry).run .never false choices.path
  return endingFor result

/-- Loads a scenario without running it. -/
def validateCommand (around : Surroundings) (choices : Choices) : Fallible Ending := do
  let settings ← settingsFor around none
  let registry ← registryFor around settings
  match Scenario.load registry .least around.files choices.workspace
      (choices.test.getD (.ofText "")) with
  | .ok scenario =>
      let line := scenario.name ++ ": " ++ toString scenario.steps.length ++ " steps"
      return { output := printed [line] }
  | .error (.diagnostic d) =>
      let told ← d.text.mapError Failure.fault
      return { errors := printed [told], code := exitCode .error }
  | .error failure => throw failure

/-- Names in order. -/
def sorted {α : Type} (entries : List (String × α)) : List (String × α) :=
  entries.mergeSort fun a b => a.1 ≤ b.1

def comparatorLine (name : String) (comparator : Comparator) : String :=
  "assert " ++ name ++
    (if comparator.aliases.isEmpty then "" else
      " (" ++ Text.join ", " comparator.aliases ++ ")")

/-- Lists the kinds of steps and the operators of assertions. -/
def kindsCommand (around : Surroundings) : Fallible Ending := do
  let registry ← registryFor around (← settingsFor around none)
  let actions := (sorted registry.operations).map fun entry => "action " ++ entry.1
  let assertions := (sorted registry.comparators).map fun entry => comparatorLine entry.1 entry.2
  return { output := printed (actions ++ assertions) }

/-- Carries out a command. -/
def perform (around : Surroundings) (choices : Choices) : Command → Fallible Ending
  | .run => runCommand around choices
  | .validate => validateCommand around choices
  | .kinds => kindsCommand around

/-- The ending of a call that does not get to its command. -/
def Stop.ending (command : Option Command) : Stop → Ending
  | .help => { output := helpText command }
  | .usage fault => { errors := fault.report command, code := 2 }
  | .failure cause => { code := 1, failure := some cause }
  | .unanswered => { errors := "Aborted!\n", code := 1 }

/-- The ending of a command that may fail. -/
def endingOf : Fallible Ending → Ending
  | .ok ending => ending
  | .error failure => { code := 1, failure := some failure }

def callCommand (around : Surroundings) (command : Command) (arguments : List String) : Ending :=
  match Arguments.read command arguments with
  | .error fault => (Stop.usage fault).ending command
  | .ok given =>
      if given.has .help then Stop.help.ending command
      else
        let (shown, choices) := readChoices around command given
        let settled := choices.bind fun choices => (noPlain given).map fun _ => choices
        let ending :=
          match settled with
          | .error stop => stop.ending command
          | .ok choices => endingOf (perform around choices command)
        { ending with output := shown ++ ending.output }

/-- Whether a call may ask for something. -/
def mayAsk (arguments : List String) : Bool :=
  match Call.read arguments with
  | .ok (.of command rest) =>
      match Arguments.read command rest with
      | .ok given => command != .kinds && !given.has .test && !given.has .help
      | .error _ => false
  | _ => false

/-- Calls the program. -/
def call (around : Surroundings) (arguments : List String) : Ending :=
  match Call.read arguments with
  | .error fault => (Stop.usage fault).ending none
  | .ok .nothing => { errors := helpText none, code := 2 }
  | .ok .help => Stop.help.ending none
  | .ok (.of command arguments) => callCommand around command arguments

end Playbook.CommandLine
