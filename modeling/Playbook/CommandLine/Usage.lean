import Playbook.CommandLine.Switch
import Playbook.Text.Quoted
import Playbook.Text.Resemblance

/-!
# Usage

What can be wrong with the arguments of a call, how it is told, and the help texts.
-/

namespace Playbook.CommandLine

def programName : String := "cli"

/-- Something wrong with the arguments. -/
inductive UsageFault where
  | unknownSwitch (name : String) (similar : List String)
  | unknownCommand (name : String) (similar : List String)
  | commandMissing
  /-- A switch without the value that it takes. -/
  | valueMissing (name : String)
  /-- A value for a switch that takes none. -/
  | valueRefused (name : String)
  | invalidValue (switch : Switch) (message : String)
  | extraArguments (arguments : List String)
deriving DecidableEq, Repr

namespace UsageFault

def suggestion (similar : List String) : String :=
  match similar with
  | [] => ""
  | [only] => " Did you mean " ++ Text.quoted only ++ "?"
  | several =>
      " (Did you mean one of: " ++
        Text.join ", " ((several.mergeSort fun a b => a ≤ b).map Text.quoted) ++ "?)"

def message : UsageFault → String
  | .unknownSwitch name similar =>
      "No such option " ++ Text.quoted name ++ "." ++ suggestion similar
  | .unknownCommand name similar =>
      "No such command " ++ Text.quoted name ++ "." ++ suggestion similar
  | .commandMissing => "Missing command."
  | .valueMissing name => "Option " ++ Text.quoted name ++ " requires an argument."
  | .valueRefused name => "Option " ++ Text.quoted name ++ " does not take a value."
  | .invalidValue switch message =>
      "Invalid value for " ++
        Text.join " / " (switch.names.map fun name => "'" ++ name ++ "'") ++ ": " ++ message
  | .extraArguments [argument] => "Got unexpected extra argument (" ++ argument ++ ")"
  | .extraArguments arguments =>
      "Got unexpected extra arguments (" ++ Text.join " " arguments ++ ")"

end UsageFault

/-- How a command, or the program, is named in a call. -/
def callPath (command : Option Command) : String :=
  programName ++ ((command.map fun c => " " ++ c.name).getD "")

def usageLine (command : Option Command) : String :=
  "Usage: " ++ callPath command ++
    (if command.isSome then " [OPTIONS]" else " [OPTIONS] COMMAND [ARGS]...")

/-- What is told of a fault. -/
def UsageFault.report (command : Option Command) (fault : UsageFault) : String :=
  usageLine command ++ "\nTry '" ++ callPath command ++ " --help' for help.\n\nError: " ++
    fault.message ++ "\n"

/-- What a command does, and its switches. -/
def helpBody : Option Command → List String
  | none =>
      ["  Scenario runner for YAML-based test definitions.", "", "Options:",
        "  --help  Show this message and exit.", "", "Commands:",
        "  kinds     List registered step kinds and assertion operators.",
        "  run       Run a scenario and print its report.",
        "  validate  Load a scenario without executing it."]
  | some .run =>
      ["  Run a scenario and print its report.", "", "Options:",
        "  -t, --test FILE            Scenario path relative to the workspace.",
        "  -w, --workspace DIRECTORY  Workspace root directory.  [default: .]",
        "  -p, --properties FILE      Properties file overriding the workspace",
        "                             local.properties.",
        "  --timeout FLOAT RANGE      Default step timeout in seconds, greater than",
        "                             zero.  [x>0]",
        "  -v, --verbose              Log execution details to standard error.",
        "  --help                     Show this message and exit."]
  | some .validate =>
      ["  Load a scenario without executing it.", "", "Options:",
        "  -t, --test FILE            Scenario path relative to the workspace.",
        "  -w, --workspace DIRECTORY  Workspace root directory.  [default: .]",
        "  --help                     Show this message and exit."]
  | some .kinds =>
      ["  List registered step kinds and assertion operators.", "", "Options:",
        "  --help  Show this message and exit."]

/-- The help text of a command, or of the program. -/
def helpText (command : Option Command) : String :=
  usageLine command ++ "\n\n" ++ String.join ((helpBody command).map (· ++ "\n"))

end Playbook.CommandLine
