import Playbook.Text.Lines

/-!
# Commands and switches

The commands of the program and the switches that they take.
-/

namespace Playbook.CommandLine

/-- A switch of a command. -/
inductive Switch where
  | test
  | workspace
  | properties
  | timeout
  | verbose
  | help
deriving DecidableEq, Repr

namespace Switch

def names : Switch → List String
  | .test => ["-t", "--test"]
  | .workspace => ["-w", "--workspace"]
  | .properties => ["-p", "--properties"]
  | .timeout => ["--timeout"]
  | .verbose => ["-v", "--verbose"]
  | .help => ["--help"]

def takesValue : Switch → Bool
  | .test | .workspace | .properties | .timeout => true
  | .verbose | .help => false

end Switch

/-- A command of the program. -/
inductive Command where
  | run
  | validate
  | kinds
deriving DecidableEq, Repr

namespace Command

def all : List Command := [.kinds, .run, .validate]

def name : Command → String
  | .run => "run"
  | .validate => "validate"
  | .kinds => "kinds"

def named? (name : String) : Option Command := all.find? fun command => command.name == name

def switches : Command → List Switch
  | .run => [.test, .workspace, .properties, .timeout, .verbose, .help]
  | .validate => [.test, .workspace, .help]
  | .kinds => [.help]

/-- What is asked for if no scenario is given. -/
def prompt : Command → String
  | .run => "Test to run: "
  | .validate => "Test to validate: "
  | .kinds => ""

end Command

end Playbook.CommandLine
