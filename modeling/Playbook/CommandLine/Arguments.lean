import Playbook.CommandLine.Usage
import Playbook.Ordered

/-!
# Arguments

The arguments of a call are switches, some with values, and plain arguments. A value stands
behind its switch, in the next argument or in the same one. Letters of switches may share one
dash, and two dashes alone end the switches.
-/

namespace Playbook.CommandLine

/-- What one argument says. A switch may wait for its value in the next argument. -/
inductive Token where
  | plain
  | endOfSwitches
  | complete (given : List (Switch × String))
  | waiting (given : List (Switch × String)) (switch : Switch) (name : String)
deriving DecidableEq, Repr

def switchNamed? (known : List Switch) (name : String) : Option Switch :=
  known.find? fun switch => switch.names.contains name

def isLetterName (name : String) : Bool := Text.count name == 2 && !name.startsWith "--"

def fullNames (known : List Switch) : List String :=
  (known.flatMap Switch.names).filter fun name => !isLetterName name

/-- The parts of an argument before and behind its first equals sign. -/
def splitValue (cs : List Char) : String × Option String :=
  match cs.dropWhile (· != '=') with
  | [] => (String.ofList cs, none)
  | _ :: value => (String.ofList (cs.takeWhile (· != '=')), some (String.ofList value))

/-- Reads a switch that is given by its full name. -/
def readFullName (known : List Switch) (cs : List Char) : Except UsageFault Token :=
  let (name, value) := splitValue cs
  match switchNamed? known name, value with
  | none, _ => .error (.unknownSwitch name (Text.similar name (fullNames known)))
  | some switch, some value =>
      if switch.takesValue then .ok (.complete [(switch, value)])
      else .error (.valueRefused name)
  | some switch, none =>
      if switch.takesValue then .ok (.waiting [] switch name) else .ok (.complete [(switch, "")])

/-- Reads letters of switches behind one dash. What follows a letter that takes a value is its
value. -/
def readLetters (known : List Switch) : List (Switch × String) → List Char →
    Except UsageFault Token
  | given, [] => .ok (.complete given)
  | given, c :: rest =>
      let name := String.ofList ['-', c]
      match switchNamed? known name with
      | none => .error (.unknownSwitch name [])
      | some switch =>
          if !switch.takesValue then readLetters known (given ++ [(switch, "")]) rest
          else if rest.isEmpty then .ok (.waiting given switch name)
          else .ok (.complete (given ++ [(switch, String.ofList rest)]))

def readToken (known : List Switch) (argument : String) : Except UsageFault Token :=
  match argument.toList with
  | ['-', '-'] => .ok .endOfSwitches
  | '-' :: '-' :: rest => readFullName known ('-' :: '-' :: rest)
  | '-' :: c :: rest => readLetters known [] (c :: rest)
  | _ => .ok .plain

/-- Switches with their values, in the order they are given, and the plain arguments. -/
structure Arguments where
  given : List (Switch × String) := []
  plain : List String := []
deriving DecidableEq, Repr, Inhabited

/-- Reads the arguments of a command behind those that have been read. -/
def Arguments.readOnto (known : List Switch) :
    Arguments → List String → Except UsageFault Arguments
  | arguments, [] => .ok arguments
  | arguments, argument :: rest => do
      match ← readToken known argument with
      | .plain => readOnto known { arguments with plain := arguments.plain ++ [argument] } rest
      | .endOfSwitches => return { arguments with plain := arguments.plain ++ rest }
      | .complete given => readOnto known { arguments with given := arguments.given ++ given } rest
      | .waiting given switch name =>
          match rest with
          | [] => throw (.valueMissing name)
          | value :: rest =>
              readOnto known
                { arguments with given := arguments.given ++ given ++ [(switch, value)] } rest

def Arguments.read (command : Command) (arguments : List String) :
    Except UsageFault Arguments :=
  readOnto command.switches {} arguments

def Arguments.has (arguments : Arguments) (switch : Switch) : Bool :=
  arguments.given.any fun entry => entry.1 == switch

/-- Switches in the order of their first places, with their last values. -/
def Arguments.values (arguments : Arguments) : List (Switch × String) :=
  Ordered.ofEntries arguments.given

/-- What is called: a command with its arguments, or a text of help. -/
inductive Call where
  | nothing
  | help
  | of (command : Command) (arguments : List String)
deriving DecidableEq, Repr

/-- The command of a call. -/
def Call.ofName (name : String) (arguments : List String) : Except UsageFault Call :=
  match Command.named? name with
  | some command => .ok (.of command arguments)
  | none => .error (.unknownCommand name (Text.similar name (Command.all.map Command.name)))

def Call.read : List String → Except UsageFault Call
  | [] => .ok .nothing
  | argument :: rest => do
      match ← readToken [.help] argument with
      | .plain => ofName argument rest
      | .endOfSwitches =>
          match rest with
          | [] => throw .commandMissing
          | name :: rest => ofName name rest
      | .complete _ | .waiting .. => return .help

end Playbook.CommandLine
