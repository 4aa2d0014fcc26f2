import Playbook.Field.Record

/-!
# Settings

How a run behaves: time limits, when it stops, and where its properties are. Settings are given
by name or taken from variables of the environment; names count without case, and what is given
wins over the environment.
-/

namespace Playbook

/-- The settings of a run. -/
structure Settings where
  /-- Seconds that a step may take if it does not say so itself. -/
  defaultTimeout : Binary64 := .ofRatio false 30 1
  /-- Seconds beyond its time after which a step is abandoned. -/
  timeoutGrace : Binary64 := .ofRatio false 1 1
  abortOnError : Bool := true
  abortOnFailure : Bool := false
  /-- Whether issues of plugins are errors. -/
  strictPlugins : Bool := false
  /-- The properties file of a workspace. -/
  localProperties : String := "local.properties"
deriving DecidableEq, Repr, Inhabited

namespace Settings

open Playbook.Field

/-- What names of their variables begin with, in lower case. -/
def variableStart : String := "stepwise_"

/-- Entries with their names in lower case; the last one of a name counts. -/
def lowered (entries : List (String × Value)) : List (Value × Value) :=
  Ordered.ofEntries (entries.map fun entry => (Value.text (Text.lower entry.1), entry.2))

/-- The value of a setting: the one that is given, or that of its variable. -/
def lookup? (environment given : List (Value × Value)) (name : String) : Option Value :=
  (Value.field? name given).or (Value.field? (variableStart ++ name) environment)

def entriesOf (environment given : List (Value × Value)) (names : List String) :
    List (Value × Value) :=
  names.filterMap fun name => (lookup? environment given name).map fun v => (.text name, v)

/-- Names of all settings. -/
def names : List String :=
  ["default_timeout", "timeout_grace", "abort_on_error", "abort_on_failure", "strict_plugins",
    "local_properties"]

def fields (entries : List (Value × Value)) : Checked Settings := do
  let usual : Settings := {}
  let defaultTimeout ← withDefault entries ["default_timeout"] positive usual.defaultTimeout
  let timeoutGrace ← withDefault entries ["timeout_grace"] nonnegative usual.timeoutGrace
  let abortOnError ← withDefault entries ["abort_on_error"] truth usual.abortOnError
  let abortOnFailure ← withDefault entries ["abort_on_failure"] truth usual.abortOnFailure
  let strictPlugins ← withDefault entries ["strict_plugins"] truth usual.strictPlugins
  let localProperties ← withDefault entries ["local_properties"] text usual.localProperties
  return ⟨defaultTimeout, timeoutGrace, abortOnError, abortOnFailure, strictPlugins,
    localProperties⟩

/-- Settings from the variables of the environment and from what is given. -/
def read (environment : List (String × String)) (given : List (String × Value)) :
    Checked Settings :=
  let environment := lowered (environment.map fun entry => (entry.1, .text entry.2))
  fields (entriesOf environment (lowered given) names)

end Settings

end Playbook
