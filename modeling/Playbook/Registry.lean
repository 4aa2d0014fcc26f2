import Playbook.Capability.Builtin
import Playbook.Plugin

/-!
# Registry

The operations and comparators that a run knows. Registering over an existing name replaces it
and is an issue, and so is an extension that cannot be used. A relaxed registry warns of issues,
a strict one fails with the first.
-/

namespace Playbook

/-- Operations by kind, comparators by name, and canonical names of comparators by name or
alias. -/
structure Registry where
  operations : List (String × Operation) := []
  comparators : List (String × Comparator) := []
  operators : List (String × String) := []

/-- What is registered: an extension with the source that messages name, or only an issue. -/
inductive Registration where
  | capability (declared : Capability) (source : String) (plugin : Option String)
  | comparator (declared : Comparator) (source : String)
  | issue (message : String)

/-- What loading an entry point gives. -/
inductive Loaded where
  /-- Loading fails with a message. -/
  | failed (message : String)
  /-- The plugin does not obey its declaration. -/
  | invalid
  /-- Something that is not a plugin, known by the name of its kind. -/
  | other (kind : String)
  | plugin (plugin : Plugin)

/-- A named place that a plugin is loaded from. -/
structure EntryPoint where
  name : String
  source : String
  loaded : Loaded

namespace Registry

/-- The source of capabilities that come from no entry point. -/
def capabilitySource : String := "stepwise.extensions.capabilities"

/-- The source of comparators that come from no entry point. -/
def comparatorSource : String := "stepwise.extensions.comparators"

def operation? (registry : Registry) (kind : String) : Option Operation :=
  Ordered.find? kind registry.operations

/-- The comparator of a name or alias. -/
def comparator? (registry : Registry) (operator : String) : Option Comparator := do
  let name ← Ordered.find? operator registry.operators
  Ordered.find? name registry.comparators

/-- An extension in messages, with its source. -/
def described (sort name source : String) : String :=
  sort ++ " " ++ Text.quoted name ++ " from " ++ Text.quoted source

def shadowing (sort source : String) (taken : List String) (names : List String) : List String :=
  (names.filter taken.contains).map fun name =>
    described sort name source ++ " is shadowing an existing"

/-- The issue of a capability that cannot be compiled. -/
def invalidSchema (kind source : String) (clash : Schema.Clash) : String :=
  described "Capability" kind source ++ " has an invalid schema: " ++ clash.message

/-- One thing that registering does: it reports an issue, or it writes into the registry. -/
inductive Act where
  | report (issue : String)
  | putOperation (kind : String) (operation : Operation)
  | putComparator (comparator : Comparator)
  /-- Gives names and aliases their canonical names. -/
  | putOperators (canonical : List (String × String))

/-- The registry behind an act. -/
def Act.write (registry : Registry) : Act → Registry
  | report _ => registry
  | putOperation kind operation =>
      { registry with operations := Ordered.put kind operation registry.operations }
  | putComparator comparator =>
      { registry with
        comparators := Ordered.put comparator.name comparator registry.comparators }
  | putOperators canonical =>
      { registry with operators := Ordered.putAll registry.operators canonical }

/-- The issue that an act reports. -/
def Act.issue? : Act → Option String
  | report issue => some issue
  | _ => none

/-- What registering a capability does, one thing after the other. -/
def capabilityActs (registry : Registry) (declared : Capability) (source : String)
    (plugin : Option String) : List Act :=
  let kind := declared.qualifiedName plugin
  (shadowing "Capability" source (registry.operations.map Prod.fst) [kind]).map .report ++
    match declared.compile plugin with
    | .ok operation => [.putOperation kind operation]
    | .error clash => [.report (invalidSchema kind source clash)]

/-- What registering a comparator does: all names are looked up before anything is written. -/
def comparatorActs (registry : Registry) (declared : Comparator) (source : String) : List Act :=
  let names := declared.name :: declared.aliases
  (shadowing "Operator" source (registry.operators.map Prod.fst) names).map .report ++
    [.putComparator declared, .putOperators (names.map fun name => (name, declared.name))]

def acts (registry : Registry) : Registration → List Act
  | .capability declared source plugin => registry.capabilityActs declared source plugin
  | .comparator declared source => registry.comparatorActs declared source
  | .issue message => [.report message]

/-- The registry behind several acts, with the issues that they report. -/
def behind (registry : Registry) (acts : List Act) : Registry × List String :=
  (acts.foldl Act.write registry, acts.filterMap Act.issue?)

/-- Registers a capability in relaxed mode; the issues that this raises come with the new
registry. -/
def addCapability (registry : Registry) (declared : Capability) (source : String)
    (plugin : Option String) : Registry × List String :=
  registry.behind (registry.capabilityActs declared source plugin)

/-- Registers a comparator under its name and aliases in relaxed mode. -/
def addComparator (registry : Registry) (declared : Comparator) (source : String) :
    Registry × List String :=
  registry.behind (registry.comparatorActs declared source)

/-- Registers in relaxed mode. -/
def register (registry : Registry) : Registration → Registry × List String
  | .capability declared source plugin => registry.addCapability declared source plugin
  | .comparator declared source => registry.addComparator declared source
  | .issue message => (registry, [message])

/-- How far registrations have come: the registry, the warnings and, in strict mode, the issue
that has stopped them. -/
structure Progress where
  registry : Registry
  warnings : List String := []
  failure : Option String := none

/-- Does one thing, unless registering has been stopped. An issue is a warning in relaxed mode; in
strict mode it stops registering, and what was written before it stays. -/
def Progress.perform (strict : Bool) (progress : Progress) (act : Act) : Progress :=
  match progress.failure, act.issue? with
  | some _, _ => progress
  | none, some issue =>
      if strict then { progress with failure := some issue }
      else { progress with warnings := progress.warnings ++ [issue] }
  | none, none => { progress with registry := act.write progress.registry }

/-- Registers one extension in strict or relaxed mode. -/
def Progress.register (strict : Bool) (progress : Progress) (registration : Registration) :
    Progress :=
  (progress.registry.acts registration).foldl (Progress.perform strict) progress

/-- Registers several extensions, up to the first failure. -/
def registerAll (strict : Bool) (progress : Progress) (registrations : List Registration) :
    Progress :=
  registrations.foldl (Progress.register strict) progress

/-- Registers one extension; what it does to the registry counts if it does not fail. -/
def registerWith (strict : Bool) (registry : Registry) (registration : Registration) :
    Except String (Registry × List String) :=
  let progress := Progress.register strict ⟨registry, [], none⟩ registration
  match progress.failure with
  | some message => .error message
  | none => .ok (progress.registry, progress.warnings)

/-- The error of a strict registry. -/
def failureOf (message : String) : Failure := .plain .plugin message

end Registry

def EntryPoint.registrations (point : EntryPoint) : List Registration :=
  match point.loaded with
  | .failed message =>
      [.issue ("Failed to load plugin " ++ Text.quoted point.name ++ ": " ++ message)]
  | .invalid => [.issue ("Plugin " ++ Text.quoted point.name ++ " is not a valid plugin")]
  | .other kind =>
      [.issue ("Entry point " ++ Text.quoted point.name ++ " provides " ++ kind ++
        ", not a plugin")]
  | .plugin plugin =>
      plugin.capabilities.map
          (fun declared => .capability declared point.source (some plugin.name)) ++
        plugin.comparators.map fun declared => .comparator declared point.source

namespace Registry

/-- The built-in extensions. -/
def builtinRegistrations : List Registration :=
  Capability.builtin.map (fun declared => .capability declared capabilitySource none) ++
    Comparator.builtin.map fun declared => .comparator declared comparatorSource

/-- Registers the built-in extensions and the plugins of entry points. -/
def discover (strict : Bool) (points : List EntryPoint) : Progress :=
  registerAll strict ⟨{}, [], none⟩
    (builtinRegistrations ++ points.flatMap EntryPoint.registrations)

def builtin : Registry := (discover false []).registry

/-- A registry with the plugins of entry points, and its warnings. -/
def ofEntryPoints (strict : Bool) (points : List EntryPoint) :
    Fallible (Registry × List String) :=
  let progress := discover strict points
  match progress.failure with
  | some message => .error (failureOf message)
  | none => .ok (progress.registry, progress.warnings)

end Registry

end Playbook
