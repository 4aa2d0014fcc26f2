import Playbook.Properties.File
import Playbook.Run
import Playbook.Scenario.Reader

/-!
# Running scenarios of a workspace

A runner loads properties and a scenario from the files of a workspace and executes the
scenario. If loading fails, the result holds the failure as its only outcome.
-/

namespace Playbook

/-- A runner of scenarios: what their steps are executed with, a properties file that overrides
the one of the workspace, and how far the reader of scenario files looks ahead. -/
structure Runner where
  engine : Engine
  propertiesFile : Option FilePath := none
  ahead : Yaml.Lookahead := .least

namespace Runner

/-- The properties file of the workspace. -/
def localFile (runner : Runner) : FilePath :=
  runner.engine.workspace.join (.ofText runner.engine.settings.localProperties)

/-- The properties files of a run, later ones winning. -/
def propertiesPaths (runner : Runner) : Fallible (List FilePath) := do
  let present ← (runner.engine.files.isFile runner.localFile).mapError Failure.fault
  return (if present then [runner.localFile] else []) ++ runner.propertiesFile.toList

def loadProperties (runner : Runner) : Fallible PropertySet := do
  PropertySet.ofFiles runner.engine.files (← runner.propertiesPaths)

def load (runner : Runner) (path : FilePath) : Fallible (PropertySet × Scenario) := do
  let properties ← runner.loadProperties
  let scenario ← Scenario.load runner.engine.registry runner.ahead runner.engine.files
    runner.engine.workspace path
  return (properties, scenario)

/-- The kind of the outcome that stands for loading. -/
def loadKind : String := "load"

/-- Whether an error of loading is reported as an outcome. -/
def isReported : Diagnostic.Kind → Bool
  | .notFound | .parse | .schema | .properties => true
  | .plugin | .unresolved | .capability | .timeout => false

/-- The result of a run that could not be loaded. -/
def loadFailed (source message : String) : Result where
  source := source
  outcomes := [{ index := 0, kind := loadKind, status := .error, message := message }]

/-- Executes a loaded scenario; the result is known by the given name or else by that of the
scenario. -/
def execute (runner : Runner) (cancellation : Cancellation) (cancelled : Bool)
    (properties : PropertySet) (scenario : Scenario) (source : String) : Result × Run :=
  let run := Run.ofScenario runner.engine cancellation cancelled properties scenario
  (run.result (if source.isEmpty then scenario.label else source) scenario, run)

/-- Loads and executes a scenario. The result comes with the sign whether the run has been
cancelled. -/
def run (runner : Runner) (cancellation : Cancellation) (cancelled : Bool) (path : String) :
    Fallible (Result × Bool) :=
  match runner.load (.ofText path) with
  | .ok (properties, scenario) =>
      let (result, run) := runner.execute cancellation cancelled properties scenario path
      .ok (result, run.cancelled)
  | .error (.diagnostic d) =>
      if isReported d.kind then .ok (loadFailed path d.message, cancelled)
      else .error (.diagnostic d)
  | .error failure => .error failure

/-- Loads and executes a scenario with steps whose failures may have no text. What loading raises
has one. -/
def attempt (runner : Runner) (tell : Telling) (cancellation : Cancellation) (cancelled : Bool)
    (path : String) : Fallible (Result × Bool) :=
  match runner.load (.ofText path) with
  | .ok (properties, scenario) => do
      let run ← Run.attemptSteps tell runner.engine cancellation 1 cancelled properties
        scenario.steps
      return (run.result (if path.isEmpty then scenario.label else path) scenario, run.cancelled)
  | .error _ => runner.run cancellation cancelled path

/-- Runs one scenario after the other. What has been cancelled stays so. -/
def runAll (runner : Runner) (cancellation : Cancellation) :
    Bool → List String → List (Fallible Result)
  | _, [] => []
  | cancelled, path :: rest =>
      match runner.run cancellation cancelled path with
      | .ok (result, cancelled) => .ok result :: runAll runner cancellation cancelled rest
      | .error failure => .error failure :: runAll runner cancellation cancelled rest

/-- Why a batch cannot be run. -/
def noWorkers : Failure :=
  .fault (.raised "ValueError" "max_workers must be greater than 0")

/-- Runs scenarios that do not depend on each other. The results are in the order of the paths,
whatever the number of workers. -/
def runBatch (runner : Runner) (cancellation : Cancellation) (cancelled : Bool)
    (workers : Option Int) (paths : List String) : Fallible (List Result) :=
  match workers with
  | some count =>
      if count ≤ 0 then .error noWorkers
      else (runner.runAll cancellation cancelled paths).mapM fun outcome => outcome
  | none => (runner.runAll cancellation cancelled paths).mapM fun outcome => outcome

end Runner

end Playbook
