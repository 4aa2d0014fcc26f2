import Playbook.Diagnostic.Markup
import Playbook.Diagnostic.Schema
import Playbook.Registry
import Playbook.Scenario
import Playbook.Step.Reader
import Playbook.Template
import Playbook.Yaml.Supply

/-!
# Reading scenarios

A stream of documents becomes a scenario: null documents do not count, the first document may
be a header, and every other document is a step or a list of steps. Steps are numbered from one
across documents and checked against what the registry knows; no placeholder is replaced.
-/

namespace Playbook.Scenario

open Playbook.Field

/-- The kind of documents that are headers of scenarios. -/
def headerSpec : String := "scenario"

/-- Whether a document is a header. A mapping with a kind is always a step. -/
def isHeader : Value → Bool
  | .map entries => Value.hasField "spec" entries && !Value.hasField "kind" entries
  | _ => false

/-- A schema error about a part of a document. -/
def schemaError (message : String) (filename : Option String) (step : Option Int)
    (element : Value) : Failure :=
  .diagnostic ⟨.schema, message, some ⟨filename, none, none, step, .element element []⟩⟩

/-- Names a step in front of a message. -/
def numbered (number : Nat) : String := "Step " ++ toString number ++ ": "

def headerFields (entries : List (Value × Value)) : Checked Header := do
  let title ← withDefault entries ["title"] (optional text) none
  let description ← withDefault entries ["description"] (optional text) none
  let _ ← required entries ["spec"] (choice [headerSpec])
  let name ← withDefault entries ["name"] (optional text) none
  let id ← withDefault entries ["id"] (optional text) none
  let metadata ← withDefault entries ["metadata"] (mapping text any) []
  onlyFields [["title"], ["description"], ["spec"], ["name"], ["id"], ["metadata"]] entries
  return ⟨title, description, name, id, metadata⟩

def readHeader (filename : Option String) (document : Value) : Fallible Header := do
  let entries := (document.entries?).getD []
  let spec := (Value.field? "spec" entries).getD .null
  if spec == .text headerSpec then
    Diagnostic.checked document filename none (headerFields entries)
  else
    let shown ← spec.literal.mapError Failure.fault
    throw (schemaError ("Unsupported document spec " ++ shown) filename none document)

/-- Checks the raw parameters of an action against the signature of its operation. -/
def checkSignature (registry : Registry) (filename : Option String) (number : Nat)
    (step : ActionStep) : Fallible Unit :=
  match registry.operation? step.kind with
  | none =>
      .error (schemaError (numbered number ++ "unknown step kind " ++
        Text.quoted step.kind) filename (some number) step.toValue)
  | some operation =>
      let params := Value.record step.params
      (Diagnostic.checked params filename (some (number : Int))
        (operation.signature.read params)).map fun _ => ()

/-- Texts of an assertion that must be ranges, each with the name of its field. -/
def rangeTexts (registry : Registry) (step : AssertionStep) :
    Except Fault (List (String × String)) := do
  let count := (step.count.map fun text => [("count", text)]).getD []
  let isRange := ((registry.comparator? step.operator).map Comparator.expectsRange).getD false
  if isRange && step.expected.isScalar then
    return count ++ [("expected", ← step.expected.stringify)]
  else return count

/-- Checks texts that must be ranges; those with placeholders are not known yet. -/
def checkRangeTexts (filename : Option String) (number : Nat) (step : AssertionStep) :
    List (String × String) → Fallible Unit
  | [] => .ok ()
  | (field, text) :: rest =>
      if Template.hasPlaceholder text then checkRangeTexts filename number step rest
      else
        match Range.parse text with
        | .ok _ => checkRangeTexts filename number step rest
        | .error message =>
            .error (schemaError (numbered number ++ message ++ " (" ++
              field ++ ")") filename (some number) step.toValue)

def checkRanges (registry : Registry) (filename : Option String) (number : Nat)
    (step : AssertionStep) : Fallible Unit := do
  let texts ← (rangeTexts registry step).mapError Failure.fault
  checkRangeTexts filename number step texts

def stepFailure (document : Value) (filename : Option String) (number : Nat) : Failure → Failure
  | .issue issue => .diagnostic (Diagnostic.ofIssue issue document filename (some number))
  | failure => failure

def readStep (registry : Registry) (filename : Option String) (number : Nat)
    (document : Value) : Fallible Step := do
  match document.entries? with
  | none =>
      throw (schemaError (numbered number ++ "step must be a mapping")
        filename (some number) document)
  | some _ =>
      let step ← (Step.read (some registry.operators) document).mapError
        (stepFailure document filename number)
      match step with
      | .action action => checkSignature registry filename number action
      | .assertion assertion => checkRanges registry filename number assertion
      return step

/-- A part of a stream behind its header. -/
inductive Item where
  | step (document : Value)
  | header (document : Value)
deriving Repr

/-- The parts of a document. -/
def itemsOf (document : Value) : List Item :=
  match document with
  | .null => []
  | .list documents => documents.map .step
  | document => if isHeader document then [.header document] else [.step document]

/-- Reads parts one after the other, numbering the steps. A header is out of place here. -/
def readItems (registry : Registry) (filename : Option String) :
    Nat → List Item → Fallible (List Step)
  | _, [] => .ok []
  | _, .header document :: _ =>
      .error (schemaError "Header must be at first position" filename none document)
  | number, .step document :: rest => do
      let step ← readStep registry filename number document
      return step :: (← readItems registry filename (number + 1) rest)

/-- Reads the documents of a stream: the header, if there is one, and the steps. -/
def readDocuments (registry : Registry) (filename : Option String) (documents : List Value) :
    Fallible (Option Header × List Step) := do
  match documents with
  | [] => return (none, [])
  | first :: rest =>
      if isHeader first then
        let header ← readHeader filename first
        return (some header, ← readItems registry filename 1 (rest.flatMap itemsOf))
      else
        return (none, ← readItems registry filename 1 (documents.flatMap itemsOf))

/-- Makes a scenario of documents that come from a named place. -/
def ofDocuments (registry : Registry) (filename : Option String) (source : Option FilePath)
    (documents : List Value) : Fallible Scenario := do
  let (header, steps) ← readDocuments registry filename documents
  return ⟨nameFor header source, source, header, steps⟩

/-- Reads a scenario from a text that comes from a named place. -/
def readFrom (registry : Registry) (markup : Diagnostic.MarkupSource) (source : Option FilePath)
    (content : String) : Fallible Scenario := do
  let documents ← (Yaml.load content).mapError (Diagnostic.ofMarkupFailure markup content)
  ofDocuments registry markup.filename source documents

/-- Reads a scenario from the bytes of a file, as far as they are needed. -/
def readBytes (registry : Registry) (ahead : Yaml.Lookahead) (file : FilePath)
    (content : List UInt8) : Fallible Scenario := do
  let supply := Yaml.Supply.ofBytes content
  let markup : Diagnostic.MarkupSource := ⟨file.text, some file.text, false⟩
  let documents ← (supply.load ahead).mapError
    (Diagnostic.ofMarkupFailure markup (String.ofList supply.text))
  ofDocuments registry markup.filename (some file) documents

/-- Reads a scenario from a text; the source only gives it a name. -/
def parse (registry : Registry) (source : Option FilePath) (content : String) :
    Fallible Scenario :=
  readFrom registry ⟨anonymousName, source.map FilePath.text, true⟩ source content

/-- Loads a scenario from a file below a workspace. -/
def load (registry : Registry) (ahead : Yaml.Lookahead) (files : Files)
    (workspace path : FilePath) : Fallible Scenario := do
  let file := workspace.join path
  if ← (files.isFile file).mapError Failure.fault then
    let content ← (files.bytes file).mapError Failure.fault
    readBytes registry ahead file content
  else
    throw (.diagnostic ⟨.notFound, "Scenario file not found: " ++ file.text,
      some { filename := some file.text }⟩)

end Playbook.Scenario
