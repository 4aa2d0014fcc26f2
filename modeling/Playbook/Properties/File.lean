import Playbook.Files
import Playbook.Properties
import Playbook.Text.Portions

/-!
# Properties files

Properties are read from several files, one after the other; later files win. A file that is
not there is an error of its own.
-/

namespace Playbook

namespace Properties

/-- The error for a file that is not there. -/
def missingFile (path : FilePath) : Failure :=
  .diagnostic ⟨.notFound, "Properties file not found: " ++ path.text,
    some { filename := some path.text }⟩

/-- A layer, unless a fault is met behind it. -/
def unlessFaulty (layer : Layer) : Option Fault → Fallible Layer
  | none => .ok layer
  | some fault => .error (.fault fault)

/-- Reads properties from the bytes of a named file. A malformed line counts before a fault that
is met behind it. -/
def parseBytes (filename : Option String) (content : List UInt8) : Fallible Layer := do
  let reading := Text.readLines content
  unlessFaulty (← parse filename reading.lines) reading.fault

/-- Reads a properties file. -/
def load (files : Files) (path : FilePath) : Fallible Layer := do
  if ← (files.isFile path).mapError Failure.fault then
    let content ← (files.bytes path).mapError Failure.fault
    parseBytes (some path.text) content
  else throw (missingFile path)

/-- Reads properties files on top of a layer. -/
def loadOnto (files : Files) : Layer → List FilePath → Fallible Layer
  | layer, [] => .ok layer
  | layer, path :: rest => do
      let above ← load files path
      loadOnto files (Ordered.putAll layer above) rest

end Properties

/-- Properties read from files, later ones winning. -/
def PropertySet.ofFiles (files : Files) (paths : List FilePath) : Fallible PropertySet := do
  return ofFile (← Properties.loadOnto files [] paths)

end Playbook
