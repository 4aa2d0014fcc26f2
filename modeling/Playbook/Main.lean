import Playbook.CommandLine

/-!
# The program

Hands the arguments, the environment and the files below the working directory to the command
line, and prints what it ends with.
-/

namespace Playbook.Main

open Playbook.CommandLine

/-- The entries of a directory and all that is below them, added to other files. -/
partial def addEntries (directory : String) (entries : Array IO.FS.DirEntry) (files : Files) :
    IO Files := do
  let mut files := files
  for entry in entries do
    let path := directory ++ "/" ++ entry.fileName
    if ← entry.path.isDir then
      files ← addEntries path (← entry.path.readDir) (files.addDirectory (.ofText path))
    else
      let content ← IO.FS.readBinFile entry.path
      files := files.add (.ofText path) content.toList
  return files

/-- The files below the working directory. -/
def filesHere : IO Files := do
  addEntries "." (← (← IO.currentDir).readDir) ⟨[], []⟩

/-- The variables of the environment that hold settings. -/
def environment : IO (List (String × String)) := do
  let names := Settings.names.map fun name => Text.upperAscii (Settings.variableStart ++ name)
  names.filterMapM fun name => do
    return (← IO.getEnv name).map fun value => (name, value)

partial def typedLines (input : IO.FS.Stream) : IO (List String) := do
  let line ← input.getLine
  if line.isEmpty then return []
  else return Text.dropEndWhile (fun c => c == '\n' || c == '\r') line :: (← typedLines input)

/-- What the program finds around it; lines are read if something may be asked. -/
def surroundings (arguments : List String) : IO Surroundings := do
  let typed ← if mayAsk arguments then typedLines (← IO.getStdin) else pure []
  return { environment := ← environment, files := ← filesHere, typed := typed }

end Playbook.Main

/-- Calls the program. -/
def main (arguments : List String) : IO UInt32 := do
  let ending := Playbook.CommandLine.call (← Playbook.Main.surroundings arguments) arguments
  IO.print ending.output
  IO.eprint ending.errors
  if let some failure := ending.failure then IO.eprintln failure.outcomeMessage
  return ending.code.toUInt32
