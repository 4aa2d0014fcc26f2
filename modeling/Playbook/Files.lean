import Playbook.FilePath
import Playbook.Fault
import Playbook.Text.Quoted

/-!
# Files

The files that a run can read: a tree of directories with the contents of its files. A path is
followed from the working directory segment by segment, and every segment but the last must
lead to a directory.
-/

namespace Playbook

/-- A tree of files, each under its segments, and its directories. -/
structure Files where
  contents : List (List String × List UInt8)
  directories : List (List String)
deriving Inhabited, Repr

namespace Files

/-- What a path leads to. -/
inductive Entry where
  | file (content : List UInt8)
  | directory
deriving DecidableEq, Repr

/-- Why a path leads nowhere. -/
inductive AccessFault where
  | missing
  | notDirectory
  | nameTooLong
  /-- The path holds a null character. -/
  | nullCharacter
  /-- A directory where a file was asked for. -/
  | isDirectory
  /-- An entry that may not be run. -/
  | notPermitted
deriving DecidableEq, Repr

/-- The number and text of a fault of the file system. -/
def AccessFault.cause : AccessFault → String
  | .missing => "[Errno 2] No such file or directory"
  | .notPermitted => "[Errno 13] Permission denied"
  | .notDirectory => "[Errno 20] Not a directory"
  | .isDirectory => "[Errno 21] Is a directory"
  | .nameTooLong => "[Errno 36] File name too long"
  | .nullCharacter => "embedded null byte"

/-- A fault at a path given by its literal. -/
def AccessFault.at (shown : String) (fault : AccessFault) : Fault :=
  let message := fault.cause ++ ": " ++ shown
  match fault with
  | .missing => .system "FileNotFoundError" message
  | .notDirectory => .system "NotADirectoryError" message
  | .isDirectory => .system "IsADirectoryError" message
  | .notPermitted => .system "PermissionError" message
  | .nameTooLong => .system "OSError" message
  | .nullCharacter => .raised "ValueError" fault.cause

/-- Directories on the way to a file. -/
def parents : List String → List (List String)
  | [] | [_] => []
  | first :: rest => [first] :: (parents rest).map (first :: ·)

/-- A tree with one more file, with the directories on the way to it. -/
def add (files : Files) (path : FilePath) (content : List UInt8) : Files :=
  ⟨(path.segments, content) :: files.contents, parents path.segments ++ files.directories⟩

/-- A tree with one more directory. -/
def addDirectory (files : Files) (path : FilePath) : Files :=
  { files with directories := path.segments :: (parents path.segments ++ files.directories) }

/-- A place reached on a path: below the working directory, or some levels above it. -/
inductive Place where
  | below (segments : List String)
  | above (levels : Nat)
deriving DecidableEq, Repr

def Place.parent : Place → Place
  | .below [] => .above 1
  | .below segments => .below segments.dropLast
  | .above levels => .above (levels + 1)

/-- What one segment leads to from a directory. -/
def child (files : Files) (place : Place) (segment : String) :
    Except AccessFault (Place × Entry) :=
  if segment = ".." then .ok (place.parent, .directory)
  else if segment.utf8ByteSize > 255 then .error .nameTooLong
  else
    match place with
    | .above _ => .error .missing
    | .below segments =>
        let whole := segments ++ [segment]
        if files.directories.contains whole then .ok (.below whole, .directory)
        else
          match files.contents.lookup whole with
          | some content => .ok (.below whole, .file content)
          | none => .error .missing

def follow (files : Files) : Place × Entry → List String → Except AccessFault Entry
  | (_, entry), [] => .ok entry
  | (_, .file _), _ :: _ => .error .notDirectory
  | (place, .directory), segment :: rest => do follow files (← files.child place segment) rest

/-- What a path leads to. -/
def entry (files : Files) (path : FilePath) : Except AccessFault Entry :=
  if path.text.toList.contains (Char.ofNat 0) then .error .nullCharacter
  else if path.text.utf8ByteSize > 4095 then .error .nameTooLong
  else if path.root.isEmpty then files.follow (.below [], .directory) path.segments
  else files.follow (.above 0, .directory) path.segments

/-- Whether a path leads to a file. Only a name that is too long is a fault. -/
def isFile (files : Files) (path : FilePath) : Except Fault Bool :=
  match files.entry path with
  | .ok (.file _) => .ok true
  | .ok .directory => .ok false
  | .error .nameTooLong => .error (AccessFault.nameTooLong.at (Text.quoted path.text))
  | .error _ => .ok false

def bytes (files : Files) (path : FilePath) : Except Fault (List UInt8) :=
  match files.entry path with
  | .ok (.file content) => .ok content
  | .ok .directory => .error (AccessFault.isDirectory.at (Text.quoted path.text))
  | .error fault => .error (fault.at (Text.quoted path.text))

end Files

end Playbook
