import Playbook.Command.Line
import Playbook.Files
import Playbook.Number.Numeral

/-!
# Programs

The programs that commands may run, as functions of their arguments, their input and the files
they can read. Waiting is counted and not done.
-/

namespace Playbook.Command

open Playbook.Text

/-- What a program leaves behind: its outputs, its exit code and the seconds it takes. -/
structure Finish where
  output : List UInt8 := []
  errors : List UInt8 := []
  code : Int := 0
  seconds : Binary64 := .zero false
deriving Inhabited, Repr

/-- Bytes of a text. -/
def bytesOf (s : String) : List UInt8 := s.toUTF8.toList

/-- What programs can see: the files and the directory they run in. -/
structure Surroundings where
  files : Files
  directory : FilePath

def escapeOf? : Char → Option Char
  | 'n' => some '\n'
  | 't' => some '\t'
  | 'r' => some '\r'
  | 'a' => some (Char.ofNat 7)
  | 'b' => some (Char.ofNat 8)
  | 'f' => some (Char.ofNat 12)
  | 'v' => some (Char.ofNat 11)
  | '\\' => some '\\'
  | _ => none

def charBytes (c : Char) : List UInt8 := bytesOf (String.singleton c)

/-- The byte of at most three octal digits, and their number. -/
def octalByte (cs : List Char) : UInt8 × Nat :=
  let digits := (cs.take 3).takeWhile fun c => '0' ≤ c && c ≤ '7'
  (UInt8.ofNat (digits.foldl (fun n c => n * 8 + (c.toNat - 48)) 0), digits.length)

/-- The bytes of an escape, given what follows its backslash, and the number of characters that
it takes. Bytes by their number may need a zero in front; an end escape takes everything. -/
def escapeAt (zeroFirst : Bool) (cs : List Char) : List UInt8 × Nat :=
  match cs with
  | [] => (charBytes '\\', 0)
  | c :: rest =>
      let (byte, length) := octalByte (if zeroFirst then rest else cs)
      if zeroFirst && c = '0' then ([byte], length + 1)
      else if !zeroFirst && 0 < length then ([byte], length)
      else if c = 'c' then ([], cs.length)
      else
        match escapeOf? c with
        | some d => (charBytes d, 1)
        | none => (charBytes '\\' ++ charBytes c, 1)

/-- Bytes of a text with its escapes replaced, behind some characters that have been taken. -/
def unescape : Nat → List Char → List UInt8
  | _, [] => []
  | taken + 1, _ :: rest => unescape taken rest
  | 0, '\\' :: rest =>
      let (bytes, length) := escapeAt true rest
      bytes ++ unescape length rest
  | 0, c :: rest => charBytes c ++ unescape 0 rest

/-- Writes its arguments, separated by blanks. -/
def echo (escapes newline : Bool) (arguments : List String) : Finish :=
  let text := join " " arguments
  let shown := if escapes then unescape 0 text.toList else bytesOf text
  { output := if newline then shown ++ bytesOf "\n" else shown }

/-- Writes its arguments as a shell does: escapes are always replaced. -/
def shellEcho : List String → Finish
  | "-n" :: rest => echo true false rest
  | arguments => echo true true arguments

/-- Writes its arguments as a program does: escapes are replaced on demand. -/
def plainEcho : Bool → Bool → List String → Finish
  | escapes, _, "-n" :: rest => plainEcho escapes false rest
  | _, newline, "-e" :: rest => plainEcho true newline rest
  | _, newline, "-E" :: rest => plainEcho false newline rest
  | escapes, newline, arguments => echo escapes newline arguments

/-- A part of a format: bytes, or a place for an argument. -/
inductive FormatPart where
  | bytes (content : List UInt8)
  | place (missing : String)
deriving Repr

/-- Parts of a format behind some characters that have been taken. -/
def formatParts : Nat → List Char → List FormatPart
  | _, [] => []
  | taken + 1, _ :: rest => formatParts taken rest
  | 0, '\\' :: rest =>
      let (bytes, length) := escapeAt false rest
      .bytes bytes :: formatParts length rest
  | 0, '%' :: '%' :: rest => .bytes (charBytes '%') :: formatParts 0 rest
  | 0, '%' :: 's' :: rest => .place "" :: formatParts 0 rest
  | 0, '%' :: 'd' :: rest => .place "0" :: formatParts 0 rest
  | 0, '%' :: 'i' :: rest => .place "0" :: formatParts 0 rest
  | 0, c :: rest => .bytes (charBytes c) :: formatParts 0 rest

/-- Fills a format with arguments, and those that are left. -/
def fillFormat : List FormatPart → List String → List UInt8 × List String
  | [], arguments => ([], arguments)
  | .bytes content :: rest, arguments =>
      let (bytes, left) := fillFormat rest arguments
      (content ++ bytes, left)
  | .place missing :: rest, arguments =>
      let (bytes, left) := fillFormat rest arguments.tail
      (bytesOf (arguments.headD missing) ++ bytes, left)

/-- Fills a format again and again until all arguments are used. -/
def fillAll (parts : List FormatPart) : Nat → List String → List UInt8
  | 0, _ => []
  | fuel + 1, arguments =>
      let (bytes, left) := fillFormat parts arguments
      if left.isEmpty || left.length == arguments.length then bytes
      else bytes ++ fillAll parts fuel left

/-- Writes a format filled with arguments. -/
def printFormat : List String → Finish
  | [] => { errors := bytesOf "printf: missing operand\n", code := 1 }
  | format :: arguments =>
      { output := fillAll (formatParts 0 format.toList) (arguments.length + 1) arguments }

/-- Writes the contents of files, or its input. -/
def concatenate (around : Surroundings) (input : List UInt8) : List String → Finish
  | [] => { output := input }
  | names => names.foldl (addFile around) {}
where
  /-- Adds the content of one file. -/
  addFile (around : Surroundings) (finish : Finish) (name : String) : Finish :=
    let failed (reason : String) : Finish :=
      { finish with
        errors := finish.errors ++ bytesOf ("cat: " ++ name ++ ": " ++ reason ++ "\n"), code := 1 }
    match around.files.entry (around.directory.join (.ofText name)) with
    | .ok (.file content) => { finish with output := finish.output ++ content }
    | .ok .directory => failed "Is a directory"
    | .error .notDirectory => failed "Not a directory"
    | .error .nameTooLong => failed "File name too long"
    | .error _ => failed "No such file or directory"

/-- Waits for the sum of its arguments. -/
def sleep (arguments : List String) : Finish :=
  let amounts := arguments.map fun argument => Numeral.readBinary64 argument.toList
  match arguments, amounts.all Option.isSome with
  | [], _ => { errors := bytesOf "sleep: missing operand\n", code := 1 }
  | _, false => { errors := bytesOf "sleep: invalid time interval\n", code := 1 }
  | _, true => { seconds := (amounts.filterMap id).foldl Binary64.add (.zero false) }

def programDirectories : List String := ["/bin/", "/usr/bin/"]

/-- The name of a program without the directory it is found in. -/
def bareName (name : String) : String :=
  match programDirectories.findSome? fun directory =>
      stripStart? directory.toList name.toList with
  | some rest => String.ofList rest
  | none => name

/-- Runs a program that is known by its name. -/
def program? (around : Surroundings) (input : List UInt8) (name : String)
    (arguments : List String) : Option Finish :=
  match bareName name with
  | "true" => some {}
  | "false" => some { code := 1 }
  | "echo" => some (plainEcho false true arguments)
  | "printf" => some (printFormat arguments)
  | "cat" => some (concatenate around input arguments)
  | "sleep" => some (sleep arguments)
  | _ => none

/-- Why a program that is not known cannot be run. A name with slashes is a path; what it leads
to may not be run. -/
def programFault (around : Surroundings) (name : String) : Files.AccessFault :=
  if name.toList.contains '/' then
    match around.files.entry (around.directory.join (.ofText name)) with
    | .ok _ => .notPermitted
    | .error fault => fault
  else .missing

end Playbook.Command
