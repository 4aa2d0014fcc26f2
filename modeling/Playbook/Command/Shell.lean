import Playbook.Command.Program
import Playbook.Value.Literal

/-!
# Running commands

A command line is run command by command; an argument list runs one program. A run may end
before its command does, when it is cancelled or its time is up.
-/

namespace Playbook.Command

open Playbook.Text

/-- Message on a failure of the shell itself. -/
def shellMessage (text : String) : List UInt8 := bytesOf ("/bin/sh: 1: " ++ text ++ "\n")

def exitCode? (text : String) : Option Int :=
  let cs := text.toList
  if !cs.isEmpty && cs.all isAsciiDigit then
    some ((cs.foldl (fun n c => n * 10 + (c.toNat - 48)) 0 % 256 : Nat) : Int)
  else none

/-- Runs the words of one command; the flag tells whether the shell ends with it. -/
def runWords (around : Surroundings) (input : List UInt8) (status : Int) :
    List String → Finish × Bool
  | [] => ({}, false)
  | ["exit"] => ({ code := status }, true)
  | "exit" :: text :: _ =>
      match exitCode? text with
      | some code => ({ code := code }, true)
      | none => ({ errors := shellMessage ("exit: Illegal number: " ++ text), code := 2 }, true)
  | ":" :: _ => ({}, false)
  | "echo" :: arguments => (shellEcho arguments, false)
  | name :: arguments =>
      match program? around input name arguments with
      | some finish => (finish, false)
      | none =>
          if programFault around name = .notPermitted then
            ({ errors := shellMessage (name ++ ": Permission denied"), code := 126 }, false)
          else ({ errors := shellMessage (name ++ ": not found"), code := 127 }, false)

/-- Sends outputs to where redirections lead. -/
def redirected (finish : Finish) : List (String × Bool × String) → Finish
  | [] => finish
  | (output, copy, target) :: rest =>
      let finish :=
        match output, copy, target with
        | "1", true, "2" => { finish with output := [], errors := finish.errors ++ finish.output }
        | "2", true, "1" => { finish with output := finish.output ++ finish.errors, errors := [] }
        | "1", false, _ => { finish with output := [] }
        | "2", false, _ => { finish with errors := [] }
        | _, _, _ => finish
      redirected finish rest

/-- What has happened before a command of a line: the outputs and time so far, and the output
that the command before has left. -/
structure Progress where
  output : List UInt8 := []
  errors : List UInt8 := []
  seconds : Binary64 := .zero false
  status : Int := 0
  pending : List UInt8 := []

/-- Outputs, code and time of what has happened. -/
def Progress.finish (progress : Progress) : Finish :=
  { output := progress.output ++ progress.pending, errors := progress.errors
    code := progress.status, seconds := progress.seconds }

/-- Whether a command runs after another one. -/
def isReached (operator : String) (status : Int) : Bool :=
  match operator with
  | "&&" => status == 0
  | "||" => status != 0
  | _ => true

/-- Runs the commands of a line. -/
def runStages (around : Surroundings) : Progress → List Stage → Finish
  | progress, [] => progress.finish
  | progress, stage :: rest =>
      if isReached stage.operator progress.status then
        let piped := stage.operator == "|"
        let input := if piped then progress.pending else []
        let (finish, ends) := runWords around input progress.status stage.words
        let finish := redirected finish stage.redirects
        let status := if stage.words.isEmpty then progress.status else finish.code
        let next : Progress :=
          { output := if piped then progress.output else progress.output ++ progress.pending
            errors := progress.errors ++ finish.errors
            seconds := progress.seconds.add finish.seconds
            status := status
            pending := finish.output }
        if ends then next.finish else runStages around next rest
      else runStages around progress rest

def runLine (around : Surroundings) (line : String) : Finish :=
  match stagesOf line with
  | some stages => runStages around {} stages
  | none => { errors := shellMessage "Syntax error: Unterminated quoted string", code := 2 }

/-- Whether commands can run in a directory. -/
def checkDirectory (around : Surroundings) : Except Fault Unit :=
  let shown := "PosixPath(" ++ quoted around.directory.text ++ ")"
  match around.files.entry around.directory with
  | .ok .directory => .ok ()
  | .ok (.file _) => .error (Files.AccessFault.notDirectory.at shown)
  | .error fault => .error (fault.at shown)

/-- Whether texts can be handed to a program. -/
def checkArguments (arguments : List String) : Except Fault Unit :=
  if arguments.any fun argument => argument.toList.contains (Char.ofNat 0) then
    .error (Files.AccessFault.nullCharacter.at "")
  else .ok ()

/-- Runs a command line in a directory. -/
def runShell (around : Surroundings) (line : String) : Except Fault Finish := do
  checkArguments [line]
  checkDirectory around
  return runLine around line

def runArguments (around : Surroundings) : List String → Except Fault Finish
  | [] => .error (.raised "IndexError" "list index out of range")
  | name :: arguments => do
      checkArguments (name :: arguments)
      checkDirectory around
      match bareName name, arguments with
      | "sh", ["-c", line] => return runLine around line
      | _, _ =>
          match program? around [] name arguments with
          | some finish => return finish
          | none => throw ((programFault around name).at (quoted name))

end Playbook.Command
