import Playbook.Text.Classes
import Playbook.Text.Lines

/-!
# Command lines

A command line is a list of commands joined by operators. A command is a list of words and of
redirections of its outputs. Quotes and backslashes take characters for themselves; variables
have no value.
-/

namespace Playbook.Command

open Playbook.Text

/-- A part of a command line. -/
inductive Token where
  | word (text : String)
  | operator (name : String)
  /-- Sends an output into a file, or to another output if it is a copy. -/
  | redirect (output : String) (copy : Bool)
deriving DecidableEq, Repr

/-- What is open while a line is read. -/
inductive Mode where
  | plain
  | single
  | double
  | comment
  | variableName
  | quotedName
deriving DecidableEq, Repr

/-- The word read so far, last character first, as a token. -/
def wordToken : Option (List Char) → List Token
  | none => []
  | some cs => [.word (String.ofList cs.reverse)]

/-- The output that a redirection is about: a number directly before it, else the first. -/
def outputOf (word : Option (List Char)) : List Token × String :=
  match word with
  | some [d] => if isAsciiDigit d then ([], String.singleton d) else (wordToken word, "1")
  | word => (wordToken word, "1")

/-- Puts a character at the end of a word. -/
def extend (word : Option (List Char)) (c : Char) : Option (List Char) :=
  some (c :: word.getD [])

/-- Reads the tokens of a line; none if a quote stays open. -/
def readTokens : Mode → Option (List Char) → List Char → Option (List Token)
  | .single, _, [] | .double, _, [] | .quotedName, _, [] => none
  | _, word, [] => some (wordToken word)
  | .comment, word, c :: rest =>
      if c = '\n' then (readTokens .plain word rest).map (.operator ";" :: ·)
      else readTokens .comment word rest
  | .single, word, c :: rest =>
      if c = '\'' then readTokens .plain word rest else readTokens .single (extend word c) rest
  | .double, word, '\\' :: c :: rest =>
      if c = '"' || c = '\\' || c = '$' || c = '\x60' then readTokens .double (extend word c) rest
      else readTokens .double (extend (extend word '\\') c) rest
  | .double, word, c :: rest =>
      if c = '"' then readTokens .plain word rest
      else if c = '$' then readTokens .quotedName word rest
      else readTokens .double (extend word c) rest
  | .quotedName, word, c :: rest =>
      if isAsciiWord c then readTokens .quotedName word rest
      else if c = '"' then readTokens .plain word rest
      else readTokens .double (extend word c) rest
  | .variableName, word, c :: rest =>
      if isAsciiWord c then readTokens .variableName word rest
      else if c = ' ' || c = '\t' then (readTokens .plain none rest).map (wordToken word ++ ·)
      else if c = ';' || c = '\n' then
        (readTokens .plain none rest).map (wordToken word ++ .operator ";" :: ·)
      else readTokens .plain (extend word c) rest
  | .plain, word, '&' :: '&' :: rest =>
      (readTokens .plain none rest).map (wordToken word ++ .operator "&&" :: ·)
  | .plain, word, '|' :: '|' :: rest =>
      (readTokens .plain none rest).map (wordToken word ++ .operator "||" :: ·)
  | .plain, word, '>' :: '&' :: rest =>
      let (before, output) := outputOf word
      (readTokens .plain none rest).map (before ++ .redirect output true :: ·)
  | .plain, word, '\\' :: c :: rest => readTokens .plain (extend word c) rest
  | .plain, word, c :: rest =>
      if c = ' ' || c = '\t' then (readTokens .plain none rest).map (wordToken word ++ ·)
      else if c = '\n' || c = ';' || c = '&' then
        (readTokens .plain none rest).map (wordToken word ++ .operator ";" :: ·)
      else if c = '|' then
        (readTokens .plain none rest).map (wordToken word ++ .operator "|" :: ·)
      else if c = '>' then
        let (before, output) := outputOf word
        (readTokens .plain none rest).map (before ++ .redirect output false :: ·)
      else if c = '\'' then readTokens .single (some (word.getD [])) rest
      else if c = '"' then readTokens .double (some (word.getD [])) rest
      else if c = '$' then readTokens .variableName word rest
      else if c = '#' && word.isNone then readTokens .comment word rest
      else readTokens .plain (extend word c) rest

/-- A command with the operator before it. -/
structure Stage where
  operator : String
  words : List String
  /-- Redirections: the output, whether it becomes a copy, and its target. -/
  redirects : List (String × Bool × String)
deriving DecidableEq, Repr

/-- Puts tokens into commands, given the command that is being read. -/
def stagesFrom : Stage → List Token → List Stage
  | stage, [] => [stage]
  | stage, .operator name :: rest => stage :: stagesFrom ⟨name, [], []⟩ rest
  | stage, .redirect output copy :: .word target :: rest =>
      stagesFrom { stage with redirects := stage.redirects ++ [(output, copy, target)] } rest
  | stage, .redirect .. :: rest => stagesFrom stage rest
  | stage, .word text :: rest => stagesFrom { stage with words := stage.words ++ [text] } rest

/-- The commands of a line; none if a quote stays open. -/
def stagesOf (line : String) : Option (List Stage) :=
  (readTokens .plain none line.toList).map (stagesFrom ⟨";", [], []⟩)

end Playbook.Command
