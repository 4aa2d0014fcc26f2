import Playbook.Diagnostic
import Playbook.Yaml.Writer

/-!
# Texts of diagnostics

The full text of a diagnostic: its message, the place it is about, and an excerpt of the
document there. A diagnostic without context is its message alone.
-/

namespace Playbook.Diagnostic

open Playbook.Text

/-- Shown for documents that were not read from a file. -/
def anonymousSource : String := "<unicode string>"

/-- Columns before the lines on the place. -/
def locationMargin : Nat := 4

/-- Columns before the lines of an excerpt. -/
def excerptMargin : Nat := 8

/-- A file name, if there is one. -/
def Context.source (context : Context) : String :=
  match context.filename with
  | some name => if name.isEmpty then anonymousSource else name
  | none => anonymousSource

/-- The file, line and column of a context, counted from one. -/
def Context.place (context : Context) : String :=
  let file := "in \"" ++ context.source ++ "\""
  match context.line, context.column with
  | none, _ => file
  | some line, none => file ++ ", line " ++ toString (line + 1)
  | some line, some column =>
      file ++ ", line " ++ toString (line + 1) ++ ", column " ++ toString (column + 1)

/-- The lines on the place of a diagnostic. -/
def Context.locationLines (context : Context) : List String :=
  let margin := spaces locationMargin
  (margin ++ context.place) ::
    match context.step with
    | some step => [margin ++ "on step " ++ toString step]
    | none => []

/-- The lines of a text that are not blank, behind a margin. -/
def indented (text : String) : List String :=
  ((splitLines text).filter fun line => !(strip line).isEmpty).map (spaces excerptMargin ++ ·)

/-- The text of an element with the properties visible at that moment. -/
def elementText (element : Value) (properties : List (Value × Value)) : Except Fault String := do
  let shown ← (
    if properties.isEmpty then .ok ""
    else do
      let block ← Yaml.Block.ofValue (.record [("properties", .map properties)])
      return block.write ++ "---\n")
  return "...\n" ++ shown ++ (← Yaml.Block.ofValue element).write

/-- The lines of an excerpt. An element that counts as false is not shown. -/
def Excerpt.lines : Excerpt → Except Fault (List String)
  | .nothing => .ok []
  | .line snippet => .ok (indented (snippet.getD ""))
  | .element shown properties =>
      if shown.isTrue then do return indented (← elementText shown properties) else .ok []

def render (message : String) (context : Option Context) : Except Fault String :=
  match context with
  | none => .ok message
  | some context => do
      return join "\n" (message :: (context.locationLines ++ (← context.excerpt.lines)))

def text (d : Diagnostic) : Except Fault String := render d.message d.context

end Playbook.Diagnostic
