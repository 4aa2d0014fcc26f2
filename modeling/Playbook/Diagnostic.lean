import Playbook.Fault
import Playbook.Field.Issue

/-!
# Diagnostics

Errors of loading and running, with the place they are about. The one-line message is what
reports show; the full text adds the location and an excerpt.
-/

namespace Playbook

namespace Diagnostic

/-- Classes of errors. -/
inductive Kind where
  | plugin
  | notFound
  | parse
  | schema
  | properties
  | unresolved
  | capability
  | timeout
deriving DecidableEq, Repr

/-- What an error shows of the document it is about. -/
inductive Excerpt where
  | nothing
  /-- The line of a markup text around a problem, with a pointer below it. -/
  | line (snippet : Option String)
  /-- A part of a document, with the properties visible at that moment. -/
  | element (value : Value) (properties : List (Value × Value))
deriving Inhabited, Repr

/-- Where an error happened: file, line and column counted from zero, and step. -/
structure Context where
  filename : Option String := none
  line : Option Int := none
  column : Option Int := none
  step : Option Int := none
  excerpt : Excerpt := .nothing
deriving Inhabited, Repr

end Diagnostic

/-- An error of loading or running. -/
structure Diagnostic where
  kind : Diagnostic.Kind
  message : String
  context : Option Diagnostic.Context
deriving Repr

/-- A failure of any class: a diagnostic, an issue with a value, or a fault of an elementary
operation. -/
inductive Failure where
  | diagnostic (d : Diagnostic)
  | issue (i : Issue)
  | fault (f : Fault)
deriving Repr

/-- The result of an operation that may fail. -/
abbrev Fallible (α : Type) := Except Failure α

namespace Failure

/-- The message that a step outcome shows: a diagnostic as it is, anything else after its
label. -/
def outcomeMessage : Failure → String
  | .diagnostic d => d.message
  | .issue i => "ValidationError: " ++ i.message
  | .fault f => f.label ++ ": " ++ f.message

end Failure

/-- What it comes to if failures are asked for the texts that outcomes show. What an extension
raises may have no text; asking for it raises another failure. -/
abbrev Telling := Failure → Fallible String

/-- Every failure has the text that is its message. -/
def Telling.plain : Telling := fun failure => .ok failure.outcomeMessage

/-- A diagnostic without context as a failure. -/
def Failure.plain (kind : Diagnostic.Kind) (message : String) : Failure :=
  .diagnostic ⟨kind, message, none⟩

end Playbook
