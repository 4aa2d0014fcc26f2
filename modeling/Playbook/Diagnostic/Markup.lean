import Playbook.Diagnostic
import Playbook.Yaml.Document
import Playbook.Yaml.Snippet

/-!
# Diagnostics on markup

Problems of YAML texts as diagnostics at the place of the problem.
-/

namespace Playbook.Diagnostic

/-- A place in a named text, counted from zero, with the line around it if that is known. -/
structure Mark where
  name : String
  line : Int
  column : Int
  snippet : Option String
deriving Repr

/-- The diagnostic on a problem of a YAML text. It is about the mark of the problem, or else
about the mark of its context; a file name given wins over the name of the mark. -/
def markup (problem : Option String) (problemMark contextMark : Option Mark)
    (filename : Option String) : Diagnostic :=
  let summary := match problem with
    | some text => if text.isEmpty then "Invalid YAML" else "Invalid YAML: " ++ text
    | none => "Invalid YAML"
  let excerpt := Excerpt.line (problemMark.bind Mark.snippet)
  match problemMark.or contextMark with
  | none => ⟨.parse, summary, some { filename := filename, excerpt := excerpt }⟩
  | some mark =>
      let source := match filename with
        | some name => if name.isEmpty then mark.name else name
        | none => mark.name
      ⟨.parse,
        summary ++ " (line " ++ toString (mark.line + 1) ++ ", column " ++
          toString (mark.column + 1) ++ ")",
        some ⟨some source, some mark.line, some mark.column, none, excerpt⟩⟩

/-- Lower-case hexadecimal digits of a character's number, at least four of them. -/
def characterCode (c : Char) : String :=
  let digits := Nat.toDigits 16 c.toNat
  String.ofList (List.replicate (4 - digits.length) '0' ++ digits)

/-- Message on a character that no YAML text may hold. -/
def unreadableMessage (name : String) (c : Char) (index : Nat) : String :=
  "unacceptable character #x" ++ characterCode c ++
    ": special characters are not allowed\n  in \"" ++ name ++ "\", position " ++ toString index

/-- Where a YAML text comes from: the name that messages use and whether excerpts of it are
shown. -/
structure MarkupSource where
  name : String
  filename : Option String
  showsLines : Bool
deriving Repr

def ofMarkupFailure (source : MarkupSource) (text : String) : Yaml.Failure → Failure
  | .unreadable c index =>
      .diagnostic ⟨.parse, "Invalid YAML: " ++ unreadableMessage source.name c index,
        some { filename := source.filename }⟩
  | .problem problem place =>
      let snippet :=
        if source.showsLines then some (Yaml.snippet text.toList place.index) else none
      .diagnostic (markup (some problem.message)
        (some ⟨source.name, place.line, place.column, snippet⟩) none source.filename)
  | .fault fault => .fault fault

end Playbook.Diagnostic
