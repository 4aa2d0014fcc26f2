import Playbook.Text.Lines

/-!
# File paths

Paths of files in their normal form: empty segments and single points do not count, and a
path without segments is written as a point. Parent segments stay as they are.
-/

namespace Playbook

/-- A path: what it starts from and its segments. -/
structure FilePath where
  root : String
  segments : List String
deriving DecidableEq, Repr, Inhabited

namespace FilePath

/-- The root of a text: exactly two leading slashes are a root of their own. -/
def rootOf : List Char → String
  | '/' :: '/' :: '/' :: _ => "/"
  | '/' :: '/' :: _ => "//"
  | '/' :: _ => "/"
  | _ => ""

/-- Reads a path. -/
def ofText (text : String) : FilePath :=
  let cs := text.toList
  let pieces := (Text.splitOnChar '/' cs).filter fun piece => !(piece.isEmpty || piece == ['.'])
  ⟨rootOf cs, pieces.map String.ofList⟩

/-- The normal form of a path. -/
def text (path : FilePath) : String :=
  let whole := path.root ++ Text.join "/" path.segments
  if whole.isEmpty then "." else whole

/-- A path seen from another one. -/
def join (base path : FilePath) : FilePath :=
  if path.root.isEmpty then ⟨base.root, base.segments ++ path.segments⟩ else path

/-- The last segment. -/
def name (path : FilePath) : String := path.segments.getLast?.getD ""

/-- The name without its last ending; a point at either end opens no ending. -/
def stem (path : FilePath) : String :=
  let cs := path.name.toList
  let ending := cs.reverse.takeWhile (· != '.')
  let front := cs.take (cs.length - ending.length - 1)
  if ending.isEmpty || front.isEmpty || ending.length == cs.length then path.name
  else String.ofList front

end FilePath

end Playbook
