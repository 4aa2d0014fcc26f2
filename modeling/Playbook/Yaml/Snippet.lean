import Playbook.Yaml.Cursor

/-!
# Snippets

The line of a text around a place, cut to a width, with a pointer below the place.
-/

namespace Playbook.Yaml

/-- Characters before a place on its line, nearest first, and whether they are cut off. -/
def leftOf (before : List Char) : List Char × Bool :=
  let line := before.takeWhile fun c => !endsLine c
  if line.length > 36 then (line.take 32, true) else (line, false)

/-- Characters from a place on to the end of its line, and whether they are cut off. -/
def rightOf (after : List Char) : List Char × Bool :=
  let line := after.takeWhile fun c => !endsLine c
  if line.length > 36 then (line.take 32, true) else (line, false)

/-- The line around the character of an index, with a pointer below it. -/
def snippet (text : List Char) (index : Nat) : String :=
  let (left, cutLeft) := leftOf (text.take index).reverse
  let (right, cutRight) := rightOf (text.drop index)
  let head := if cutLeft then " ... " else ""
  let tail := if cutRight then " ... " else ""
  head ++ String.ofList left.reverse ++ String.ofList right ++ tail ++ "\n" ++
    String.ofList (List.replicate (left.length + head.length) ' ') ++ "^"

end Playbook.Yaml
