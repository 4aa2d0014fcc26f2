import Playbook.Text.Case

/-!
# Letters that are equal when case is ignored

Two characters match each other without regard to case if their lower-case forms agree or
share an upper-case form. The few lower-case letters that share one are listed here.
-/

namespace Playbook.Pattern

open Playbook.Text

/-- Lower-case letters with the other lower-case letters of the same upper-case form. -/
def sharedUpper : List (Nat × List Nat) := [
  (0x69, [0x131]), (0x73, [0x17F]), (0xB5, [0x3BC]), (0x131, [0x69]),
  (0x17F, [0x73]), (0x345, [0x3B9, 0x1FBE]), (0x390, [0x1FD3]), (0x3B0, [0x1FE3]),
  (0x3B2, [0x3D0]), (0x3B5, [0x3F5]), (0x3B8, [0x3D1]), (0x3B9, [0x345, 0x1FBE]),
  (0x3BA, [0x3F0]), (0x3BC, [0xB5]), (0x3C0, [0x3D6]), (0x3C1, [0x3F1]),
  (0x3C2, [0x3C3]), (0x3C3, [0x3C2]), (0x3C6, [0x3D5]), (0x3D0, [0x3B2]),
  (0x3D1, [0x3B8]), (0x3D5, [0x3C6]), (0x3D6, [0x3C0]), (0x3F0, [0x3BA]),
  (0x3F1, [0x3C1]), (0x3F5, [0x3B5]), (0x432, [0x1C80]), (0x434, [0x1C81]),
  (0x43E, [0x1C82]), (0x441, [0x1C83]), (0x442, [0x1C84, 0x1C85]), (0x44A, [0x1C86]),
  (0x463, [0x1C87]), (0x1C80, [0x432]), (0x1C81, [0x434]), (0x1C82, [0x43E]),
  (0x1C83, [0x441]), (0x1C84, [0x442, 0x1C85]), (0x1C85, [0x442, 0x1C84]), (0x1C86, [0x44A]),
  (0x1C87, [0x463]), (0x1C88, [0xA64B]), (0x1E61, [0x1E9B]), (0x1E9B, [0x1E61]),
  (0x1FBE, [0x345, 0x3B9]), (0x1FD3, [0x390]), (0x1FE3, [0x3B0]), (0xA64B, [0x1C88]),
  (0xFB05, [0xFB06]), (0xFB06, [0xFB05])]

/-- Lower-case forms that are equal to a lower-case form. -/
def equalLower (code : Nat) : List Nat :=
  match sharedUpper.find? fun entry => entry.1 == code with
  | some entry => code :: entry.2
  | none => [code]

/-- Lower-case form of a code point, within the first 128 characters if so asked. -/
def lowerCode (ascii : Bool) (code : Nat) : Nat :=
  if ascii && 128 ≤ code then code else (lowerChar (Char.ofNat code)).toNat

/-- Code points with a given lower-case form. -/
def withLower (ascii : Bool) (code : Nat) : List Nat :=
  let moved := lowerRuns.filterMap fun run =>
    let origin := ((code : Int) - run.offset).toNat
    if run.first ≤ origin && origin ≤ run.last && (origin - run.first) % run.step == 0 then
      some origin
    else none
  let small := if 97 ≤ code && code ≤ 122 then [code - 32] else []
  let all := if ascii && 128 ≤ code then [code] else code :: (small ++ moved)
  all.filter fun origin => lowerCode ascii origin == code

/-- Code points that match a code point without regard to case. -/
def caseVariants (ascii : Bool) (code : Nat) : List Nat :=
  let low := lowerCode ascii code
  (if ascii then [low] else equalLower low).flatMap (withLower ascii)

end Playbook.Pattern
