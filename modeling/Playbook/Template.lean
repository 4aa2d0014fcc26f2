import Playbook.Text.Classes

/-!
# Templates

Texts with placeholders: a key between doubled braces, with blanks allowed around the key.
A template is read once from the left into literal characters and placeholders; what is put
in for a placeholder is never read again.
-/

namespace Playbook.Template

open Playbook.Text

def isKeyChar (c : Char) : Bool := !(c == '\x7b' || c == '\x7d' || isBlank c)

/-- The key of a placeholder at the start of a text, and the number of characters that the
placeholder takes. -/
def placeholder? : List Char → Option (List Char × Nat)
  | '\x7b' :: '\x7b' :: rest =>
      let body := rest.dropWhile isBlank
      let key := body.takeWhile isKeyChar
      let after := (body.dropWhile isKeyChar).dropWhile isBlank
      match key, after with
      | [], _ => none
      | key, '\x7d' :: '\x7d' :: tail => some (key, rest.length + 2 - tail.length)
      | _, _ => none
  | _ => none

/-- A part of a template. -/
inductive Piece where
  | char (c : Char)
  | placeholder (key : List Char)
deriving DecidableEq, Repr

/-- Pieces of a text, after skipping some characters that a placeholder has taken. -/
def piecesFrom : Nat → List Char → List Piece
  | _, [] => []
  | skip + 1, _ :: rest => piecesFrom skip rest
  | 0, c :: rest =>
      match placeholder? (c :: rest) with
      | some (key, length) => .placeholder key :: piecesFrom (length - 1) rest
      | none => .char c :: piecesFrom 0 rest

/-- The pieces of a text. -/
def pieces (s : String) : List Piece := piecesFrom 0 s.toList

/-- Keys of the placeholders of a text, from left to right. -/
def keys (s : String) : List String :=
  (pieces s).filterMap fun
    | .char _ => none
    | .placeholder key => some (String.ofList key)

/-- Whether a text has a placeholder. -/
def hasPlaceholder (s : String) : Bool := !(keys s).isEmpty

/-- Puts values in for placeholders; the first key without a value is the failure. -/
def fill (valueOf : String → Option String) : List Piece → Except String (List Char)
  | [] => .ok []
  | .char c :: rest => do return c :: (← fill valueOf rest)
  | .placeholder key :: rest =>
      match valueOf (String.ofList key) with
      | some value => do return value.toList ++ (← fill valueOf rest)
      | none => .error (String.ofList key)

theorem fill_chars (valueOf : String → Option String) (cs : List Char) :
    fill valueOf (cs.map .char) = .ok cs := by
  induction cs with
  | nil => rfl
  | cons c rest ih => simp [fill, ih, bind, Except.bind, pure, Except.pure]

end Playbook.Template
