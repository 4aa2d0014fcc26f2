import Playbook.Text.Lines

/-!
# Resemblance of texts

How much two texts have in common: the longest block that both share counts, and then what the
parts before it and behind it share. Words that resemble a mistyped one are suggested.
-/

namespace Playbook.Text

/-- Length of the common start of two texts. -/
def commonStart : List Char → List Char → Nat
  | a :: as, b :: bs => if a = b then commonStart as bs + 1 else 0
  | _, _ => 0

/-- A block that two texts share: where it starts in each of them, and its length. -/
structure SharedBlock where
  left : Nat
  right : Nat
  length : Nat
deriving DecidableEq, Repr, Inhabited

/-- The longer of two blocks; of equal ones the earlier found. -/
def SharedBlock.longer (found next : SharedBlock) : SharedBlock :=
  if found.length < next.length then next else found

/-- The longest shared block, the first one in the left text and then in the right one. -/
def longestShared (as bs : List Char) : SharedBlock :=
  (List.range as.length).foldl (fun best left =>
    (List.range bs.length).foldl (fun best right =>
      best.longer ⟨left, right, commonStart (as.drop left) (bs.drop right)⟩) best) ⟨0, 0, 0⟩

/-- Number of characters in shared blocks, at most a number of blocks deep. -/
def sharedCount : Nat → List Char → List Char → Nat
  | 0, _, _ => 0
  | depth + 1, as, bs =>
      let block := longestShared as bs
      if block.length = 0 then 0
      else
        block.length + sharedCount depth (as.take block.left) (bs.take block.right) +
          sharedCount depth (as.drop (block.left + block.length))
            (bs.drop (block.right + block.length))

/-- Characters in shared blocks and characters of both texts. -/
def resemblance (left right : String) : Nat × Nat :=
  let (as, bs) := (left.toList, right.toList)
  (2 * sharedCount as.length as bs, as.length + bs.length)

/-- Whether two texts have at least three fifths in common. -/
def resembles (left right : String) : Bool :=
  let (shared, whole) := resemblance left right
  3 * whole ≤ 5 * shared

/-- Whether the first text has more in common with a word than the second one. -/
def resemblesMore (word first second : String) : Bool :=
  let (shared, whole) := resemblance first word
  let (shared', whole') := resemblance second word
  if shared * whole' = shared' * whole then second ≤ first else shared' * whole < shared * whole'

/-- Up to three words that resemble a word, the most similar ones first. -/
def similar (word : String) (words : List String) : List String :=
  ((words.filter fun candidate => resembles candidate word).mergeSort (resemblesMore word)).take 3

end Playbook.Text
