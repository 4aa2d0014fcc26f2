import Playbook.Fault
import Playbook.Value.Basic

/-!
# Order of values

Numbers are ordered by value, texts by the numbers of their characters, byte strings, dates and
durations as usual, and tuples by the first items that differ. Of two times the earlier one comes
first, but a time with an offset and one without have no order. Values of other or different
kinds have none either.
-/

namespace Playbook.Value

/-- Whether one list of numbers comes before another. -/
def listBefore : List Nat → List Nat → Bool
  | _, [] => false
  | [], _ :: _ => true
  | a :: as, b :: bs => a < b || (a == b && listBefore as bs)

/-- The number that a value is, exactly: an integer or a double. -/
def exactNumber? : Value → Option (Int ⊕ Binary64)
  | .int n => some (.inl n)
  | .bool b => some (.inl (if b then 1 else 0))
  | .float x => some (.inr x)
  | _ => none

/-- Whether one number comes before another. -/
def numberBefore : Int ⊕ Binary64 → Int ⊕ Binary64 → Bool
  | .inl m, .inl n => m < n
  | .inr x, .inr y => x.lt y
  | .inl n, .inr x => Binary64.intLe n x && !(x.leInt n)
  | .inr x, .inl n => x.leInt n && !(Binary64.intLe n x)

mutual

/-- Whether one value comes before another. -/
def before (a b : Value) : Except Fault Bool :=
  match a, b with
  | .text s, .text t => .ok (listBefore (s.toList.map Char.toNat) (t.toList.map Char.toNat))
  | .bytes s, .bytes t => .ok (listBefore (s.map UInt8.toNat) (t.map UInt8.toNat))
  | .date s, .date t => .ok (listBefore [s.year, s.month, s.day] [t.year, t.month, t.day])
  | .datetime s, .datetime t =>
      match s.before? t with
      | some earlier => .ok earlier
      | none => .error .mixedOffsets
  | .date _, .datetime _ | .datetime _, .date _ => .error .timeAndDay
  | .duration s, .duration t => .ok (s.total < t.total)
  | .tuple as, .tuple bs => itemsBefore as bs
  | a, b =>
      match a.exactNumber?, b.exactNumber? with
      | some x, some y => .ok (numberBefore x y)
      | _, _ => .error (.unordered a.kindPath b.kindPath)

/-- Whether one sequence comes before another: the first items that differ decide. -/
def itemsBefore : List Value → List Value → Except Fault Bool
  | _, [] => .ok false
  | [], _ :: _ => .ok true
  | a :: as, b :: bs => if a.same b then itemsBefore as bs else before a b

end

/-- Puts a value into its place in a sorted list, from the end on. -/
def insertLast (v : Value) : List Value → Except Fault (List Value)
  | [] => .ok [v]
  | last :: rest => do
      if ← before v last then return last :: (← insertLast v rest) else return v :: last :: rest

/-- Sorts values onto a sorted list that is kept last value first. -/
def sortOnto : List Value → List Value → Except Fault (List Value)
  | sorted, [] => .ok sorted
  | sorted, v :: rest => do sortOnto (← insertLast v sorted) rest

/-- Sorts values; equal ones keep their order. -/
def sort (vs : List Value) : Except Fault (List Value) := do return (← sortOnto [] vs).reverse

end Playbook.Value
