import Mathlib.Data.List.Sort
import Mathlib.Data.String.Basic
import Playbook.Value.Order

/-!
# Sorting texts

Texts can be sorted as values.  They are then in the order of texts, which compares the numbers of
their characters.
-/

namespace Playbook.Value

theorem listBefore_iff {first second : List Char} :
    listBefore (first.map Char.toNat) (second.map Char.toNat) = true ↔ first < second := by
  induction first generalizing second with
  | nil =>
      cases second with
      | nil => simp [listBefore]
      | cons c rest => simp [listBefore, List.nil_lt_cons]
  | cons a as ih =>
      cases second with
      | nil => simp [listBefore]
      | cons b bs =>
          have less : a.toNat < b.toNat ↔ a < b := Iff.rfl
          have same : a.toNat = b.toNat ↔ a = b := Char.toNat_inj
          rw [List.map_cons, List.map_cons, listBefore, Bool.or_eq_true, Bool.and_eq_true,
            decide_eq_true_iff, beq_iff_eq, ih, less, same, List.cons_lt_cons_iff]

theorem before_text (s t : String) : before (.text s) (.text t) = .ok (decide (s < t)) := by
  have same : listBefore (s.toList.map Char.toNat) (t.toList.map Char.toNat) = decide (s < t) := by
    rw [Bool.eq_iff_iff, listBefore_iff, decide_eq_true_iff]
    rfl
  exact congrArg Except.ok same

/-- A text is put into a sorted list, which is kept last text first. -/
theorem insertLast_texts (s : String) (texts : List String) :
    insertLast (.text s) (texts.map .text) =
      .ok ((texts.orderedInsert (· ≥ ·) s).map .text) := by
  induction texts with
  | nil => rfl
  | cons t rest ih =>
      rw [List.map_cons, insertLast, before_text, List.orderedInsert_cons]
      change (if decide (s < t) = true then _ else _) = _
      by_cases less : s < t
      · rw [if_pos (decide_eq_true less), if_neg (not_le_of_gt less), ih]
        rfl
      · rw [if_neg (fun found => less (of_decide_eq_true found)), if_pos (le_of_not_gt less)]
        rfl

theorem sortOnto_texts (sorted texts : List String) :
    sortOnto (sorted.map .text) (texts.map .text) =
      .ok ((texts.foldl (fun sorted s => sorted.orderedInsert (· ≥ ·) s) sorted).map .text) := by
  induction texts generalizing sorted with
  | nil => rfl
  | cons s rest ih =>
      rw [List.map_cons, sortOnto, insertLast_texts]
      exact ih _

theorem sort_texts (texts : List String) :
    sort (texts.map .text) = .ok ((texts.insertionSort (· ≤ ·)).map .text) := by
  have sorted : sortOnto [] (texts.map .text) =
      .ok ((texts.reverse.insertionSort (· ≥ ·)).map .text) := by
    rw [List.insertionSort, List.foldr_reverse]
    exact sortOnto_texts [] texts
  -- The two ways to sort have the same order and the same texts.
  have turned : (texts.reverse.insertionSort (· ≥ ·)).reverse = texts.insertionSort (· ≤ ·) := by
    refine List.Perm.eq_of_pairwise
      (fun s t _ _ (before : s ≤ t) (after : t ≤ s) => le_antisymm before after) ?_ ?_ ?_
    · rw [List.pairwise_reverse]
      exact List.pairwise_insertionSort (· ≥ ·) _
    · exact List.pairwise_insertionSort (· ≤ ·) _
    · exact (List.reverse_perm _).trans ((List.perm_insertionSort _ _).trans
        ((List.reverse_perm _).trans (List.perm_insertionSort _ _).symm))
  rw [sort, sorted, ← turned, List.map_reverse]
  rfl

end Playbook.Value
