import Playbook.Proofs.Fallible
import Playbook.Value.Order
import Playbook.Value.Plain

/-!
# Faults of values

A value has a literal unless some integer in it has too many digits.  Sorting fails only on two
values that have no order.
-/

namespace Playbook

theorem intText_eq_error {n : Int} {fault : Fault} (failed : intText n = .error fault) :
    fault = .digitsWritten := by
  unfold intText at failed
  split at failed
  · cases failed
  · cases failed
    rfl

/-- Faults of two values that have no order. -/
inductive Fault.IsUnordered : Fault → Prop where
  | kinds (left right : String) : IsUnordered (.unordered left right)
  | offsets : IsUnordered .mixedOffsets
  | timeAndDay : IsUnordered .timeAndDay

namespace Value

mutual

theorem literal_eq_error (v : Value) {fault : Fault} (failed : v.literal = .error fault) :
    fault = .digitsWritten := by
  cases v with
  | int n =>
      rw [literal] at failed
      exact intText_eq_error failed
  | list items =>
      rcases Fallible.bind_eq_error_iff.mp failed with failed | ⟨texts, _, failed⟩
      · exact literals_eq_error items failed
      · cases failed
  | tuple items =>
      rcases Fallible.bind_eq_error_iff.mp failed with failed | ⟨texts, _, failed⟩
      · exact literals_eq_error items failed
      · split at failed <;> cases failed
  | set items =>
      rcases Fallible.bind_eq_error_iff.mp failed with failed | ⟨texts, _, failed⟩
      · exact literals_eq_error items failed
      · split at failed <;> cases failed
  | map entries =>
      rcases Fallible.bind_eq_error_iff.mp failed with failed | ⟨texts, _, failed⟩
      · exact entryLiterals_eq_error entries failed
      · cases failed
  | _ => cases failed

theorem literals_eq_error (items : List Value) {fault : Fault}
    (failed : literals items = .error fault) : fault = .digitsWritten := by
  cases items with
  | nil => cases failed
  | cons v rest =>
      rcases Fallible.bind_eq_error_iff.mp failed with failed | ⟨_, _, failed⟩
      · exact literal_eq_error v failed
      · rcases Fallible.bind_eq_error_iff.mp failed with failed | ⟨_, _, failed⟩
        · exact literals_eq_error rest failed
        · cases failed

theorem entryLiterals_eq_error (entries : List (Value × Value)) {fault : Fault}
    (failed : entryLiterals entries = .error fault) : fault = .digitsWritten := by
  cases entries with
  | nil => cases failed
  | cons entry rest =>
      obtain ⟨k, v⟩ := entry
      rcases Fallible.bind_eq_error_iff.mp failed with failed | ⟨_, _, failed⟩
      · exact literal_eq_error k failed
      · rcases Fallible.bind_eq_error_iff.mp failed with failed | ⟨_, _, failed⟩
        · exact literal_eq_error v failed
        · rcases Fallible.bind_eq_error_iff.mp failed with failed | ⟨_, _, failed⟩
          · exact entryLiterals_eq_error rest failed
          · cases failed

end

theorem plainText_eq_error {v : Value} {fault : Fault} (failed : v.plainText = .error fault) :
    fault = .digitsWritten := by
  unfold plainText at failed
  split at failed
  iterate 4 cases failed
  exact literal_eq_error v failed

/-- Of the scalars, only an integer may have no property text. -/
theorem stringify_eq_error_iff {v : Value} (scalar : v.isScalar = true) {fault : Fault} :
    v.stringify = .error fault ↔ ∃ n, v = .int n ∧ intText n = .error fault := by
  cases v with
  | int n => simp [stringify, plainText, literal]
  | null => simp [isScalar] at scalar
  | list items => simp [isScalar] at scalar
  | tuple items => simp [isScalar] at scalar
  | set items => simp [isScalar] at scalar
  | map entries => simp [isScalar] at scalar
  | foreign kind shown => simp [isScalar] at scalar
  | _ => simp [stringify, plainText, literal]

mutual

theorem before_eq_error (a b : Value) {fault : Fault} (failed : before a b = .error fault) :
    fault.IsUnordered := by
  unfold before at failed
  split at failed
  · cases failed
  · cases failed
  · cases failed
  · split at failed
    · cases failed
    · cases failed
      exact .offsets
  · cases failed
    exact .timeAndDay
  · cases failed
    exact .timeAndDay
  · cases failed
  · exact itemsBefore_eq_error _ _ failed
  · split at failed
    · cases failed
    · cases failed
      exact .kinds _ _

theorem itemsBefore_eq_error (as bs : List Value) {fault : Fault}
    (failed : itemsBefore as bs = .error fault) : fault.IsUnordered := by
  cases bs with
  | nil =>
      rw [itemsBefore] at failed
      cases failed
  | cons b bs =>
      cases as with
      | nil => cases failed
      | cons a as =>
          rw [itemsBefore] at failed
          split at failed
          · exact itemsBefore_eq_error as bs failed
          · exact before_eq_error a b failed

end

theorem insertLast_eq_error {v : Value} {sorted : List Value} {fault : Fault}
    (failed : insertLast v sorted = .error fault) : fault.IsUnordered := by
  induction sorted with
  | nil => cases failed
  | cons last rest ih =>
      rcases Fallible.bind_eq_error_iff.mp failed with failed | ⟨earlier, _, failed⟩
      · exact before_eq_error v last failed
      · cases earlier with
        | false => cases failed
        | true =>
            rcases Fallible.bind_eq_error_iff.mp failed with failed | ⟨_, _, failed⟩
            · exact ih failed
            · cases failed

theorem sort_eq_error {vs : List Value} {fault : Fault} (failed : sort vs = .error fault) :
    fault.IsUnordered := by
  -- Sorting starts from no values, but the induction meets all values sorted so far.
  have onto : ∀ sorted, sortOnto sorted vs = .error fault → fault.IsUnordered := by
    clear failed
    induction vs with
    | nil =>
        intro sorted failed
        cases failed
    | cons v rest ih =>
        intro sorted failed
        rcases Fallible.bind_eq_error_iff.mp failed with failed | ⟨next, _, failed⟩
        · exact insertLast_eq_error failed
        · exact ih next failed
  rcases Fallible.bind_eq_error_iff.mp failed with failed | ⟨_, _, failed⟩
  · exact onto [] failed
  · cases failed

end Value

end Playbook
