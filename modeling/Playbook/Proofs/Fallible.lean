import Playbook.Diagnostic

/-!
# Laws of computations that may fail

What the end of a computation says about its parts.  A computation in two parts succeeds if both
of them do, and fails in the first part or, behind a success of it, in the second.  `Fails` is
built from these laws: it says which faults a computation ends with, and that all its other
failures are of a usual form.
-/

namespace Playbook.Fallible

variable {ε φ α β : Type}

theorem ok_bind (a : α) (following : α → Except ε β) :
    (.ok a >>= following : Except ε β) = following a := rfl

theorem bind_eq_ok_iff {first : Except ε α} {following : α → Except ε β} {b : β} :
    (first >>= following) = .ok b ↔ ∃ a, first = .ok a ∧ following a = .ok b := by
  cases first with
  | error failure =>
      constructor
      · intro success
        cases success
      · intro ⟨a, success, _⟩
        cases success
  | ok a =>
      constructor
      · intro success
        exact ⟨a, rfl, success⟩
      · intro ⟨other, same, success⟩
        cases same
        exact success

theorem bind_eq_error_iff {first : Except ε α} {following : α → Except ε β} {failure : ε} :
    (first >>= following) = .error failure ↔
      first = .error failure ∨ ∃ a, first = .ok a ∧ following a = .error failure := by
  cases first with
  | error other =>
      constructor
      · intro failed
        cases failed
        exact .inl rfl
      · intro failed
        rcases failed with failed | ⟨a, success, _⟩
        · cases failed
          rfl
        · cases success
  | ok a =>
      constructor
      · intro failed
        right
        exact ⟨a, rfl, failed⟩
      · intro failed
        rcases failed with failed | ⟨other, same, failed⟩
        · cases failed
        · cases same
          exact failed

theorem map_eq_ok_iff {computation : Except ε α} {f : α → β} {b : β} :
    computation.map f = .ok b ↔ ∃ a, computation = .ok a ∧ f a = b := by
  cases computation <;> simp [Except.map]

theorem map_eq_error_iff {computation : Except ε α} {f : α → β} {failure : ε} :
    computation.map f = .error failure ↔ computation = .error failure := by
  cases computation <;> simp [Except.map]

theorem toOption_eq_some_iff {computation : Except ε α} {a : α} :
    computation.toOption = some a ↔ computation = .ok a := by
  cases computation <;> simp [Except.toOption]

theorem mapError_eq_ok_iff {first : Except ε α} {translate : ε → φ} {a : α} :
    first.mapError translate = .ok a ↔ first = .ok a := by
  cases first with
  | error failure => constructor <;> intro success <;> cases success
  | ok value =>
      constructor
      · intro success
        cases success
        rfl
      · intro success
        cases success
        rfl

theorem mapError_eq_error_iff {first : Except ε α} {translate : ε → φ} {failure : φ} :
    first.mapError translate = .error failure ↔
      ∃ original, first = .error original ∧ translate original = failure := by
  cases first with
  | error original =>
      constructor
      · intro failed
        exact ⟨original, rfl, Except.error.inj failed⟩
      · intro translated
        obtain ⟨other, same, rfl⟩ := translated
        cases same
        rfl
  | ok value =>
      constructor
      · intro failed
        cases failed
      · intro ⟨original, failed, _⟩
        cases failed

theorem mapM_eq_error_iff {f : α → Except ε β} {items : List α} {failure : ε} :
    items.mapM f = .error failure ↔ ∃ earlier item later values,
      items = earlier ++ item :: later ∧ earlier.mapM f = .ok values ∧ f item = .error failure := by
  induction items with
  | nil =>
      constructor
      · intro failed
        cases failed
      · intro ⟨earlier, item, later, values, same, _⟩
        simp at same
  | cons first rest ih =>
      rw [List.mapM_cons]
      constructor
      · intro failed
        rcases bind_eq_error_iff.mp failed with failed | ⟨value, success, failed⟩
        · exact ⟨[], first, rest, [], rfl, rfl, failed⟩
        · rcases bind_eq_error_iff.mp failed with failed | ⟨_, _, failed⟩
          · obtain ⟨earlier, item, later, values, rfl, before, failed⟩ := ih.mp failed
            refine ⟨first :: earlier, item, later, value :: values, rfl, ?_, failed⟩
            rw [List.mapM_cons]
            exact bind_eq_ok_iff.mpr ⟨value, success, bind_eq_ok_iff.mpr ⟨values, before, rfl⟩⟩
          · cases failed
      · intro ⟨earlier, item, later, values, same, before, failed⟩
        apply bind_eq_error_iff.mpr
        cases earlier with
        | nil =>
            cases same
            exact .inl failed
        | cons head earlier =>
            cases same
            rw [List.mapM_cons] at before
            obtain ⟨value, success, before⟩ := bind_eq_ok_iff.mp before
            obtain ⟨others, before, _⟩ := bind_eq_ok_iff.mp before
            refine .inr ⟨value, success, bind_eq_error_iff.mpr (.inl ?_)⟩
            exact ih.mpr ⟨earlier, item, later, others, rfl, before, failed⟩

theorem bind_pure_eq_error_iff {computation : Except ε α} {f : α → β}
    {failure : ε} :
    (computation >>= fun a => pure (f a)) = .error failure ↔ computation = .error failure := by
  cases computation <;> simp [bind, Except.bind, pure, Except.pure]

/-- A scan that fails at the first item that fails, behind items that it passes. -/
theorem scan_eq_error_iff {scan : Nat → List α → Except ε β}
    {passes : α → Prop} {fails : α → ε → Prop} (ends : ∀ n failure, scan n [] ≠ .error failure)
    (goesOn : ∀ n x rest failure, scan n (x :: rest) = .error failure ↔
      fails x failure ∨ passes x ∧ scan (n + 1) rest = .error failure)
    {n : Nat} {items : List α} {failure : ε} :
    scan n items = .error failure ↔ ∃ earlier item later,
      items = earlier ++ item :: later ∧ (∀ x ∈ earlier, passes x) ∧ fails item failure := by
  induction items generalizing n with
  | nil =>
      apply iff_of_false (ends n failure)
      rintro ⟨earlier, item, later, same, _⟩
      simp at same
  | cons x rest ih =>
      rw [goesOn, ih]
      constructor
      · rintro (here | ⟨passed, earlier, item, later, rfl, before, failed⟩)
        · exact ⟨[], x, rest, rfl, List.forall_mem_nil _, here⟩
        · exact ⟨x :: earlier, item, later, rfl, List.forall_mem_cons.mpr ⟨passed, before⟩, failed⟩
      · rintro ⟨earlier, item, later, same, before, failed⟩
        cases earlier with
        | nil =>
            cases same
            exact .inl failed
        | cons first earlier =>
            cases same
            obtain ⟨passed, before⟩ := List.forall_mem_cons.mp before
            exact .inr ⟨passed, earlier, item, later, rfl, before, failed⟩

/-- A computation that ends with a result. -/
def Succeeds (computation : Except ε α) : Prop := ∃ a, computation = .ok a

@[simp] theorem succeeds_ok (a : α) : Succeeds (.ok a : Except ε α) := ⟨a, rfl⟩

@[simp] theorem not_succeeds_error (failure : ε) : ¬Succeeds (.error failure : Except ε α) := by
  intro ⟨a, success⟩
  cases success

@[simp] theorem succeeds_pure (a : α) : Succeeds (pure a : Except ε α) := ⟨a, rfl⟩

theorem succeeds_bind_iff {first : Except ε α} {following : α → Except ε β} :
    Succeeds (first >>= following) ↔ ∃ a, first = .ok a ∧ Succeeds (following a) := by
  constructor
  · intro ⟨b, success⟩
    obtain ⟨a, before, behind⟩ := bind_eq_ok_iff.mp success
    exact ⟨a, before, b, behind⟩
  · intro ⟨a, before, b, behind⟩
    exact ⟨b, bind_eq_ok_iff.mpr ⟨a, before, behind⟩⟩

/-- Where it does not depend on the first result whether a computation goes on, both parts of it
stand on their own. -/
theorem succeeds_bind_iff_and {first : Except ε α} {following : α → Except ε β} {behind : Prop}
    (same : ∀ a, first = .ok a → (Succeeds (following a) ↔ behind)) :
    Succeeds (first >>= following) ↔ Succeeds first ∧ behind := by
  rw [succeeds_bind_iff]
  constructor
  · intro ⟨a, before, success⟩
    exact ⟨⟨a, before⟩, (same a before).mp success⟩
  · intro ⟨⟨a, before⟩, holds⟩
    exact ⟨a, before, (same a before).mpr holds⟩

theorem succeeds_bind_iff_left {first : Except ε α} {following : α → Except ε β}
    (total : ∀ a, Succeeds (following a)) : Succeeds (first >>= following) ↔ Succeeds first := by
  rw [succeeds_bind_iff_and fun a _ => iff_true_intro (total a), and_true]

@[simp] theorem succeeds_mapError_iff {computation : Except ε α} {translate : ε → φ} :
    Succeeds (computation.mapError translate) ↔ Succeeds computation :=
  exists_congr fun _ => mapError_eq_ok_iff

/-- A computation with one failure only succeeds unless what it fails on holds. -/
theorem succeeds_iff_not {computation : Except ε α} {only : ε} {faulty : Prop}
    (fails : ∀ failure, computation = .error failure ↔ failure = only ∧ faulty) :
    Succeeds computation ↔ ¬faulty := by
  cases computation with
  | ok a =>
      apply iff_of_true (succeeds_ok a)
      intro holds
      cases (fails only).mpr ⟨rfl, holds⟩
  | error failure =>
      apply iff_of_false (not_succeeds_error failure)
      exact not_not_intro ((fails failure).mp rfl).2

theorem succeeds_of_isOk {computation : Except ε α} (success : computation.isOk = true) :
    Succeeds computation := by
  cases computation with
  | ok a => exact succeeds_ok a
  | error failure => cases success

theorem exists_map_ok {f : α → Except ε β} {items : List α}
    (succeed : ∀ item ∈ items, Succeeds (f item)) :
    ∃ results : List β, items.map f = results.map .ok := by
  induction items with
  | nil => exact ⟨[], rfl⟩
  | cons item rest ih =>
      obtain ⟨here, later⟩ := List.forall_mem_cons.mp succeed
      obtain ⟨result, success⟩ := here
      obtain ⟨results, others⟩ := ih later
      exact ⟨result :: results, by rw [List.map_cons, List.map_cons, success, others]⟩

theorem mapM_map_ok (results : List β) :
    ((results.map .ok).mapM fun outcome => outcome) = (.ok results : Except ε (List β)) := by
  induction results with
  | nil => rfl
  | cons result rest ih => rw [List.map_cons, List.mapM_cons, ok_bind, ih, ok_bind]; rfl

/-- A computation ends with exactly the given faults, and all its other failures are usual. -/
structure Fails (computation : Fallible α) (usual : Failure → Prop) (faults : Fault → Prop) :
    Prop where
  fault_or_usual : ∀ failure, computation = .error failure →
    (∃ fault, failure = .fault fault) ∨ usual failure
  fault_iff : ∀ fault, computation = .error (.fault fault) ↔ faults fault

namespace Fails

variable {usual : Failure → Prop} {faults : Fault → Prop}

theorem congr {computation : Fallible α} {others : Fault → Prop}
    (fails : Fails computation usual faults) (same : ∀ fault, faults fault ↔ others fault) :
    Fails computation usual others where
  fault_or_usual := fails.fault_or_usual
  fault_iff fault := (fails.fault_iff fault).trans (same fault)

theorem mono {computation : Fallible α} {other : Failure → Prop}
    (fails : Fails computation usual faults)
    (holds : ∀ failure, usual failure → other failure) : Fails computation other faults where
  fault_or_usual failure failed := (fails.fault_or_usual failure failed).imp_right (holds failure)
  fault_iff := fails.fault_iff

theorem ok (a : α) (safe : ∀ fault, ¬faults fault) : Fails (.ok a) usual faults where
  fault_or_usual failure failed := by cases failed
  fault_iff fault := by simp [safe]

theorem error {failure : Failure} (holds : usual failure)
    (noFault : ∀ fault, failure ≠ .fault fault) (safe : ∀ fault, ¬faults fault) :
    Fails (.error failure : Fallible α) usual faults where
  fault_or_usual other failed := by
    cases failed
    exact .inr holds
  fault_iff fault := by simp [noFault, safe]

theorem fault (fault : Fault) :
    Fails (.error (.fault fault) : Fallible α) usual fun other => other = fault where
  fault_or_usual failure failed := by
    cases failed
    exact .inl ⟨fault, rfl⟩
  fault_iff other := by simp [eq_comm]

theorem bind {first : Fallible α} {following : α → Fallible β} {others : α → Fault → Prop}
    (fails : Fails first usual faults)
    (rest : ∀ a, first = .ok a → Fails (following a) usual (others a)) :
    Fails (first >>= following) usual fun fault =>
      faults fault ∨ ∃ a, first = .ok a ∧ others a fault where
  fault_or_usual failure failed := by
    rcases bind_eq_error_iff.mp failed with failed | ⟨a, success, failed⟩
    · exact fails.fault_or_usual failure failed
    · exact (rest a success).fault_or_usual failure failed
  fault_iff fault := by
    rw [bind_eq_error_iff, fails.fault_iff]
    apply or_congr_right
    apply exists_congr
    intro a
    apply and_congr_right
    intro success
    exact (rest a success).fault_iff fault

/-- What follows a computation adds no fault if it meets none. -/
theorem bind_of_safe {first : Fallible α} {following : α → Fallible β}
    (fails : Fails first usual faults)
    (rest : ∀ a, first = .ok a → Fails (following a) usual fun _ => False) :
    Fails (first >>= following) usual faults := by
  apply (fails.bind rest).congr
  intro fault
  simp

theorem map {computation : Fallible α} (fails : Fails computation usual faults) (f : α → β) :
    Fails (computation.map f) usual faults where
  fault_or_usual failure failed := fails.fault_or_usual failure (map_eq_error_iff.mp failed)
  fault_iff fault := map_eq_error_iff.trans (fails.fault_iff fault)

/-- Operations that only know faults. -/
theorem ofFault (computation : Except Fault α) :
    Fails (computation.mapError .fault) usual fun fault => computation = .error fault where
  fault_or_usual failure failed := by
    obtain ⟨fault, _, rfl⟩ := mapError_eq_error_iff.mp failed
    exact .inl ⟨fault, rfl⟩
  fault_iff fault := by
    rw [mapError_eq_error_iff]
    simp

/-- Failures that cannot be faults, since what they are made of knows none. -/
theorem ofUsual {computation : Except ε α} {translate : ε → Failure}
    (holds : ∀ original, usual (translate original))
    (noFault : ∀ original fault, translate original ≠ .fault fault) :
    Fails (computation.mapError translate) usual fun _ => False where
  fault_or_usual failure failed := by
    obtain ⟨original, _, rfl⟩ := mapError_eq_error_iff.mp failed
    exact .inr (holds original)
  fault_iff fault := by
    rw [mapError_eq_error_iff]
    simp [noFault]

/-- A translation that keeps faults and makes usual failures usual in another way. -/
theorem mapError {computation : Fallible α} {translate : Failure → Failure}
    {other : Failure → Prop} (fails : Fails computation usual faults)
    (keeps : ∀ fault, translate (.fault fault) = .fault fault)
    (holds : ∀ failure, usual failure → other (translate failure))
    (noFault : ∀ fault, ¬other (.fault fault)) :
    Fails (computation.mapError translate) other faults where
  fault_or_usual failure failed := by
    obtain ⟨original, originalFailed, rfl⟩ := mapError_eq_error_iff.mp failed
    rcases fails.fault_or_usual original originalFailed with ⟨fault, rfl⟩ | usualFailure
    · exact .inl ⟨fault, keeps fault⟩
    · exact .inr (holds original usualFailure)
  fault_iff fault := by
    rw [mapError_eq_error_iff, ← fails.fault_iff]
    constructor
    · intro ⟨original, failed, same⟩
      rcases fails.fault_or_usual original failed with ⟨inner, rfl⟩ | usualFailure
      · rw [keeps] at same
        cases same
        exact failed
      · have usualFault := holds original usualFailure
        rw [same] at usualFault
        exact absurd usualFault (noFault fault)
    · intro failed
      exact ⟨.fault fault, failed, keeps fault⟩

end Fails

end Playbook.Fallible
