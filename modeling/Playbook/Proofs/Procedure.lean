import Playbook.Execution

/-!
# Laws of procedures

A procedure that only reads leaves the properties as they are, and whatever it sees are the
properties that it was given.  A procedure in two parts is carried out part by part.
-/

namespace Playbook

/-- Goes on with the result of a procedure, on the properties that it has left. -/
def Completed.andThen {α β : Type} (completed : Completed α) (following : α → Procedure β) :
    Completed β :=
  match completed.result with
  | .ok a =>
      let next := (following a).run completed.properties
      { next with
        cancels := completed.cancels || next.cancels
        seen := completed.seen ++ next.seen }
  | .error failure => { completed with result := .error failure }

theorem Completed.andThen_pure {α β : Type} (completed : Completed α) (f : α → β) :
    (completed.andThen fun a => pure (f a)) =
      { completed with result := completed.result.map f } := by
  obtain ⟨result, properties, cancels, seen⟩ := completed
  cases result with
  | error failure => rfl
  | ok a => simp [Completed.andThen, pure, Procedure.run, Except.map]

namespace Procedure

variable {α β : Type}

theorem run_bind (first : Procedure α) (following : α → Procedure β)
    (properties : PropertySet) :
    (first >>= following).run properties = (first.run properties).andThen following := by
  change (first.bind following).run properties = (first.run properties).andThen following
  induction first generalizing properties with
  | done result =>
      cases result with
      | error failure => rfl
      | ok a => simp [bind, run, Completed.andThen]
  | look next ih =>
      have rest := ih properties properties
      simp only [bind, run, rest]
      unfold Completed.andThen
      cases ((next properties).run properties).result <;> rfl
  | store layer next ih => exact ih (properties.write layer)
  | cancel next ih =>
      have rest := ih properties
      simp only [bind, run, rest]
      unfold Completed.andThen
      cases (next.run properties).result <;> simp

@[simp] theorem run_lift (result : Fallible α) (properties : PropertySet) :
    (liftM result : Procedure α).run properties = { result, properties } := rfl

theorem run_resolve (index : Nat) (v : Value) (properties : PropertySet) :
    (resolve index v).run properties =
      { result := properties.resolveValue (some index) v, properties, seen := [properties] } := rfl

theorem run_resolveText (index : Nat) (s : String) (properties : PropertySet) :
    (resolveText index s).run properties =
      { result := properties.resolveTemplate (some index) s, properties, seen := [properties] } :=
  rfl

/-- Where a procedure in two parts ends with a result, both parts do. -/
theorem exists_of_result_run_bind {first : Procedure α} {following : α → Procedure β}
    {properties : PropertySet} {b : β}
    (success : ((first >>= following).run properties).result = .ok b) :
    ∃ a, (first.run properties).result = .ok a ∧
      ((following a).run (first.run properties).properties).result = .ok b := by
  rw [run_bind] at success
  unfold Completed.andThen at success
  cases ending : (first.run properties).result with
  | error failure =>
      rw [ending] at success
      cases success
  | ok a =>
      rw [ending] at success
      exact ⟨a, rfl, success⟩

theorem result_run_ofEffect (effect : Effect) (properties : PropertySet) :
    ((ofEffect effect).run properties).result = effect.result := by
  unfold ofEffect
  split <;> rfl

theorem run_exportValues (values : List (Value × Value)) (properties : PropertySet) :
    (exportValues values).run properties =
      match PropertySet.exportLayer values with
      | .ok layer => { result := .ok (), properties := properties.write layer }
      | .error failure => { result := .error failure, properties } := by
  unfold exportValues
  cases PropertySet.exportLayer values <;> rfl

/-- Writing nothing. -/
def Reads : Procedure α → Prop
  | done _ => True
  | look next => ∀ properties, (next properties).Reads
  | store _ _ => False
  | cancel next => next.Reads

theorem Reads.bind {first : Procedure α} {following : α → Procedure β}
    (reading : first.Reads) (others : ∀ a, (following a).Reads) :
    (first >>= following).Reads := by
  change (first.bind following).Reads
  induction first with
  | done result =>
      cases result with
      | error failure => trivial
      | ok a => exact others a
  | look next ih =>
      intro properties
      exact ih properties (reading properties)
  | store layer next ih => exact reading.elim
  | cancel next ih => exact ih reading

theorem Reads.properties_run {procedure : Procedure α} (reading : procedure.Reads)
    (properties : PropertySet) : (procedure.run properties).properties = properties := by
  induction procedure with
  | done result => rfl
  | look next ih => exact ih properties (reading properties)
  | store layer next ih => exact reading.elim
  | cancel next ih => exact ih reading

theorem Reads.eq_of_mem_seen {procedure : Procedure α} (reading : procedure.Reads)
    {properties view : PropertySet} (member : view ∈ (procedure.run properties).seen) :
    view = properties := by
  induction procedure with
  | done result => cases member
  | look next ih =>
      rcases List.mem_cons.mp member with first | later
      · exact first
      · exact ih properties (reading properties) later
  | store layer next ih => exact reading.elim
  | cancel next ih => exact ih reading member

theorem reads_lift (result : Fallible α) : (liftM result : Procedure α).Reads := trivial

theorem reads_resolve (index : Nat) (v : Value) : (resolve index v).Reads := by
  intro properties
  trivial

theorem reads_resolveText (index : Nat) (s : String) : (resolveText index s).Reads := by
  intro properties
  trivial

theorem reads_ofEffect (effect : Effect) : (ofEffect effect).Reads := by
  unfold ofEffect
  split <;> trivial

end Procedure

end Playbook
