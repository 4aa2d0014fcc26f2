import Playbook.Proofs.Rounding
import Playbook.Proofs.StepExecution
import Playbook.Proofs.StepReading

/-!
# Actions that take no time

An operation that answers at once is never abandoned, since settings give every step some time.
What becomes of its step is settled by its answer: it is exported as a whole, or the step is in
error and nothing is written.
-/

namespace Playbook

open Fallible

namespace Settings

/-- Settings with a positive time limit and a grace that is not negative. -/
structure Sound (settings : Settings) : Prop where
  timeout : Binary64.lt (.zero false) settings.defaultTimeout = true
  grace : Binary64.le (.zero false) settings.timeoutGrace = true

theorem sound_default : Sound {} := by
  constructor <;> decide +kernel

theorem lt_of_positive {v : Value} {x : Binary64} (success : Field.positive v = .ok x) :
    Binary64.lt (.zero false) x = true := by
  obtain ⟨y, _, success⟩ := bind_eq_ok_iff.mp success
  split at success
  · cases success
    assumption
  · cases success

theorem le_of_nonnegative {v : Value} {x : Binary64} (success : Field.nonnegative v = .ok x) :
    Binary64.le (.zero false) x = true := by
  obtain ⟨y, _, success⟩ := bind_eq_ok_iff.mp success
  split at success
  · cases success
    assumption
  · cases success

/-- Settings that have been read are sound. -/
theorem sound_of_read {environment : List (String × String)} {given : List (String × Value)}
    {settings : Settings} (success : read environment given = .ok settings) : settings.Sound := by
  obtain ⟨timeout, timeoutRead, success⟩ := bind_eq_ok_iff.mp success
  obtain ⟨grace, graceRead, success⟩ := bind_eq_ok_iff.mp success
  obtain ⟨_, _, success⟩ := bind_eq_ok_iff.mp success
  obtain ⟨_, _, success⟩ := bind_eq_ok_iff.mp success
  obtain ⟨_, _, success⟩ := bind_eq_ok_iff.mp success
  obtain ⟨_, _, success⟩ := bind_eq_ok_iff.mp success
  cases success
  constructor
  · rcases Field.withDefault_eq_ok timeoutRead with rfl | ⟨v, positive⟩
    · exact sound_default.timeout
    · exact lt_of_positive positive
  · rcases Field.withDefault_eq_ok graceRead with rfl | ⟨v, nonnegative⟩
    · exact sound_default.grace
    · exact le_of_nonnegative nonnegative

end Settings

/-- An operation answers parameters at once, whatever else it may know. -/
def Operation.Answers (operation : Operation) (params : List (String × Value))
    (answer : Fallible Value) : Prop :=
  ∀ context, operation.behaviour params context = Capability.immediately answer

/-- What a step takes over from an answer: plain data only. -/
def Fallible.normalized (answer : Fallible Value) : Fallible Value :=
  answer.bind fun v => v.normalize.mapError .fault

namespace ActionStep

/-- A step whose operation is known, takes the resolved parameters and answers them at once. -/
structure Answered (task : ActionStep) (engine : Engine) (properties : PropertySet) (index : Nat)
    (answer : Fallible Value) : Prop where
  untimed : task.timeout = none
  operation : ∃ operation resolved params,
    engine.registry.operation? task.kind = some operation ∧
    properties.resolveValue (some index) (.record task.params) = .ok resolved ∧
    operation.form.read resolved = .ok params ∧ operation.Answers params answer

variable {task : ActionStep} {engine : Engine} {properties : PropertySet} {index : Nat}
  {answer : Fallible Value}

theorem perform_eq {operation : Operation} {params : List (String × Value)}
    (answers : operation.Answers params answer) (untimed : task.timeout = none)
    (sound : engine.settings.Sound) (cancelled : Bool) :
    task.perform engine operation params index cancelled =
      Capability.immediately answer.normalized := by
  have inTime : ¬((task.timeLimit engine.settings).add engine.settings.timeoutGrace).lt
      (.zero false) = true := by
    rw [timeLimit, untimed, Bool.not_eq_true]
    exact Binary64.lt_zero_add sound.timeout sound.grace
  unfold perform Operation.call
  dsimp only
  rw [answers]
  exact if_neg inTime

theorem Answered.run_produce (answered : task.Answered engine properties index answer)
    (sound : engine.settings.Sound) (cancelled : Bool) :
    (task.produce engine index cancelled).run properties =
      { result := answer.normalized, properties, seen := [properties] } := by
  obtain ⟨operation, resolved, params, known, resolves, reads, answers⟩ := answered.operation
  unfold produce ActionStep.operation parameters
  rw [known, Procedure.run_bind, Procedure.run_lift]
  unfold Completed.andThen
  dsimp only
  rw [Procedure.run_bind, Procedure.run_bind, Procedure.run_resolve, resolves]
  unfold Completed.andThen Diagnostic.checked
  dsimp only
  rw [Procedure.run_lift, reads]
  dsimp only [Except.mapError]
  rw [perform_eq answers answered.untimed sound]
  rfl

/-- What becomes of a step that is answered at once. -/
theorem Answered.execute_eq (answered : task.Answered engine properties index answer)
    (sound : engine.settings.Sound) (cancelled : Bool) :
    Step.execute engine properties index cancelled (.action task) =
      match answer.normalized >>= task.exportedLayer with
      | .ok layer =>
          ⟨Step.outcome (.action task) index ⟨.pass, message layer⟩ layer,
            properties.write layer, false, [properties]⟩
      | .error failure =>
          ⟨Step.outcome (.action task) index (Step.failed failure) [], properties, false,
            [properties]⟩ := by
  unfold Step.execute Step.procedure procedure
  rw [Procedure.run_bind, Completed.andThen_pure, Procedure.run_bind,
    answered.run_produce sound cancelled]
  unfold Completed.andThen
  cases answer.normalized with
  | error failure => rfl
  | ok produced =>
      dsimp only
      rw [run_write]
      change _ = match task.exportedLayer produced with
        | .ok layer => _
        | .error failure => _
      cases task.exportedLayer produced <;> rfl

end ActionStep

end Playbook
