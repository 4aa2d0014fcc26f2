import Playbook.Proofs.Exports
import Playbook.Proofs.Procedure

/-!
# Laws of step execution

Executing a step is all or nothing.  An assertion and a step that fails leave the properties as
they were; an action that succeeds writes exactly the texts that its outcome shows.  Everything
that can fail comes before the only write, since the texts that are written are made by the
computation that makes the texts of the outcome.
-/

namespace Playbook

namespace ActionStep

/-- The texts that a step makes of what its operation has returned. -/
def exportedLayer (step : ActionStep) (produced : Value) : Fallible Layer := do
  PropertySet.exportLayer (← step.exported produced)

theorem matches_of_exportedLayer {step : ActionStep} {produced : Value} {layer : Layer}
    (success : step.exportedLayer produced = .ok layer) :
    ∀ entry ∈ layer, (Name.matchPropertyKey? entry.1.toList).isSome = true := by
  obtain ⟨values, _, texts⟩ := Fallible.bind_eq_ok_iff.mp success
  exact PropertySet.matches_of_exportLayer texts

/-- What a step has written when it ends with a result. -/
def written : Fallible Layer → Layer
  | .ok layer => layer
  | .error _ => []

theorem run_write (step : ActionStep) (produced : Value) (properties : PropertySet) :
    (step.write produced).run properties =
      { result := step.exportedLayer produced
        properties := properties.write (written (step.exportedLayer produced)) } := by
  unfold write exportedLayer
  rw [Procedure.run_bind, Procedure.run_lift]
  cases exported : step.exported produced with
  | error failure => rfl
  | ok values =>
      change ((Procedure.exportValues values >>= fun _ => _).run properties) = _
      rw [Procedure.run_bind, Procedure.run_exportValues]
      change _ = Completed.mk (PropertySet.exportLayer values)
        (properties.write (written (PropertySet.exportLayer values))) false []
      cases texts : PropertySet.exportLayer values with
      | error failure => rfl
      | ok layer =>
          -- The texts that are written are made once more; as they could be made for the
          -- outcome, they can be made again.
          have again := PropertySet.exportTexts_of_exportLayer texts
          simp [Completed.andThen, again, written]

theorem reads_produce (step : ActionStep) (engine : Engine) (index : Nat) (cancelled : Bool) :
    (step.produce engine index cancelled).Reads := by
  unfold produce
  apply Procedure.Reads.bind (Procedure.reads_lift _)
  intro operation
  apply Procedure.Reads.bind
  · unfold parameters
    apply Procedure.Reads.bind (Procedure.reads_resolve _ _)
    intro resolved
    exact Procedure.reads_lift _
  · intro params
    exact Procedure.reads_ofEffect _

/-- What a step sees it has seen before it writes. -/
theorem seen_run_procedure (step : ActionStep) (engine : Engine) (index : Nat)
    (cancelled : Bool) (properties : PropertySet) :
    ((step.procedure engine index cancelled).run properties).seen =
      ((step.produce engine index cancelled).run properties).seen := by
  unfold procedure
  rw [Procedure.run_bind]
  unfold Completed.andThen
  split
  · simp [run_write]
  · rfl

/-- An action ends with a failure behind which the properties are as before, or with the texts
that it has written. -/
theorem run_procedure (step : ActionStep) (engine : Engine) (index : Nat) (cancelled : Bool)
    (properties : PropertySet) :
    (∃ failure cancels seen, (step.procedure engine index cancelled).run properties =
        ⟨.error failure, properties, cancels, seen⟩) ∨
      ∃ produced layer cancels seen, step.exportedLayer produced = .ok layer ∧
        (step.procedure engine index cancelled).run properties =
          ⟨.ok layer, properties.write layer, cancels, seen⟩ := by
  have kept := (step.reads_produce engine index cancelled).properties_run properties
  unfold procedure
  rw [Procedure.run_bind]
  generalize (step.produce engine index cancelled).run properties = completed at kept
  obtain ⟨result, reached, cancels, seen⟩ := completed
  cases kept
  cases result with
  | error failure =>
      left
      exact ⟨failure, cancels, seen, rfl⟩
  | ok produced =>
      simp only [Completed.andThen, run_write]
      cases texts : step.exportedLayer produced with
      | error failure =>
          left
          exact ⟨failure, _, _, rfl⟩
      | ok layer =>
          right
          exact ⟨produced, layer, _, _, texts, rfl⟩

end ActionStep

theorem AssertionStep.reads_procedure (step : AssertionStep) (registry : Registry)
    (index : Nat) : (step.procedure registry index).Reads := by
  unfold procedure
  apply Procedure.Reads.bind (Procedure.reads_lift _)
  intro comparator
  apply Procedure.Reads.bind
  · apply Procedure.Reads.bind (Procedure.reads_resolve _ _)
    intro actual
    apply Procedure.Reads.bind (Procedure.reads_resolve _ _)
    intro expected
    trivial
  · intro claim
    split
    · apply Procedure.Reads.bind (Procedure.reads_resolveText _ _)
      intro ranges
      exact Procedure.reads_lift _
    · split <;> exact Procedure.reads_lift _

namespace Step

/-- Whatever a step sees are the properties that it was given. -/
theorem eq_of_mem_seen_execute {engine : Engine} {index : Nat} {cancelled : Bool} {step : Step}
    {properties view : PropertySet}
    (member : view ∈ (step.execute engine properties index cancelled).seen) :
    view = properties := by
  unfold execute procedure at member
  cases step with
  | assertion check =>
      rw [Procedure.run_bind, Completed.andThen_pure] at member
      exact (check.reads_procedure engine.registry index).eq_of_mem_seen member
  | action task =>
      rw [Procedure.run_bind, Completed.andThen_pure] at member
      rw [task.seen_run_procedure] at member
      exact (task.reads_produce engine index cancelled).eq_of_mem_seen member

theorem execute_assertion (engine : Engine) (properties : PropertySet) (index : Nat)
    (cancelled : Bool) (check : AssertionStep) :
    ∃ verdict cancels seen, Step.execute engine properties index cancelled (.assertion check) =
      ⟨Step.outcome (.assertion check) index verdict [], properties, cancels, seen⟩ := by
  have kept := (check.reads_procedure engine.registry index).properties_run properties
  unfold execute procedure
  rw [Procedure.run_bind, Completed.andThen_pure, kept]
  cases ((check.procedure engine.registry index).run properties).result with
  | error failure => exact ⟨failed failure, _, _, rfl⟩
  | ok verdict => exact ⟨verdict, _, _, rfl⟩

/-- An action is in error and has changed nothing, or it passes and has written what its outcome
shows. -/
theorem execute_action (engine : Engine) (properties : PropertySet) (index : Nat)
    (cancelled : Bool) (task : ActionStep) :
    (∃ failure cancels seen, Step.execute engine properties index cancelled (.action task) =
        ⟨Step.outcome (.action task) index (failed failure) [], properties, cancels, seen⟩) ∨
      ∃ produced layer cancels seen, task.exportedLayer produced = .ok layer ∧
        Step.execute engine properties index cancelled (.action task) =
          ⟨Step.outcome (.action task) index ⟨.pass, ActionStep.message layer⟩ layer,
            properties.write layer, cancels, seen⟩ := by
  unfold execute procedure
  rw [Procedure.run_bind, Completed.andThen_pure]
  rcases task.run_procedure engine index cancelled properties with
    ⟨failure, cancels, seen, ending⟩ | ⟨produced, layer, cancels, seen, texts, ending⟩
  · left
    rw [ending]
    exact ⟨failure, cancels, seen, rfl⟩
  · right
    rw [ending]
    exact ⟨produced, layer, cancels, seen, texts, rfl⟩

/-- Executing a step writes what its outcome shows, and nothing else. -/
theorem properties_execute (engine : Engine) (properties : PropertySet) (index : Nat)
    (cancelled : Bool) (step : Step) :
    (step.execute engine properties index cancelled).properties =
      properties.write (step.execute engine properties index cancelled).outcome.exports := by
  cases step with
  | assertion check =>
      obtain ⟨verdict, cancels, seen, ending⟩ :=
        execute_assertion engine properties index cancelled check
      rw [ending]
      rfl
  | action task =>
      rcases execute_action engine properties index cancelled task with
        ⟨failure, cancels, seen, ending⟩ | ⟨produced, layer, cancels, seen, texts, ending⟩
      · rw [ending]
        rfl
      · rw [ending]
        rfl

theorem exports_execute_assertion (engine : Engine) (properties : PropertySet) (index : Nat)
    (cancelled : Bool) (check : AssertionStep) :
    (Step.execute engine properties index cancelled (.assertion check)).outcome.exports = [] := by
  obtain ⟨verdict, cancels, seen, ending⟩ :=
    execute_assertion engine properties index cancelled check
  rw [ending]
  rfl

/-- The outcome of an action is an error without exports, or a pass that exports under property
keys. -/
theorem outcome_execute_action (engine : Engine) (properties : PropertySet) (index : Nat)
    (cancelled : Bool) (task : ActionStep) :
    let outcome := (Step.execute engine properties index cancelled (.action task)).outcome
    (outcome.status = .error ∧ outcome.exports = []) ∨
      (outcome.status = .pass ∧
        ∀ entry ∈ outcome.exports, (Name.matchPropertyKey? entry.1.toList).isSome = true) := by
  rcases execute_action engine properties index cancelled task with
    ⟨failure, cancels, seen, ending⟩ | ⟨produced, layer, cancels, seen, texts, ending⟩
  · rw [ending]
    left
    exact ⟨rfl, rfl⟩
  · rw [ending]
    right
    exact ⟨rfl, ActionStep.matches_of_exportedLayer texts⟩

theorem exports_execute_of_status_ne_pass (engine : Engine) (properties : PropertySet)
    (index : Nat) (cancelled : Bool) (step : Step)
    (notPassed : (step.execute engine properties index cancelled).outcome.status ≠ .pass) :
    (step.execute engine properties index cancelled).outcome.exports = [] := by
  cases step with
  | assertion check => exact exports_execute_assertion engine properties index cancelled check
  | action task =>
      rcases outcome_execute_action engine properties index cancelled task with
        ⟨inError, noExports⟩ | ⟨passed, _⟩
      · exact noExports
      · exact absurd passed notPassed

/-- A step changes the properties only if it is an action that passes.  What it then adds to the
upper layer are the exports of its outcome, and all of their keys are property keys. -/
theorem execute_all_or_nothing (engine : Engine) (properties : PropertySet) (index : Nat)
    (cancelled : Bool) (step : Step) :
    let executed := step.execute engine properties index cancelled
    executed.outcome.index = index ∧
      executed.outcome.kind = step.kind ∧
      executed.outcome.title = step.title ∧
      executed.properties.file = properties.file ∧
      ((∃ check, step = .assertion check) ∨ executed.outcome.status ≠ .pass →
        executed.properties.runtime = properties.runtime ∧ executed.outcome.exports = []) ∧
      (∀ task, step = .action task → executed.outcome.status = .pass →
        executed.properties.runtime =
            Ordered.putAll properties.runtime executed.outcome.exports ∧
          ∀ entry ∈ executed.outcome.exports,
            (Name.matchPropertyKey? entry.1.toList).isSome = true) ∧
      ∀ task, step = .action task → executed.outcome.status ≠ .fail := by
  intro executed
  have written : executed.properties = properties.write executed.outcome.exports :=
    properties_execute engine properties index cancelled step
  refine ⟨rfl, rfl, rfl, by rw [written, PropertySet.file_write], ?unchanged, ?updated, ?noFail⟩
  case unchanged =>
    intro silent
    have noExports : executed.outcome.exports = [] := by
      rcases silent with ⟨check, rfl⟩ | notPassed
      · exact exports_execute_assertion engine properties index cancelled check
      · exact exports_execute_of_status_ne_pass engine properties index cancelled step notPassed
    rw [written, noExports]
    exact ⟨rfl, rfl⟩
  case updated =>
    intro task same passed
    subst same
    refine ⟨by rw [written, PropertySet.runtime_write], ?_⟩
    rcases outcome_execute_action engine properties index cancelled task with
      ⟨inError, _⟩ | ⟨_, keys⟩
    · cases passed.symm.trans inError
    · exact keys
  case noFail =>
    intro task same failed
    subst same
    rcases outcome_execute_action engine properties index cancelled task with
      ⟨inError, _⟩ | ⟨passed, _⟩
    · cases failed.symm.trans inError
    · cases failed.symm.trans passed

end Step

end Playbook
