import Playbook.Proofs.StepExecution
import Playbook.Runner

/-!
# The flow of properties through a run

The properties of a run change only by the exports of its outcomes.  Every step sees the
properties that the run has begun with, under the exports of the steps before it.
-/

namespace Playbook

namespace PropertySet

/-- Properties with the exports of outcomes written above them in order. -/
def exporting (properties : PropertySet) (outcomes : List Outcome) : PropertySet where
  runtime := outcomes.foldl
    (fun layer outcome => Ordered.putAll layer outcome.exports) properties.runtime
  file := properties.file

@[simp] theorem exporting_nil (properties : PropertySet) : properties.exporting [] = properties :=
  rfl

@[simp] theorem exporting_cons (properties : PropertySet) (outcome : Outcome)
    (outcomes : List Outcome) :
    properties.exporting (outcome :: outcomes) =
      (properties.write outcome.exports).exporting outcomes := rfl

end PropertySet

namespace Run

@[simp] theorem outcomes_after (executed : Executed) (run : Run) :
    (after executed run).outcomes = executed.outcome :: run.outcomes := rfl

@[simp] theorem executed_after (executed : Executed) (run : Run) :
    (after executed run).executed = executed :: run.executed := rfl

@[simp] theorem properties_after (executed : Executed) (run : Run) :
    (after executed run).properties = run.properties := rfl

theorem properties_ofSteps (engine : Engine) (cancellation : Cancellation) (index : Nat)
    (cancelled : Bool) (properties : PropertySet) (steps : List Step) :
    (ofSteps engine cancellation index cancelled properties steps).properties =
      properties.exporting
        (ofSteps engine cancellation index cancelled properties steps).outcomes := by
  fun_induction ofSteps engine cancellation index cancelled properties steps with
  | case1 => rfl
  | case2 => rfl
  | case3 index _ properties step rest _ executed =>
      exact Step.properties_execute engine properties index (cancellation.entering index) step
  | case4 index _ properties step rest _ executed _ _ ih =>
      have written : executed.properties = properties.write executed.outcome.exports :=
        Step.properties_execute engine properties index (cancellation.entering index) step
      rw [properties_after, outcomes_after, PropertySet.exporting_cons, ← written]
      exact ih

/-- Every step is executed on the properties that the run has begun with, under the exports of
the steps before it. -/
theorem getElem?_executed_ofSteps (engine : Engine) (cancellation : Cancellation) (index : Nat)
    (cancelled : Bool) (properties : PropertySet) (steps : List Step) (position : Nat)
    (executed : Executed)
    (member : (ofSteps engine cancellation index cancelled properties steps).executed[position]? =
      some executed) :
    ∃ step, steps[position]? = some step ∧
      executed = step.execute engine
        (properties.exporting ((ofSteps engine cancellation index cancelled properties
          steps).outcomes.take position))
        (index + position) (cancellation.entering (index + position)) := by
  fun_induction ofSteps engine cancellation index cancelled properties steps
    generalizing position with
  | case1 => simp [finished] at member
  | case2 => simp [cancelledBefore] at member
  | case3 index _ properties step rest _ first =>
      cases position with
      | zero =>
          have same : first = executed := Option.some.inj member
          exact ⟨step, rfl, same.symm⟩
      | succ position => simp [stoppedAt] at member
  | case4 index _ properties step rest _ first _ _ ih =>
      cases position with
      | zero =>
          have same : first = executed := Option.some.inj member
          exact ⟨step, rfl, same.symm⟩
      | succ position =>
          -- The rest of the run begins with what the first step has written.
          have written : first.properties = properties.write first.outcome.exports :=
            Step.properties_execute engine properties index (cancellation.entering index) step
          obtain ⟨later, found, ending⟩ := ih position member
          refine ⟨later, found, ?_⟩
          rw [outcomes_after, List.take_succ_cons, PropertySet.exporting_cons, ← written]
          rw [show index + (position + 1) = index + 1 + position by omega]
          exact ending

end Run

namespace Runner

/-- In a run, every step is executed on the properties that the run has begun with, under the
exports of the outcomes before its own one, and sees nothing else.  Behind the run are the exports
of all outcomes; a step that has not passed exports nothing. -/
theorem execute_property_flow (runner : Runner) (cancellation : Cancellation) (cancelled : Bool)
    (start : PropertySet) (scenario : Scenario) (source : String) :
    let (result, run) := runner.execute cancellation cancelled start scenario source
    run.properties = start.exporting result.outcomes ∧
      (∀ outcome ∈ result.outcomes, outcome.status ≠ .pass → outcome.exports = []) ∧
      result.outcomes = run.executed.map Executed.outcome ∧
      ∀ position executed, run.executed[position]? = some executed →
        ∃ step, scenario.steps[position]? = some step ∧
          executed = step.execute runner.engine
            (start.exporting (result.outcomes.take position)) (position + 1)
            (cancellation.entering (position + 1)) ∧
          ∀ view ∈ executed.seen, view = start.exporting (result.outcomes.take position) := by
  change _ ∧ _ ∧ _ ∧ _
  have flow := Run.getElem?_executed_ofSteps runner.engine cancellation 1 cancelled start
    scenario.steps
  refine ⟨?behind, ?silent, rfl, ?steps⟩
  case behind =>
    exact Run.properties_ofSteps runner.engine cancellation 1 cancelled start scenario.steps
  case silent =>
    intro outcome member notPassed
    obtain ⟨executed, executedMember, rfl⟩ := List.mem_map.mp member
    obtain ⟨position, found⟩ := List.mem_iff_getElem?.mp executedMember
    obtain ⟨step, _, rfl⟩ := flow position executed found
    exact Step.exports_execute_of_status_ne_pass _ _ _ _ step notPassed
  case steps =>
    intro position executed found
    obtain ⟨step, stepFound, ending⟩ := flow position executed found
    rw [Nat.add_comm 1 position] at ending
    refine ⟨step, stepFound, ending, ?_⟩
    intro view member
    rw [ending] at member
    exact Step.eq_of_mem_seen_execute member

end Runner

end Playbook
