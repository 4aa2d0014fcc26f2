import Playbook.Proofs.PropertyFlow

/-!
# Runs under a stop policy

A policy that may stop a run only cuts it off.  Up to the first outcome that the policy stops at,
the run does what it does under a policy that never stops.
-/

namespace Playbook

/-- The same settings with a policy that never stops a run. -/
def Settings.relentless (settings : Settings) : Settings :=
  { settings with abortOnError := false, abortOnFailure := false }

/-- The same engine with a policy that never stops a run. -/
def Engine.relentless (engine : Engine) : Engine :=
  { engine with settings := engine.settings.relentless }

/-- The same runner with a policy that never stops a run. -/
def Runner.relentless (runner : Runner) : Runner :=
  { runner with engine := runner.engine.relentless }

@[simp] theorem Settings.stopsAt_relentless (settings : Settings) (outcome : Outcome) :
    settings.relentless.stopsAt outcome = false := by
  unfold stopsAt
  cases outcome.status <;> rfl

/-- Steps do not know the policy of their run. -/
theorem Step.execute_relentless (engine : Engine) (properties : PropertySet) (index : Nat)
    (cancelled : Bool) (step : Step) :
    step.execute engine.relentless properties index cancelled =
      step.execute engine properties index cancelled := by
  cases step <;> rfl

namespace Run

/-- The properties behind some of the steps of a run that began with the given ones. -/
def propertiesBehind (run : Run) (start : PropertySet) (steps : Nat) : PropertySet :=
  ((run.executed.take steps).getLast?.map Executed.properties).getD start

theorem propertiesBehind_length (engine : Engine) (cancellation : Cancellation) (index : Nat)
    (cancelled : Bool) (start : PropertySet) (steps : List Step) :
    let run := ofSteps engine cancellation index cancelled start steps
    run.propertiesBehind start run.executed.length = run.properties := by
  unfold propertiesBehind
  dsimp only
  rw [List.take_length]
  fun_induction ofSteps engine cancellation index cancelled start steps with
  | case1 => rfl
  | case2 => rfl
  | case3 => rfl
  | case4 index _ properties step rest _ first _ _ ih =>
      rw [executed_after, properties_after, ← ih, List.getLast?_cons]
      cases (ofSteps engine cancellation (index + 1) _ first.properties rest).executed.getLast? <;>
        rfl

/-- Behind all steps of a run that was cut off are the properties that the whole run has there. -/
theorem propertiesBehind_of_take {run whole : Run} {count : Nat}
    (cut : run.executed = whole.executed.take count) (start : PropertySet) :
    run.propertiesBehind start run.executed.length =
      whole.propertiesBehind start run.executed.length := by
  have same : whole.executed.take run.executed.length = run.executed := by
    rw [cut, List.length_take, ← List.take_eq_take_min]
  unfold propertiesBehind
  rw [same, List.take_length]

/-- Where a run is not found cancelled, a relentless one executes the next step and goes on. -/
theorem ofSteps_relentless_cons {engine : Engine} {cancellation : Cancellation} {index : Nat}
    {cancelled : Bool} (unseen : ¬(cancelled || cancellation.before index) = true)
    (properties : PropertySet) (step : Step) (rest : List Step) :
    let first := step.execute engine properties index (cancellation.entering index)
    ofSteps engine.relentless cancellation index cancelled properties (step :: rest) =
      after first (ofSteps engine.relentless cancellation (index + 1)
        (cancellation.entering index || cancellation.during index ||
          (cancellation.bySteps && first.cancels)) first.properties rest) := by
  intro first
  have goesOn : engine.relentless.settings.stopsAt first.outcome = false :=
    engine.settings.stopsAt_relentless first.outcome
  rw [ofSteps, if_neg unseen, Step.execute_relentless]
  exact if_neg (Bool.eq_false_iff.mp goesOn)

/-- Step by step, a run is its relentless counterpart up to the outcome that stops it. -/
theorem executed_ofSteps_eq_take (engine : Engine) (cancellation : Cancellation) (index : Nat)
    (cancelled : Bool) (properties : PropertySet) (steps : List Step) :
    let whole := ofSteps engine.relentless cancellation index cancelled properties steps
    (ofSteps engine cancellation index cancelled properties steps).executed =
      whole.executed.take (whole.outcomes.findIdx engine.settings.stopsAt + 1) := by
  intro whole
  subst whole
  fun_induction ofSteps engine cancellation index cancelled properties steps with
  | case1 => rfl
  | case2 index cancelled properties step rest seen =>
      rw [ofSteps, if_pos seen]
      rfl
  | case3 index cancelled properties step rest unseen first signal stops =>
      rw [ofSteps_relentless_cons unseen, outcomes_after, executed_after, List.findIdx_cons, stops]
      rfl
  | case4 index cancelled properties step rest unseen first signal goesOn ih =>
      rw [ofSteps_relentless_cons unseen, outcomes_after, executed_after, executed_after,
        List.findIdx_cons, Bool.eq_false_iff.mpr goesOn, cond_false, List.take_succ_cons]
      exact congrArg (first :: ·) ih

end Run

namespace Runner

/-- A run under a policy is the relentless run, cut off just behind the first outcome that the
policy stops at.  The properties behind it are those that the relentless run has behind as many
steps. -/
theorem execute_truncates (runner : Runner) (cancellation : Cancellation) (cancelled : Bool)
    (start : PropertySet) (scenario : Scenario) (source : String) :
    let (result, run) := runner.execute cancellation cancelled start scenario source
    let (whole, relentless) :=
      runner.relentless.execute cancellation cancelled start scenario source
    let stop := whole.outcomes.findIdx runner.engine.settings.stopsAt
    result.outcomes = whole.outcomes.take (stop + 1) ∧
      run.executed = relentless.executed.take (stop + 1) ∧
      run.properties = relentless.propertiesBehind start result.outcomes.length := by
  change _ ∧ _ ∧ _
  have cut := Run.executed_ofSteps_eq_take runner.engine cancellation 1 cancelled start
    scenario.steps
  refine ⟨?outcomes, cut, ?properties⟩
  case outcomes =>
    calc
      _ = List.map Executed.outcome (List.take _ _) := congrArg (List.map Executed.outcome) cut
      _ = _ := List.map_take
  case properties =>
    have behind := Run.propertiesBehind_length runner.engine cancellation 1 cancelled start
      scenario.steps
    change _ = Run.propertiesBehind _ start (List.map Executed.outcome _).length
    rw [List.length_map]
    exact behind.symm.trans (Run.propertiesBehind_of_take cut start)

end Runner

end Playbook
