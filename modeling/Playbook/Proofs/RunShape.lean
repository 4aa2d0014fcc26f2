import Mathlib.Logic.ExistsUnique
import Playbook.Proofs.PropertyFlow

/-!
# The shape of runs

A run executes steps in order up to the first outcome that stops it or the first check that finds
it cancelled.  It ends in exactly one of three ways: behind its last step, stopped behind a step,
or cancelled before a step.
-/

namespace Playbook

/-- Whether the check before the next step finds the run cancelled, when steps from a position on
have been executed.  What was cancelled once stays so. -/
def Cancellation.found (cancellation : Cancellation) : Nat → Bool → List Executed → Bool
  | index, cancelled, [] => cancelled || cancellation.before index
  | index, cancelled, executed :: rest =>
      cancellation.found (index + 1)
        (cancelled || cancellation.before index || cancellation.entering index ||
          cancellation.during index || (cancellation.bySteps && executed.cancels)) rest

/-- A check finds a run cancelled if that happened at any time before it: at the start, before or
during one of the steps, or by one of them if steps may do that. -/
theorem Cancellation.found_iff {cancellation : Cancellation} {index : Nat} {cancelled : Bool}
    {executed : List Executed} :
    cancellation.found index cancelled executed = true ↔
      cancelled = true ∨
      (∃ ahead, ahead < executed.length + 1 ∧ cancellation.before (index + ahead) = true) ∨
      (∃ ahead, ahead < executed.length ∧ (cancellation.entering (index + ahead) = true ∨
        cancellation.during (index + ahead) = true)) ∨
      (cancellation.bySteps = true ∧ ∃ step ∈ executed, step.cancels = true) := by
  induction executed generalizing index cancelled with
  | nil => simp [Cancellation.found]
  | cons first rest ih =>
      -- What happens at the first step is taken out of what happens at some step.
      have shift (times : Nat → Bool) (count : Nat) :
          (∃ ahead, ahead < count + 1 ∧ times (index + ahead) = true) ↔
            times index = true ∨ ∃ ahead, ahead < count ∧ times (index + 1 + ahead) = true := by
        rw [Nat.exists_lt_succ_left]
        simp only [Nat.add_zero, Nat.add_right_comm, Nat.add_assoc]
      simp only [← Bool.or_eq_true] at ih ⊢
      rw [Cancellation.found, ih, List.length_cons, shift, shift fun time =>
        cancellation.entering time || cancellation.during time]
      simp only [List.mem_cons, exists_eq_or_imp, Bool.or_eq_true, Bool.and_eq_true]
      grind

/-- The ways in which a run ends. -/
inductive Ending where
  | completed
  | stopped
  | cancelled
deriving DecidableEq, Repr

/-- What the result of a run shows of its ending, where `found` is whether the check behind its
last outcome finds the run cancelled. -/
def Result.EndsBy (result : Result) (settings : Settings) (steps : List Step) (found : Bool) :
    Ending → Prop
  | .completed =>
      result.state = .completed ∧ result.outcomes.length = steps.length ∧
        (∀ outcome ∈ result.outcomes, settings.stopsAt outcome = false) ∧
        result.abortReason = none
  | .stopped =>
      result.state = .aborted ∧ ∃ outcome, result.outcomes.getLast? = some outcome ∧
        settings.stopsAt outcome = true ∧
        result.abortReason = some ("aborted after step " ++ toString result.outcomes.length ++
          " ended with " ++ outcome.status.title)
  | .cancelled =>
      result.state = .aborted ∧ result.outcomes.length < steps.length ∧ found = true ∧
        result.abortReason = some ("run cancelled before step " ++
          toString (result.outcomes.length + 1))

namespace Run

/-- The sign that a step leaves behind a check that has not found the run cancelled. -/
private theorem found_cons {cancellation : Cancellation} {index : Nat} {cancelled : Bool}
    (unseen : ¬(cancelled || cancellation.before index) = true) (executed : Executed)
    (rest : List Executed) :
    cancellation.found index cancelled (executed :: rest) =
      cancellation.found (index + 1) (cancellation.entering index || cancellation.during index ||
        (cancellation.bySteps && executed.cancels)) rest := by
  have clear : (cancelled || cancellation.before index) = false := by simpa using unseen
  simp [Cancellation.found, clear]

/-- Every check before a step that was executed has not found the run cancelled. -/
theorem found_take_ofSteps (engine : Engine) (cancellation : Cancellation) (index : Nat)
    (cancelled : Bool) (properties : PropertySet) (steps : List Step) (position : Nat)
    (inside : position <
      (ofSteps engine cancellation index cancelled properties steps).executed.length) :
    cancellation.found index cancelled
      ((ofSteps engine cancellation index cancelled properties steps).executed.take position) =
        false := by
  fun_induction ofSteps engine cancellation index cancelled properties steps
    generalizing position with
  | case1 => simp [finished] at inside
  | case2 => simp [cancelledBefore] at inside
  | case3 index cancelled properties step rest unseen first =>
      have only : position = 0 := by
        simp [stoppedAt] at inside
        exact inside
      subst only
      simpa [Cancellation.found] using unseen
  | case4 index cancelled properties step rest unseen first _ _ ih =>
      cases position with
      | zero => simpa [Cancellation.found] using unseen
      | succ position =>
          rw [executed_after, List.take_succ_cons, found_cons unseen]
          apply ih
          simpa using inside

/-- Only the last outcome of a run may stop it. -/
theorem stopsAt_of_later_ofSteps (engine : Engine) (cancellation : Cancellation) (index : Nat)
    (cancelled : Bool) (properties : PropertySet) (steps : List Step) (position : Nat)
    (outcome : Outcome)
    (found : (ofSteps engine cancellation index cancelled properties steps).outcomes[position]? =
      some outcome)
    (later : position + 1 <
      (ofSteps engine cancellation index cancelled properties steps).outcomes.length) :
    engine.settings.stopsAt outcome = false := by
  fun_induction ofSteps engine cancellation index cancelled properties steps
    generalizing position with
  | case1 => simp [finished, outcomes] at later
  | case2 => simp [cancelledBefore, outcomes] at later
  | case3 => simp [stoppedAt, outcomes] at later
  | case4 index cancelled properties step rest _ first _ goesOn ih =>
      cases position with
      | zero =>
          have same : first.outcome = outcome := Option.some.inj found
          rw [← same]
          simpa using goesOn
      | succ position =>
          apply ih position
          · exact found
          · simpa using later

/-- A run of steps from a position on ends behind the last one, behind an outcome that stops it,
or before a step that finds it cancelled. -/
theorem ending_ofSteps (engine : Engine) (cancellation : Cancellation) (index : Nat)
    (cancelled : Bool) (properties : PropertySet) (steps : List Step) :
    let run := ofSteps engine cancellation index cancelled properties steps
    (run.state = .completed ∧ run.outcomes.length = steps.length ∧
        (∀ outcome ∈ run.outcomes, engine.settings.stopsAt outcome = false) ∧
        run.abortReason = none) ∨
      (run.state = .aborted ∧
        ∃ outcome, run.outcomes.getLast? = some outcome ∧
          engine.settings.stopsAt outcome = true ∧
          run.abortReason = some ("aborted after step " ++
            toString (index + run.outcomes.length - 1) ++ " ended with " ++
            outcome.status.title)) ∨
      (run.state = .aborted ∧ run.outcomes.length < steps.length ∧
        cancellation.found index cancelled run.executed = true ∧
        run.abortReason = some ("run cancelled before step " ++
          toString (index + run.outcomes.length))) := by
  fun_induction ofSteps engine cancellation index cancelled properties steps with
  | case1 =>
      left
      simp [finished, outcomes]
  | case2 index cancelled properties step rest seen =>
      right; right
      exact ⟨rfl, Nat.zero_lt_succ _, seen, rfl⟩
  | case3 index cancelled properties step rest _ first _ stops =>
      right; left
      exact ⟨rfl, first.outcome, rfl, stops, rfl⟩
  | case4 index cancelled properties step rest unseen first signal goesOn ih =>
      -- The run ends as its rest does, which counts its steps from the next one on.
      generalize ofSteps engine cancellation (index + 1) signal first.properties rest = others
        at ih ⊢
      have position : index + (others.outcomes.length + 1) =
          index + 1 + others.outcomes.length := by omega
      simp only [executed_after, outcomes_after, List.length_cons, position]
      rcases ih with ⟨state, length, goOn, reason⟩ | ⟨state, last, isLast, stops, reason⟩ |
        ⟨state, length, seen, reason⟩
      · left
        refine ⟨state, by rw [length], ?_, reason⟩
        intro outcome member
        rcases List.mem_cons.mp member with rfl | later
        · simpa using goesOn
        · exact goOn outcome later
      · right; left
        refine ⟨state, last, ?_, stops, reason⟩
        rw [List.getLast?_cons, isLast]
        rfl
      · right; right
        refine ⟨state, by omega, ?_, reason⟩
        rw [found_cons unseen]
        exact seen

end Run

/-- The reasons for stopping and for being cancelled are different texts. -/
private theorem stopReason_ne_cancelReason (stopped cancelled : String) :
    "aborted after step " ++ stopped ≠ "run cancelled before step " ++ cancelled := by
  intro same
  have firsts := congrArg (fun text => text.toList.head?) same
  simp at firsts

theorem Result.EndsBy.unique {result : Result} {settings : Settings} {steps : List Step}
    {found : Bool} {first second : Ending}
    (firstEnds : result.EndsBy settings steps found first)
    (secondEnds : result.EndsBy settings steps found second) : first = second := by
  -- Both of these endings abort the run, and only their reasons tell them apart.
  have apart : ¬(result.EndsBy settings steps found .stopped ∧
      result.EndsBy settings steps found .cancelled) := by
    intro ⟨⟨_, outcome, _, _, stopped⟩, _, _, _, cancelled⟩
    have same := Option.some.inj (stopped.symm.trans cancelled)
    rw [String.append_assoc, String.append_assoc] at same
    exact stopReason_ne_cancelReason _ _ same
  cases first with
  | completed =>
      cases second with
      | completed => rfl
      | stopped => cases firstEnds.1.symm.trans secondEnds.1
      | cancelled => cases firstEnds.1.symm.trans secondEnds.1
  | stopped =>
      cases second with
      | completed => cases firstEnds.1.symm.trans secondEnds.1
      | stopped => rfl
      | cancelled => exact absurd ⟨firstEnds, secondEnds⟩ apart
  | cancelled =>
      cases second with
      | completed => cases firstEnds.1.symm.trans secondEnds.1
      | stopped => exact absurd ⟨secondEnds, firstEnds⟩ apart
      | cancelled => rfl

namespace Runner

/-- A run executes no step twice and none out of order, stops only where its settings say so, and
executes no step behind a check that finds it cancelled.  It ends in exactly one way. -/
theorem execute_shape (runner : Runner) (cancellation : Cancellation) (cancelled : Bool)
    (properties : PropertySet) (scenario : Scenario) (source : String) :
    let (result, run) := runner.execute cancellation cancelled properties scenario source
    result.outcomes = run.executed.map Executed.outcome ∧
      result.outcomes.length ≤ scenario.steps.length ∧
      (∀ position outcome, result.outcomes[position]? = some outcome →
        ∃ step, scenario.steps[position]? = some step ∧ outcome.index = position + 1 ∧
          outcome.kind = step.kind ∧ outcome.title = step.title) ∧
      (∀ position outcome, result.outcomes[position]? = some outcome →
        position + 1 < result.outcomes.length →
        runner.engine.settings.stopsAt outcome = false) ∧
      (∀ position, position < run.executed.length →
        cancellation.found 1 cancelled (run.executed.take position) = false) ∧
      ∃! ending, result.EndsBy runner.engine.settings scenario.steps
        (cancellation.found 1 cancelled run.executed) ending := by
  change _ ∧ _ ∧ _ ∧ _ ∧ _ ∧ _
  have ending := Run.ending_ofSteps runner.engine cancellation 1 cancelled properties
    scenario.steps
  refine ⟨rfl, ?length, ?steps, ?goingOn, ?unseen, ?ends⟩
  case length =>
    exact Run.length_outcomes_le runner.engine cancellation 1 cancelled properties scenario.steps
  case steps =>
    intro position outcome found
    obtain ⟨executed, executedFound, rfl⟩ := Option.map_eq_some_iff.mp
      ((List.getElem?_map ..).symm.trans found)
    obtain ⟨step, stepFound, rfl⟩ := Run.getElem?_executed_ofSteps runner.engine cancellation 1
      cancelled properties scenario.steps position executed executedFound
    refine ⟨step, stepFound, ?_, rfl, rfl⟩
    exact Nat.add_comm 1 position
  case goingOn =>
    exact Run.stopsAt_of_later_ofSteps runner.engine cancellation 1 cancelled properties
      scenario.steps
  case unseen =>
    exact Run.found_take_ofSteps runner.engine cancellation 1 cancelled properties scenario.steps
  case ends =>
    apply existsUnique_of_exists_of_unique
    · rcases ending with completed | ⟨state, last, isLast, stops, reason⟩ |
        ⟨state, length, seen, reason⟩
      · exact ⟨.completed, completed⟩
      · rw [Nat.add_comm 1, Nat.add_sub_cancel] at reason
        exact ⟨.stopped, state, last, isLast, stops, reason⟩
      · rw [Nat.add_comm 1] at reason
        exact ⟨.cancelled, state, length, seen, reason⟩
    · intro first second
      exact Result.EndsBy.unique

end Runner

end Playbook
