import Playbook.Proofs.StepExecution
import Playbook.Runner

/-!
# Failures without a text

What an extension raises may have no text.  A step that ends with such a failure has no outcome:
what asking for the text raises leaves the step, with the properties as they were.  Every other
step has an outcome and is all or nothing.  A run meets the first case only if some failure has no
text; otherwise it is the run in which all failures tell their messages.
-/

namespace Playbook

/-- No failure has another text than its message. -/
def Telling.Truthful (tell : Telling) : Prop :=
  ∀ failure text, tell failure = .ok text → text = failure.outcomeMessage

theorem Telling.truthful_plain : Telling.plain.Truthful := by
  intro failure text said
  exact (Except.ok.inj said).symm

namespace Step

/-- Carrying out a step on the properties of its run ends with a failure. -/
def FailsWith (engine : Engine) (properties : PropertySet) (index : Nat) (cancelled : Bool)
    (step : Step) (failure : Failure) : Prop :=
  ((step.procedure engine index cancelled).run properties).result = .error failure

theorem told_eq_error_iff {tell : Telling} {result : Fallible (Verdict × Layer)}
    {instead : Failure} :
    told tell result = .error instead ↔
      ∃ failure, result = .error failure ∧ tell failure = .error instead := by
  cases result with
  | ok ending =>
      constructor
      · intro raised
        cases raised
      · intro ⟨failure, failed, _⟩
        cases failed
  | error failure =>
      constructor
      · intro raised
        rcases Fallible.bind_eq_error_iff.mp raised with said | ⟨text, _, returned⟩
        · exact ⟨failure, rfl, said⟩
        · cases returned
      · intro ⟨same, failed, said⟩
        cases failed
        exact Fallible.bind_eq_error_iff.mpr (.inl said)

/-- What is told of a step differs at most in its message from what the step is settled with. -/
theorem settled_of_told {tell : Telling} {result : Fallible (Verdict × Layer)}
    {verdict : Verdict} {exports : Layer} (success : told tell result = .ok (verdict, exports)) :
    verdict.status = (settled result).1.status ∧ exports = (settled result).2 := by
  cases result with
  | ok ending =>
      cases success
      exact ⟨rfl, rfl⟩
  | error failure =>
      obtain ⟨text, _, same⟩ := Fallible.bind_eq_ok_iff.mp success
      cases same
      exact ⟨rfl, rfl⟩

theorem settled_of_told_truthful {tell : Telling} (truthful : tell.Truthful)
    {result : Fallible (Verdict × Layer)} {ending : Verdict × Layer}
    (success : told tell result = .ok ending) : ending = settled result := by
  cases result with
  | ok original =>
      cases success
      rfl
  | error failure =>
      obtain ⟨text, said, same⟩ := Fallible.bind_eq_ok_iff.mp success
      cases same
      cases truthful failure text said
      rfl

section Attempts

variable {tell : Telling} {engine : Engine} {properties : PropertySet} {index : Nat}
variable {cancelled : Bool} {step : Step}

theorem outcome_attempt_eq_error_iff {instead : Failure} :
    (step.attempt tell engine properties index cancelled).outcome = .error instead ↔
      ∃ failure, step.FailsWith engine properties index cancelled failure ∧
        tell failure = .error instead :=
  Fallible.map_eq_error_iff.trans told_eq_error_iff

theorem outcome_attempt_of_failsWith {failure : Failure} {text : String}
    (fails : step.FailsWith engine properties index cancelled failure)
    (said : tell failure = .ok text) :
    (step.attempt tell engine properties index cancelled).outcome =
      .ok (step.outcome index ⟨.error, text⟩ []) := by
  have ending : told tell ((step.procedure engine index cancelled).run properties).result =
      .ok (⟨.error, text⟩, []) := by
    rw [fails]
    exact Fallible.bind_eq_ok_iff.mpr ⟨text, said, rfl⟩
  exact Fallible.map_eq_ok_iff.mpr ⟨_, ending, rfl⟩

/-- An outcome differs at most in its message from the one in which all failures tell theirs. -/
theorem eq_outcome_execute {outcome : Outcome}
    (returned : (step.attempt tell engine properties index cancelled).outcome = .ok outcome) :
    outcome = { (step.execute engine properties index cancelled).outcome with
      message := outcome.message } := by
  obtain ⟨⟨verdict, exports⟩, success, same⟩ := Fallible.map_eq_ok_iff.mp returned
  obtain ⟨status, layer⟩ := settled_of_told success
  subst same
  change Outcome.mk index step.kind verdict.status verdict.message step.title exports =
    Outcome.mk index step.kind
      (settled ((step.procedure engine index cancelled).run properties).result).1.status
      verdict.message step.title
      (settled ((step.procedure engine index cancelled).run properties).result).2
  rw [status, layer]

end Attempts

theorem executed_attempt_cases {tell : Telling} (truthful : tell.Truthful) (engine : Engine)
    (properties : PropertySet) (index : Nat) (cancelled : Bool) (step : Step) :
    (step.attempt tell engine properties index cancelled).executed =
        .ok (step.execute engine properties index cancelled) ∨
      ∃ failure instead, tell failure = .error instead ∧
        (step.attempt tell engine properties index cancelled).executed = .error instead := by
  cases ended : (step.attempt tell engine properties index cancelled).outcome with
  | error instead =>
      right
      obtain ⟨failure, _, said⟩ := outcome_attempt_eq_error_iff.mp ended
      exact ⟨failure, instead, said, Fallible.map_eq_error_iff.mpr ended⟩
  | ok outcome =>
      left
      obtain ⟨ending, success, same⟩ := Fallible.map_eq_ok_iff.mp ended
      refine Fallible.map_eq_ok_iff.mpr ⟨outcome, ended, ?_⟩
      rw [← same, settled_of_told_truthful truthful success]
      rfl

/-- A step has no outcome if and only if it ends with a failure that has no text.  Whatever it ends
with, the properties are as they were unless it is an action that passes.  What that one adds to
the upper layer are the exports of its outcome, and all of their keys are property keys. -/
theorem attempt_all_or_nothing (tell : Telling) (engine : Engine) (properties : PropertySet)
    (index : Nat) (cancelled : Bool) (step : Step) :
    let attempted := step.attempt tell engine properties index cancelled
    attempted.properties.file = properties.file ∧
      (∀ instead, attempted.outcome = .error instead ↔
        ∃ failure, step.FailsWith engine properties index cancelled failure ∧
          tell failure = .error instead) ∧
      (∀ instead, attempted.outcome = .error instead →
        attempted.properties.runtime = properties.runtime) ∧
      (∀ failure text, step.FailsWith engine properties index cancelled failure →
        tell failure = .ok text →
        attempted.outcome = .ok (step.outcome index ⟨.error, text⟩ [])) ∧
      ∀ outcome, attempted.outcome = .ok outcome →
        outcome.index = index ∧
          outcome.kind = step.kind ∧
          outcome.title = step.title ∧
          ((∃ check, step = .assertion check) ∨ outcome.status ≠ .pass →
            attempted.properties.runtime = properties.runtime ∧ outcome.exports = []) ∧
          (∀ task, step = .action task → outcome.status = .pass →
            attempted.properties.runtime =
                Ordered.putAll properties.runtime outcome.exports ∧
              ∀ entry ∈ outcome.exports,
                (Name.matchPropertyKey? entry.1.toList).isSome = true) ∧
          ∀ task, step = .action task → outcome.status ≠ .fail := by
  intro attempted
  obtain ⟨sameIndex, sameKind, sameTitle, sameFile, unchanged, updated, noFail⟩ :=
    execute_all_or_nothing engine properties index cancelled step
  refine ⟨sameFile, fun instead => outcome_attempt_eq_error_iff, ?raising,
    fun failure text fails said => outcome_attempt_of_failsWith fails said, ?returning⟩
  case raising =>
    intro instead raised
    obtain ⟨failure, fails, _⟩ := outcome_attempt_eq_error_iff.mp raised
    have inError : (step.execute engine properties index cancelled).outcome.status = .error := by
      change (settled ((step.procedure engine index cancelled).run properties).result).1.status = _
      rw [fails]
      rfl
    have notPassed : (step.execute engine properties index cancelled).outcome.status ≠ .pass := by
      rw [inError]
      intro passed
      cases passed
    exact (unchanged (.inr notPassed)).1
  case returning =>
    intro outcome returned
    rw [eq_outcome_execute returned]
    exact ⟨sameIndex, sameKind, sameTitle, unchanged, updated, noFail⟩

/-- An operation that raises an error whose message is no text leaves its step without an
outcome. -/
theorem attempt_message_not_text :
    let instead : Failure := .issue ⟨.textExpected, [.name "message"]⟩
    let tell : Telling := fun failure =>
      match failure with
      | .diagnostic ⟨.capability, _, _⟩ => .error instead
      | failure => Telling.plain failure
    let operation : Operation :=
      { kind := "tests.boom"
        signature := ⟨"boom_Signature", [], .refused⟩
        form := ⟨"boom_Capability", [], .refused⟩
        behaviour := fun _ _ => { result := .error (.plain .capability "") } }
    let engine : Engine :=
      { registry := { operations := [("tests.boom", operation)] }, workspace := .ofText "ws" }
    let step : Step := .action ⟨none, none, "tests.boom", [], [], none⟩
    ¬∃ outcome, (step.attempt tell engine ⟨[], []⟩ 1 false).outcome = .ok outcome := by
  intro instead tell operation engine step
  have nothing : (step.attempt tell engine ⟨[], []⟩ 1 false).outcome.toOption.isNone = true := by
    decide +kernel
  intro ⟨outcome, returned⟩
  rw [returned] at nothing
  cases nothing

end Step

theorem Run.attemptSteps_cases {tell : Telling} (truthful : tell.Truthful) (engine : Engine)
    (cancellation : Cancellation) (index : Nat) (cancelled : Bool) (properties : PropertySet)
    (steps : List Step) :
    attemptSteps tell engine cancellation index cancelled properties steps =
        .ok (ofSteps engine cancellation index cancelled properties steps) ∨
      ∃ failure instead, tell failure = .error instead ∧
        attemptSteps tell engine cancellation index cancelled properties steps =
          .error instead := by
  fun_induction ofSteps engine cancellation index cancelled properties steps with
  | case1 => exact .inl rfl
  | case2 index cancelled properties step rest stopped =>
      left
      rw [attemptSteps, if_pos stopped]
  | case3 index cancelled properties step rest goesOn executed signalled stops =>
      rw [attemptSteps, if_neg goesOn]
      rcases Step.executed_attempt_cases truthful engine properties index
        (cancellation.entering index) step with returned | ⟨failure, instead, said, raised⟩
      · left
        rw [returned, Fallible.ok_bind]
        exact if_pos stops
      · exact .inr ⟨failure, instead, said, Fallible.bind_eq_error_iff.mpr (.inl raised)⟩
  | case4 index cancelled properties step rest goesOn executed signalled goes ih =>
      rw [attemptSteps, if_neg goesOn]
      rcases Step.executed_attempt_cases truthful engine properties index
        (cancellation.entering index) step with returned | ⟨failure, instead, said, raised⟩
      · rw [returned, Fallible.ok_bind]
        rcases ih with completed | ⟨failure, instead, said, raised⟩
        · left
          refine (if_neg goes).trans ?_
          rw [completed]
          rfl
        · right
          refine ⟨failure, instead, said, (if_neg goes).trans ?_⟩
          rw [raised]
          rfl
      · exact .inr ⟨failure, instead, said, Fallible.bind_eq_error_iff.mpr (.inl raised)⟩

/-- A run in which some failures have no text is the run in which all of them tell their messages,
or ends with what asking such a failure for its text raises. -/
theorem Runner.attempt_cases {tell : Telling} (truthful : tell.Truthful) (runner : Runner)
    (cancellation : Cancellation) (cancelled : Bool) (path : String) :
    runner.attempt tell cancellation cancelled path = runner.run cancellation cancelled path ∨
      ∃ failure instead, tell failure = .error instead ∧
        runner.attempt tell cancellation cancelled path = .error instead := by
  cases loaded : runner.load (.ofText path) with
  | error failure =>
      left
      unfold attempt
      rw [loaded]
  | ok pair =>
      obtain ⟨properties, scenario⟩ := pair
      unfold attempt run
      rw [loaded]
      rcases Run.attemptSteps_cases truthful runner.engine cancellation 1 cancelled properties
        scenario.steps with completed | ⟨failure, instead, said, raised⟩
      · left
        dsimp only
        rw [completed]
        rfl
      · right
        refine ⟨failure, instead, said, ?_⟩
        dsimp only
        rw [raised]
        rfl

/-- Where every failure has a text, trying to run a scenario is running it. -/
theorem Runner.attempt_plain (runner : Runner) (cancellation : Cancellation) (cancelled : Bool)
    (path : String) :
    runner.attempt .plain cancellation cancelled path =
      runner.run cancellation cancelled path := by
  rcases runner.attempt_cases Telling.truthful_plain cancellation cancelled path with
    same | ⟨failure, instead, said, _⟩
  · exact same
  · cases said

end Playbook
