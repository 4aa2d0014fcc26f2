import Playbook.CommandLine
import Playbook.Proofs.RunShape

/-!
# Reports account for all steps

Results come from loading that has failed or from runs of scenarios, whose outcomes belong to the
first steps and, if the run is completed, to all of them.  So the report has a line for each step,
in order and numbered, its summary counts every step once, and the exit code is zero only if every
step has passed.  A call that runs a scenario prints this report and ends with this code.
-/

namespace Playbook

/-- The results of a runner. -/
inductive Runner.Returns (runner : Runner) : Result → Prop where
  | run {cancellation : Cancellation} {cancelled sign : Bool} {path : String} {result : Result} :
      runner.run cancellation cancelled path = .ok (result, sign) → Returns runner result
  | execute (cancellation : Cancellation) (cancelled : Bool) (properties : PropertySet)
      (scenario : Scenario) (source : String) :
      Returns runner (runner.execute cancellation cancelled properties scenario source).1

/-- The outcomes of a result are those of the first steps of a scenario, and of all of them if the
run was completed. -/
structure Result.Follows (result : Result) (scenario : Scenario) : Prop where
  loaded : result.scenario = some scenario
  executed : ∀ position outcome, result.outcomes[position]? = some outcome →
    ∃ step, scenario.steps[position]? = some step ∧ outcome.index = position + 1 ∧
      outcome.kind = step.kind
  length_le : result.outcomes.length ≤ scenario.steps.length
  ended : (result.state = .completed ∧ result.outcomes.length = scenario.steps.length) ∨
    result.state = .aborted

namespace Runner

theorem follows_execute (runner : Runner) (cancellation : Cancellation) (cancelled : Bool)
    (properties : PropertySet) (scenario : Scenario) (source : String) :
    (runner.execute cancellation cancelled properties scenario source).1.Follows scenario where
  loaded := rfl
  executed := by
    intro position outcome found
    obtain ⟨executed, executedFound, rfl⟩ := Option.map_eq_some_iff.mp
      ((List.getElem?_map ..).symm.trans found)
    obtain ⟨step, stepFound, rfl⟩ := Run.getElem?_executed_ofSteps runner.engine cancellation 1
      cancelled properties scenario.steps position executed executedFound
    exact ⟨step, stepFound, Nat.add_comm 1 position, rfl⟩
  length_le :=
    Run.length_outcomes_le runner.engine cancellation 1 cancelled properties scenario.steps
  ended := by
    rcases Run.ending_ofSteps runner.engine cancellation 1 cancelled properties scenario.steps with
      ⟨completed, length, _⟩ | ⟨aborted, _⟩ | ⟨aborted, _⟩
    · exact .inl ⟨completed, length⟩
    · exact .inr aborted
    · exact .inr aborted

theorem eq_of_run_eq_ok {runner : Runner} {cancellation : Cancellation} {cancelled sign : Bool}
    {path : String} {result : Result}
    (success : runner.run cancellation cancelled path = .ok (result, sign)) :
    (∃ message, result = loadFailed path message) ∨
      ∃ properties scenario,
        result = (runner.execute cancellation cancelled properties scenario path).1 := by
  unfold Runner.run at success
  split at success
  · rename_i properties scenario _
    right
    exact ⟨properties, scenario, (congrArg Prod.fst (Except.ok.inj success)).symm⟩
  · rename_i d _
    split at success
    · left
      exact ⟨d.message, (congrArg Prod.fst (Except.ok.inj success)).symm⟩
    · cases success
  · cases success

theorem Returns.loadFailed_or_follows {runner : Runner} {result : Result}
    (returned : runner.Returns result) :
    (∃ source message, result = loadFailed source message) ∨
      ∃ scenario, result.Follows scenario := by
  cases returned with
  | run success =>
      rcases eq_of_run_eq_ok success with ⟨message, same⟩ | ⟨properties, scenario, same⟩
      · left
        exact ⟨_, message, same⟩
      · right
        rw [same]
        exact ⟨scenario, follows_execute ..⟩
  | execute cancellation cancelled properties scenario source =>
      right
      exact ⟨scenario, follows_execute ..⟩

end Runner

namespace Report

/-- The number that a line begins with, between brackets. -/
def shownIndex? (line : String) : Option Nat :=
  match line.toList with
  | '[' :: rest =>
      match rest.takeWhile Char.isDigit, rest.dropWhile Char.isDigit with
      | digit :: digits, ']' :: _ => some (Nat.ofDigitChars 10 (digit :: digits) 0)
      | _, _ => none
  | _ => none

/-- A line that begins with a number, a kind of step and a word for what became of it. -/
def Shows (line : String) (index : Nat) (kind word : String) : Prop :=
  ∃ rest, line = lineStart index kind ++ word ++ ": " ++ rest

theorem Shows.shownIndex? {line kind word : String} {index : Nat}
    (shown : Shows line index kind word) : shownIndex? line = some index := by
  obtain ⟨rest, rfl⟩ := shown
  have digits : ∀ c ∈ Nat.toDigits 10 index, c.isDigit = true := by
    intro c member
    exact Nat.isDigit_of_mem_toDigits (by decide) (by decide) member
  have chars : (lineStart index kind ++ word ++ ": " ++ rest).toList =
      '[' :: (Nat.toDigits 10 index ++
        ']' :: (" " ++ kind ++ " " ++ word ++ ": " ++ rest).toList) := by
    simp [lineStart]
  have number : Nat.ofDigitChars 10 (Nat.toDigits 10 index) 0 = index :=
    Nat.ofDigitChars_ten_toDigits
  unfold Report.shownIndex?
  rw [chars]
  simp only [List.dropWhile_append_of_pos digits, List.takeWhile_append_of_pos digits]
  cases shown : Nat.toDigits 10 index with
  | nil => exact absurd shown Nat.toDigits_ne_nil
  | cons digit others =>
      rw [shown] at number
      simp [number]

theorem shows_titled {line kind word : String} {index : Nat} (title : Option String)
    (shown : Shows line index kind word) : Shows (titled line title) index kind word := by
  obtain ⟨rest, rfl⟩ := shown
  unfold titled
  split
  · rename_i text
    split
    · exact ⟨rest, rfl⟩
    · exact ⟨rest ++ " (" ++ text ++ ")", by simp only [String.append_assoc]⟩
  · exact ⟨rest, rfl⟩

theorem shows_outcomeLine (outcome : Outcome) :
    Shows (outcomeLine outcome) outcome.index outcome.kind outcome.status.title :=
  shows_titled outcome.title ⟨singleLine outcome.message, rfl⟩

theorem shows_skippedLine (reason : String) (index : Nat) (step : Step) :
    Shows (skippedLine reason index step) index step.kind skippedWord :=
  shows_titled step.title ⟨reason, rfl⟩

/-- A step is shown as skipped or with a verdict, and not with both. -/
theorem Shows.not_skipped {line kind : String} {index : Nat} {status : Status}
    (shown : Shows line index kind status.title) : ¬Shows line index kind skippedWord := by
  intro ⟨skipped, same⟩
  obtain ⟨rest, rfl⟩ := shown
  simp only [String.append_assoc, String.append_right_inj] at same
  -- The words begin with different letters.
  have firsts := congrArg (fun text => text.toList.head?) same
  cases status <;> simp [Status.title, skippedWord] at firsts

theorem length_skippedLines (reason : String) (index : Nat) (steps : List Step) :
    (skippedLines reason index steps).length = steps.length := by
  induction steps generalizing index with
  | nil => rfl
  | cons step rest ih => simp [skippedLines, ih]

theorem getElem?_skippedLines (reason : String) (index : Nat) (steps : List Step)
    (position : Nat) :
    (skippedLines reason index steps)[position]? =
      steps[position]?.map (skippedLine reason (index + position)) := by
  induction steps generalizing index position with
  | nil => rfl
  | cons step rest ih =>
      cases position with
      | zero => rfl
      | succ position =>
          rw [skippedLines, List.getElem?_cons_succ, List.getElem?_cons_succ, ih,
            Nat.add_right_comm, Nat.add_assoc]

end Report

namespace CommandLine

theorem exitCode_eq_zero_iff {status : Status} : exitCode status = 0 ↔ status = .pass := by
  cases status <;> decide

theorem exitCode_eq_one_iff {status : Status} : exitCode status = 1 ↔ status = .fail := by
  cases status <;> decide

theorem exitCode_eq_two {status : Status} (notZero : exitCode status ≠ 0)
    (notOne : exitCode status ≠ 1) : exitCode status = 2 := by
  cases status with
  | pass => exact absurd rfl notZero
  | fail => exact absurd rfl notOne
  | error => rfl

end CommandLine

namespace Result

open Report CommandLine

/-- Every outcome has one of the three verdicts. -/
theorem count_add_count_add_count (result : Result) :
    result.count .pass + result.count .fail + result.count .error = result.outcomes.length := by
  unfold count
  induction result.outcomes with
  | nil => rfl
  | cons outcome rest ih =>
      simp only [List.countP_cons, List.length_cons]
      cases outcome.status <;> simp <;> omega

theorem status_eq_error_iff {result : Result} :
    result.status = .error ↔
      result.state = .aborted ∨ ∃ outcome ∈ result.outcomes, outcome.status = .error := by
  unfold status
  split
  · rename_i error
    simpa [or_comm] using error
  · rename_i noError
    have clear : ¬(result.state = .aborted ∨ ∃ outcome ∈ result.outcomes,
        outcome.status = .error) := by
      simpa [or_comm] using noError
    split <;> simp [clear]

theorem status_eq_fail_iff {result : Result} :
    result.status = .fail ↔
      result.state ≠ .aborted ∧ (∀ outcome ∈ result.outcomes, outcome.status ≠ .error) ∧
        ∃ outcome ∈ result.outcomes, outcome.status = .fail := by
  have clear : (result.state ≠ .aborted ∧ ∀ outcome ∈ result.outcomes, outcome.status ≠ .error) ↔
      result.status ≠ .error := by
    rw [Ne, Ne, status_eq_error_iff, not_or]
    simp
  rw [← and_assoc, clear]
  unfold status
  split
  · simp
  · split
    · rename_i failure
      simpa using failure
    · rename_i noFailure
      have none : ¬∃ outcome ∈ result.outcomes, outcome.status = .fail := by
        simpa using noFailure
      simp [none]

theorem status_eq_pass_iff {result : Result} :
    result.status = .pass ↔
      result.state ≠ .aborted ∧ ∀ outcome ∈ result.outcomes, outcome.status = .pass := by
  constructor
  · intro passed
    have noError := mt status_eq_error_iff.mpr (by rw [passed]; decide)
    have noFailure := mt status_eq_fail_iff.mpr (by rw [passed]; decide)
    rw [not_or] at noError
    obtain ⟨ended, noError⟩ := noError
    have free : ∀ outcome ∈ result.outcomes, outcome.status ≠ .error := by
      intro outcome member error
      exact noError ⟨outcome, member, error⟩
    refine ⟨ended, ?_⟩
    intro outcome member
    cases verdict : outcome.status with
    | pass => rfl
    | fail => exact absurd ⟨ended, free, outcome, member, verdict⟩ noFailure
    | error => exact absurd verdict (free outcome member)
  · intro ⟨ended, passed⟩
    cases verdict : result.status with
    | pass => rfl
    | fail =>
        obtain ⟨_, _, outcome, member, failed⟩ := status_eq_fail_iff.mp verdict
        rw [passed outcome member] at failed
        cases failed
    | error =>
        rcases status_eq_error_iff.mp verdict with aborted | ⟨outcome, member, error⟩
        · exact absurd aborted ended
        · rw [passed outcome member] at error
          cases error

/-- The word that a report has for the step at a position. -/
def wordAt (result : Result) (position : Nat) : String :=
  match result.outcomes[position]? with
  | some outcome => outcome.status.title
  | none => skippedWord

/-- The numbers of the steps of a result; loading that has failed has number zero. -/
def indices (result : Result) : List Nat :=
  match result.scenario with
  | some scenario => List.range' 1 scenario.steps.length
  | none => [0]

/-- The text of a summary of a number of steps with each end. -/
def summaryOf (passed failed errors skipped : Nat) (status : Status) : String :=
  "Total: " ++ toString (passed + failed + errors + skipped) ++
    ", Passed: " ++ toString passed ++ ", Failed: " ++ toString failed ++
    ", Errors: " ++ toString errors ++ ", Skipped: " ++ toString skipped ++
    ", Status: " ++ status.title

/-- The report and the exit code of a result account for each of its steps. -/
structure Accounts (result : Result) : Prop where
  /-- The lines before the summary begin with the numbers of the steps, in order. -/
  numbered : result.reportLines.dropLast.map shownIndex? = result.indices.map some
  /-- The line of a step shows what became of it, and that it was skipped if it has no outcome. -/
  shown : ∀ scenario position step, result.scenario = some scenario →
    scenario.steps[position]? = some step →
      ∃ line, result.reportLines[position]? = some line ∧
        Shows line (position + 1) step.kind (result.wordAt position) ∧
        (Shows line (position + 1) step.kind "SKIPPED" ↔ result.outcomes[position]? = none)
  /-- The summary counts each step once. -/
  counted : ∃ skipped : Nat, result.skipped = skipped ∧
    result.count .pass + result.count .fail + result.count .error + skipped =
      result.indices.length ∧
    result.reportLines.getLast? = some (summaryOf (result.count .pass) (result.count .fail)
      (result.count .error) skipped result.status)
  code_eq_zero_iff : exitCode result.status = 0 ↔ ∃ scenario, result.scenario = some scenario ∧
    result.state = .completed ∧ ∀ position < scenario.steps.length,
      ∃ outcome, result.outcomes[position]? = some outcome ∧ outcome.status = .pass
  code_eq_one_iff : exitCode result.status = 1 ↔ result.state = .completed ∧
    (∀ outcome ∈ result.outcomes, outcome.status ≠ .error) ∧
    ∃ outcome ∈ result.outcomes, outcome.status = .fail
  code_eq_two : exitCode result.status ≠ 0 → exitCode result.status ≠ 1 →
    exitCode result.status = 2

theorem accounts_loadFailed (source message : String) :
    (Runner.loadFailed source message).Accounts where
  numbered := by
    have shown := (shows_outcomeLine
      { index := 0, kind := Runner.loadKind, status := .error, message := message }).shownIndex?
    exact congrArg (fun index => [index]) shown
  shown := by
    intro scenario position step loaded
    cases loaded
  counted := ⟨0, rfl, rfl, rfl⟩
  code_eq_zero_iff := by
    constructor
    · intro zero
      cases zero
    · intro ⟨scenario, loaded, _⟩
      cases loaded
  code_eq_one_iff := by
    constructor
    · intro one
      cases one
    · intro ⟨_, noError, _⟩
      exact absurd rfl (noError _ (List.mem_singleton.mpr rfl))
  code_eq_two := fun _ _ => rfl

namespace Follows

variable {result : Result} {scenario : Scenario}

theorem steps_eq (follows : result.Follows scenario) : result.steps = scenario.steps := by
  unfold steps
  rw [follows.loaded]
  rfl

theorem length_stepLines (follows : result.Follows scenario) :
    result.stepLines.length = scenario.steps.length := by
  have le := follows.length_le
  simp only [stepLines, List.length_append, List.length_map, length_skippedLines, skippedSteps,
    List.length_drop, follows.steps_eq]
  omega

/-- The line of a step that was executed is that of its outcome; the other lines follow. -/
theorem shows_step (follows : result.Follows scenario) {position : Nat} {step : Step}
    (stepFound : scenario.steps[position]? = some step) :
    ∃ line, result.stepLines[position]? = some line ∧
      Shows line (position + 1) step.kind (result.wordAt position) := by
  unfold stepLines wordAt
  cases found : result.outcomes[position]? with
  | some outcome =>
      obtain ⟨other, otherFound, index, kind⟩ := follows.executed position outcome found
      have same := Option.some.inj (otherFound.symm.trans stepFound)
      have inside : position < (result.outcomes.map outcomeLine).length := by
        rw [List.length_map]
        exact (List.getElem?_eq_some_iff.mp found).1
      refine ⟨outcomeLine outcome, ?_, ?_⟩
      · rw [List.getElem?_append_left inside, List.getElem?_map, found]
        rfl
      · rw [← same, ← kind, ← index]
        exact shows_outcomeLine outcome
  | none =>
      have behind := List.getElem?_eq_none_iff.mp found
      have outside : (result.outcomes.map outcomeLine).length ≤ position := by
        rwa [List.length_map]
      have number : result.outcomes.length + 1 + (position - result.outcomes.length) =
          position + 1 := by
        omega
      refine ⟨skippedLine result.skipReason (position + 1) step, ?_, shows_skippedLine ..⟩
      rw [List.getElem?_append_right outside, List.length_map, getElem?_skippedLines, skippedSteps,
        List.getElem?_drop, follows.steps_eq, Nat.add_sub_cancel' behind, stepFound, number]
      rfl

theorem numbered (follows : result.Follows scenario) :
    result.stepLines.map shownIndex? = (List.range' 1 scenario.steps.length).map some := by
  apply List.ext_getElem?
  intro position
  rw [List.getElem?_map, List.getElem?_map]
  cases found : scenario.steps[position]? with
  | some step =>
      obtain ⟨line, lineFound, shown⟩ := follows.shows_step found
      have inside := (List.getElem?_eq_some_iff.mp found).1
      rw [lineFound, List.getElem?_range' inside, Option.map_some, shown.shownIndex?]
      simp [Nat.add_comm]
  | none =>
      have behind := List.getElem?_eq_none_iff.mp found
      rw [List.getElem?_eq_none (by rwa [follows.length_stepLines]),
        List.getElem?_eq_none (by rwa [List.length_range'])]
      rfl

theorem skipped_eq (follows : result.Follows scenario) :
    result.skipped = ((scenario.steps.length - result.outcomes.length : Nat) : Int) := by
  simp only [skipped, follows.loaded]
  exact (Int.ofNat_sub follows.length_le).symm

/-- Each step has an outcome or was skipped. -/
theorem count_add_skipped (follows : result.Follows scenario) :
    result.count .pass + result.count .fail + result.count .error +
      (scenario.steps.length - result.outcomes.length) = scenario.steps.length := by
  rw [count_add_count_add_count, Nat.add_sub_cancel' follows.length_le]

theorem summaryLine_eq (follows : result.Follows scenario) :
    result.summaryLine = summaryOf (result.count .pass) (result.count .fail) (result.count .error)
      (scenario.steps.length - result.outcomes.length) result.status := by
  have every : result.total = result.count .pass + result.count .fail + result.count .error +
      (scenario.steps.length - result.outcomes.length) := by
    rw [follows.count_add_skipped, total, follows.loaded]
  unfold summaryLine
  rw [follows.skipped_eq, every]
  rfl

theorem completed_iff (follows : result.Follows scenario) :
    result.state = .completed ↔ result.state ≠ .aborted := by
  rcases follows.ended with ⟨completed, _⟩ | aborted
  · simp [completed]
  · simp [aborted]

/-- A run that was not aborted has an outcome for every step. -/
theorem all_passed_iff (follows : result.Follows scenario) :
    (result.state ≠ .aborted ∧ ∀ outcome ∈ result.outcomes, outcome.status = .pass) ↔
      result.state = .completed ∧ ∀ position < scenario.steps.length,
        ∃ outcome, result.outcomes[position]? = some outcome ∧ outcome.status = .pass := by
  constructor
  · intro ⟨ended, passed⟩
    rcases follows.ended with ⟨completed, length⟩ | aborted
    · refine ⟨completed, ?_⟩
      intro position inside
      rw [← length] at inside
      exact ⟨_, List.getElem?_eq_getElem inside, passed _ (List.getElem_mem inside)⟩
    · exact absurd aborted ended
  · intro ⟨completed, passed⟩
    refine ⟨by rw [completed]; decide, ?_⟩
    intro outcome member
    -- Its position is that of a step, whose outcome has passed.
    obtain ⟨position, found⟩ := List.mem_iff_getElem?.mp member
    obtain ⟨step, stepFound, _⟩ := follows.executed position outcome found
    have inside := (List.getElem?_eq_some_iff.mp stepFound).1
    obtain ⟨other, otherFound, verdict⟩ := passed position inside
    rw [Option.some.inj (found.symm.trans otherFound)]
    exact verdict

theorem accounts (follows : result.Follows scenario) : result.Accounts where
  numbered := by
    rw [reportLines, List.dropLast_concat, follows.numbered, indices, follows.loaded]
  shown := by
    intro other position step loaded found
    have same := Option.some.inj (follows.loaded.symm.trans loaded)
    rw [← same] at found
    obtain ⟨line, lineFound, shown⟩ := follows.shows_step found
    refine ⟨line, ?_, shown, ?_⟩
    · rw [reportLines, List.getElem?_append_left (List.getElem?_eq_some_iff.mp lineFound).1,
        lineFound]
    · unfold wordAt at shown
      split at shown
      · rename_i outcome outcomeFound
        rw [outcomeFound]
        exact iff_of_false shown.not_skipped (Option.some_ne_none outcome)
      · rename_i missing
        exact iff_of_true shown missing
  counted := by
    refine ⟨_, follows.skipped_eq, ?_, ?_⟩
    · rw [follows.count_add_skipped, indices, follows.loaded, List.length_range']
    · rw [reportLines, List.getLast?_concat, follows.summaryLine_eq]
  code_eq_zero_iff := by
    rw [exitCode_eq_zero_iff, status_eq_pass_iff, follows.all_passed_iff]
    constructor
    · intro passed
      exact ⟨scenario, follows.loaded, passed⟩
    · intro ⟨other, loaded, passed⟩
      rw [Option.some.inj (follows.loaded.symm.trans loaded)]
      exact passed
  code_eq_one_iff := by
    rw [exitCode_eq_one_iff, status_eq_fail_iff, follows.completed_iff]
  code_eq_two := CommandLine.exitCode_eq_two

end Follows

end Result

namespace CommandLine

/-- What running the scenario of a call comes to, with the settings and the registry that the call
is made with. -/
inductive Ran (around : Surroundings) (choices : Choices) : Result → Prop where
  | ofRunner {settings : Settings} {registry : Registry} {result : Result} {sign : Bool} :
      settingsFor around choices.timeout = .ok settings →
      registryFor around settings = .ok registry →
      (runnerWith around choices settings registry).run .never false choices.path =
        .ok (result, sign) →
      Ran around choices result

/-- Arguments that make a call run a scenario: what they choose, and what has been shown to ask
for the scenario. -/
inductive AsksToRun (around : Surroundings) (arguments : List String) :
    Choices → String → Prop where
  | ofArguments {given : Arguments} {choices : Choices} {shown : String} :
      Arguments.read .run arguments = .ok given →
      given.has .help = false →
      given.plain = [] →
      readChoices around .run given = (shown, .ok choices) →
      AsksToRun around arguments choices shown

theorem runCommand_eq_ok_iff {around : Surroundings} {choices : Choices} {ending : Ending} :
    runCommand around choices = .ok ending ↔
      ∃ result, Ran around choices result ∧ ending = endingFor result := by
  constructor
  · intro success
    obtain ⟨settings, settled, success⟩ := Fallible.bind_eq_ok_iff.mp success
    obtain ⟨registry, registered, success⟩ := Fallible.bind_eq_ok_iff.mp success
    obtain ⟨⟨result, sign⟩, ran, same⟩ := Fallible.bind_eq_ok_iff.mp success
    exact ⟨result, .ofRunner settled registered ran, (Except.ok.inj same).symm⟩
  · intro ⟨result, ran, same⟩
    subst same
    cases ran with
    | ofRunner settled registered ran =>
        exact Fallible.bind_eq_ok_iff.mpr ⟨_, settled,
          Fallible.bind_eq_ok_iff.mpr ⟨_, registered,
            Fallible.bind_eq_ok_iff.mpr ⟨_, ran, rfl⟩⟩⟩

theorem Ran.returns {around : Surroundings} {choices : Choices} {result : Result}
    (ran : Ran around choices result) : ∃ runner : Runner, runner.Returns result := by
  cases ran with
  | ofRunner _ _ ran => exact ⟨_, .run ran⟩

/-- A call whose arguments ask for it ends as running the scenario does. -/
theorem callCommand_run {around : Surroundings} {arguments : List String} {choices : Choices}
    {shown : String} (asks : AsksToRun around arguments choices shown) :
    callCommand around .run arguments =
      { endingOf (runCommand around choices) with
        output := shown ++ (endingOf (runCommand around choices)).output } := by
  cases asks with
  | ofArguments read noHelp noPlainOnes chosen =>
      unfold callCommand
      rw [read]
      dsimp only
      rw [noHelp, if_neg Bool.false_ne_true, chosen]
      unfold noPlain
      rw [noPlainOnes]
      rfl

end CommandLine

/-- The report and the exit code of every result account for its steps.  A call that runs a
scenario prints the report of the result that its runner returns for the scenario, and ends with
the exit code of that result; only if the runner returns none it ends with a failure. -/
theorem Runner.returns_accounts :
    (∀ (runner : Runner) (result : Result), runner.Returns result → result.Accounts) ∧
      (∀ (around : CommandLine.Surroundings) (choices : CommandLine.Choices)
        (ending : CommandLine.Ending), CommandLine.runCommand around choices = .ok ending ↔
          ∃ result, CommandLine.Ran around choices result ∧
            ending = CommandLine.endingFor result) ∧
      ∀ (around : CommandLine.Surroundings) (arguments rest : List String)
        (choices : CommandLine.Choices) (shown : String),
        CommandLine.Call.read arguments = .ok (.of .run rest) →
        CommandLine.AsksToRun around rest choices shown →
        CommandLine.call around arguments = CommandLine.callCommand around .run rest ∧
        (∀ result, CommandLine.Ran around choices result → result.Accounts ∧
          CommandLine.call around arguments =
            { output := shown ++ CommandLine.printed result.reportLines
              code := CommandLine.exitCode result.status }) ∧
        ((¬∃ result, CommandLine.Ran around choices result) → ∃ failure,
          CommandLine.runCommand around choices = .error failure ∧
          CommandLine.call around arguments =
            { output := shown, code := 1, failure := some failure }) := by
  have accounts : ∀ (runner : Runner) (result : Result), runner.Returns result →
      result.Accounts := by
    intro runner result returned
    rcases returned.loadFailed_or_follows with ⟨source, message, rfl⟩ | ⟨scenario, follows⟩
    · exact Result.accounts_loadFailed source message
    · exact follows.accounts
  refine ⟨accounts, fun around choices ending => CommandLine.runCommand_eq_ok_iff, ?_⟩
  intro around arguments rest choices shown called asks
  have same : CommandLine.call around arguments = CommandLine.callCommand around .run rest := by
    unfold CommandLine.call
    rw [called]
  refine ⟨same, ?_, ?_⟩
  · intro result ran
    obtain ⟨runner, returned⟩ := ran.returns
    refine ⟨accounts runner result returned, ?_⟩
    rw [same, CommandLine.callCommand_run asks,
      CommandLine.runCommand_eq_ok_iff.mpr ⟨result, ran, rfl⟩]
    rfl
  · intro noResult
    cases ended : CommandLine.runCommand around choices with
    | ok ending =>
        obtain ⟨result, ran, _⟩ := CommandLine.runCommand_eq_ok_iff.mp ended
        exact absurd ⟨result, ran⟩ noResult
    | error failure =>
        refine ⟨failure, rfl, ?_⟩
        rw [same, CommandLine.callCommand_run asks, ended]
        change ({ output := shown ++ "", code := 1, failure := some failure } :
          CommandLine.Ending) = _
        rw [String.append_empty]

/-- A run that is cancelled before its second step, and a call whose only step fails. -/
theorem Runner.returns_accounts_skipped_step :
    let check (expected : String) : Step :=
      .assertion ⟨none, none, .text "a", "equals", .text expected, false, false, none⟩
    let scenario : Scenario := ⟨"pair", none, none, [check "a", check "b"]⟩
    let runner : Runner := { engine := { registry := .builtin, workspace := .ofText "" } }
    let result := (runner.execute { before := (· == 2) } false ⟨[], []⟩ scenario "").1
    let around : CommandLine.Surroundings :=
      { files := (Files.mk [] []).add (.ofText "test.yaml")
          "kind: assert\nvalue: a\neq: b\n".toUTF8.toList }
    let choices : CommandLine.Choices := { test := some (.ofText "test.yaml") }
    result.Accounts ∧
      result.reportLines = ["[1] assert PASS: expected \"a\" to equal \"a\"",
        "[2] assert SKIPPED: run cancelled before step 2",
        "Total: 2, Passed: 1, Failed: 0, Errors: 0, Skipped: 1, Status: ERROR"] ∧
      CommandLine.AsksToRun around ["--test", "test.yaml"] choices "" ∧
      ∃ failing, CommandLine.Ran around choices failing ∧ failing.Accounts ∧
        CommandLine.call around ["run", "--test", "test.yaml"] =
          { output := CommandLine.printed failing.reportLines, code := 1 } := by
  intro check scenario runner result around choices
  obtain ⟨accounts, commands, calls⟩ := Runner.returns_accounts
  refine ⟨accounts runner result (.execute ..), by decide +kernel, ?_⟩
  have called : CommandLine.Call.read ["run", "--test", "test.yaml"] =
      .ok (.of .run ["--test", "test.yaml"]) := by
    cbv
  have read : CommandLine.Arguments.read .run ["--test", "test.yaml"] =
      .ok ⟨[(.test, "test.yaml")], []⟩ := by
    cbv
  have asks : CommandLine.AsksToRun around ["--test", "test.yaml"] choices "" :=
    .ofArguments read rfl rfl rfl
  have code : (CommandLine.runCommand around choices).toOption.map CommandLine.Ending.code =
      some 1 := by
    decide +kernel
  obtain ⟨ending, ended, one⟩ := Option.map_eq_some_iff.mp code
  obtain ⟨failing, ran, rfl⟩ :=
    (commands around choices ending).mp (Fallible.toOption_eq_some_iff.mp ended)
  obtain ⟨_, calls, _⟩ := calls around ["run", "--test", "test.yaml"] _ choices "" called asks
  obtain ⟨counted, ending⟩ := calls failing ran
  refine ⟨asks, failing, ran, counted, ?_⟩
  change CommandLine.exitCode failing.status = 1 at one
  rw [ending, String.empty_append, one]

end Playbook
