import Mathlib.Algebra.GroupWithZero.Nat
import Playbook.Proofs.Accounting
import Playbook.Proofs.ActionDocuments
import Playbook.Proofs.DocumentStreams
import Playbook.Proofs.NameGrammars

/-!
# Line breaks in reports

A report has a line for each step and a summary.  Messages are put on a single line, and numbers,
verdicts and reasons hold no line break, but the kinds and the titles of steps are shown as they
are.  So the line of a step breaks where its kind or its title does, and nowhere else.
-/

namespace Playbook

namespace Text

/-- The characters that break a line. -/
def isBreak (c : Char) : Bool := c == '\r' || c == '\n'

/-- The number of line breaks in a text. -/
def breaks (s : String) : Nat := s.toList.countP isBreak

/-- Texts without a line break. -/
def IsSingleLine (s : String) : Prop := '\r' ∉ s.toList ∧ '\n' ∉ s.toList

theorem breaks_eq_zero_of_forall {s : String} (free : ∀ c ∈ s.toList, isBreak c = false) :
    breaks s = 0 := by
  apply List.countP_eq_zero.mpr
  intro c member
  rw [free c member]
  exact Bool.false_ne_true

theorem breaks_eq_zero_iff {s : String} : breaks s = 0 ↔ IsSingleLine s := by
  constructor
  · intro none
    have free := List.countP_eq_zero.mp none
    exact ⟨fun member => free '\r' member rfl, fun member => free '\n' member rfl⟩
  · intro ⟨noReturn, noFeed⟩
    apply breaks_eq_zero_of_forall
    intro c member
    rw [isBreak, Bool.or_eq_false_iff, beq_eq_false_iff_ne, beq_eq_false_iff_ne]
    constructor
    · rintro rfl
      exact noReturn member
    · rintro rfl
      exact noFeed member

theorem breaks_append (s t : String) : breaks (s ++ t) = breaks s + breaks t := by
  unfold breaks
  rw [String.toList_append, List.countP_append]

theorem breaks_toString (n : Nat) : breaks (toString n) = 0 := by
  apply breaks_eq_zero_of_forall
  intro c member
  have digit : c.isDigit = true := by
    rw [Nat.toString_eq_repr, Nat.toList_repr] at member
    exact Nat.isDigit_of_mem_toDigits (by decide) (by decide) member
  rw [isBreak, Bool.or_eq_false_iff, beq_eq_false_iff_ne, beq_eq_false_iff_ne]
  constructor
  · rintro rfl
    cases digit
  · rintro rfl
    cases digit

/-- Every line of an output is followed by a line break. -/
theorem breaks_printed (lines : List String) :
    breaks (CommandLine.printed lines) = (lines.map breaks).sum + lines.length := by
  unfold CommandLine.printed
  induction lines with
  | nil => rfl
  | cons line rest ih =>
      have feed : breaks "\n" = 1 := rfl
      simp only [List.map_cons, String.join_cons, breaks_append, feed, ih, List.sum_cons,
        List.length_cons]
      omega

end Text

open Text

/-- The line breaks of what a report shows of a step as it is. -/
def Step.breaks (step : Step) : Nat := Text.breaks step.kind + Text.breaks (step.title.getD "")

theorem Step.breaks_eq_zero_iff {step : Step} :
    step.breaks = 0 ↔
      IsSingleLine step.kind ∧ ∀ title, step.title = some title → IsSingleLine title := by
  unfold Step.breaks
  rw [Nat.add_eq_zero_iff, Text.breaks_eq_zero_iff]
  apply and_congr_right
  intro _
  cases step.title with
  | none => exact iff_of_true rfl nofun
  | some title => simp [Text.breaks_eq_zero_iff]

namespace Report

/-- No line break is left in a text on a single line. -/
theorem breaks_singleLine (text : String) : breaks (singleLine text) = 0 := by
  apply breaks_eq_zero_of_forall
  intro c member
  unfold singleLine replaceChars at member
  rw [String.toList_ofList] at member
  obtain ⟨given, _, shown⟩ := List.mem_flatMap.mp member
  unfold lineChar at shown
  by_cases isReturn : given = '\r'
  · have letter : c = '\\' ∨ c = 'r' := by simpa [isReturn] using shown
    rcases letter with rfl | rfl <;> rfl
  · by_cases isFeed : given = '\n'
    · have letter : c = '\\' ∨ c = 'n' := by simpa [isFeed] using shown
      rcases letter with rfl | rfl <;> rfl
    · have same : c = given := by simpa [isReturn, isFeed] using shown
      simp [isBreak, same, isReturn, isFeed]

theorem breaks_titled (line : String) (title : Option String) :
    breaks (titled line title) = breaks line + breaks (title.getD "") := by
  unfold titled
  cases title with
  | none => rfl
  | some title =>
      have opening : breaks " (" = 0 := rfl
      have closing : breaks ")" = 0 := rfl
      dsimp only
      split
      · rename_i empty
        rw [Option.getD_some, String.isEmpty_iff.mp empty]
        rfl
      · simp only [breaks_append, opening, closing, Option.getD_some, Nat.add_zero]

theorem breaks_lineStart (index : Nat) (kind : String) :
    breaks (lineStart index kind) = breaks kind := by
  have opening : breaks "[" = 0 := rfl
  have closing : breaks "] " = 0 := rfl
  have gap : breaks " " = 0 := rfl
  simp only [lineStart, breaks_append, breaks_toString, opening, closing, gap, Nat.zero_add,
    Nat.add_zero]

theorem breaks_outcomeLine (outcome : Outcome) :
    breaks (outcomeLine outcome) = breaks outcome.kind + breaks (outcome.title.getD "") := by
  have verdict : breaks outcome.status.title = 0 := by cases outcome.status <;> rfl
  have gap : breaks ": " = 0 := rfl
  rw [outcomeLine, breaks_titled]
  simp only [breaks_append, breaks_lineStart, breaks_singleLine, verdict, gap, Nat.add_zero]

theorem breaks_skippedLine {reason : String} (single : breaks reason = 0) (index : Nat)
    (step : Step) : breaks (skippedLine reason index step) = step.breaks := by
  have word : breaks skippedWord = 0 := rfl
  have gap : breaks ": " = 0 := rfl
  rw [skippedLine, breaks_titled, Step.breaks]
  simp only [breaks_append, breaks_lineStart, single, word, gap, Nat.add_zero]

theorem map_breaks_skippedLines {reason : String} (single : breaks reason = 0) (index : Nat)
    (steps : List Step) : (skippedLines reason index steps).map breaks = steps.map Step.breaks := by
  induction steps generalizing index with
  | nil => rfl
  | cons step rest ih =>
      rw [skippedLines, List.map_cons, List.map_cons, breaks_skippedLine single, ih]

end Report

open Report

theorem Result.breaks_summaryLine (passed failed errors skipped : Nat) (status : Status) :
    breaks (summaryOf passed failed errors skipped status) = 0 := by
  have verdict : breaks status.title = 0 := by cases status <;> rfl
  have total : breaks "Total: " = 0 := rfl
  have passes : breaks ", Passed: " = 0 := rfl
  have failures : breaks ", Failed: " = 0 := rfl
  have inError : breaks ", Errors: " = 0 := rfl
  have left : breaks ", Skipped: " = 0 := rfl
  have whole : breaks ", Status: " = 0 := rfl
  unfold summaryOf
  simp only [breaks_append, breaks_toString, verdict, total, passes, failures, inError, left, whole]

namespace Run

/-- The line of a step that is executed breaks as the step does. -/
theorem breaks_outcome_execute (engine : Engine) (properties : PropertySet) (index : Nat)
    (cancelled : Bool) (step : Step) :
    breaks (outcomeLine (step.execute engine properties index cancelled).outcome) = step.breaks :=
  breaks_outcomeLine _

theorem map_breaks_outcomes (engine : Engine) (cancellation : Cancellation) (index : Nat)
    (cancelled : Bool) (properties : PropertySet) (steps : List Step) :
    let run := ofSteps engine cancellation index cancelled properties steps
    run.outcomes.map (breaks ∘ outcomeLine) =
      (steps.take run.outcomes.length).map Step.breaks := by
  fun_induction ofSteps engine cancellation index cancelled properties steps with
  | case1 => rfl
  | case2 => rfl
  | case3 index _ properties step rest _ first =>
      have here : breaks (outcomeLine first.outcome) = step.breaks :=
        breaks_outcome_execute engine properties index (cancellation.entering index) step
      exact congrArg (fun count => [count]) here
  | case4 index _ properties step rest _ first _ _ ih =>
      have here : breaks (outcomeLine first.outcome) = step.breaks :=
        breaks_outcome_execute engine properties index (cancellation.entering index) step
      dsimp only at ih ⊢
      rw [outcomes_after, List.map_cons, List.length_cons, List.take_succ_cons, List.map_cons, ih,
        Function.comp_apply, here]

/-- Why a run has ended is said on a single line. -/
theorem breaks_abortReason (engine : Engine) (cancellation : Cancellation) (index : Nat)
    (cancelled : Bool) (properties : PropertySet) (steps : List Step) {reason : String}
    (ended : (ofSteps engine cancellation index cancelled properties steps).abortReason =
      some reason) : breaks reason = 0 := by
  rcases ending_ofSteps engine cancellation index cancelled properties steps with
    ⟨_, _, _, noReason⟩ | ⟨_, outcome, _, _, stopped⟩ | ⟨_, _, _, cancelled⟩
  · rw [noReason] at ended
    cases ended
  · have verdict : breaks outcome.status.title = 0 := by cases outcome.status <;> rfl
    have before : breaks "aborted after step " = 0 := rfl
    have between : breaks " ended with " = 0 := rfl
    rw [Option.some.inj (ended.symm.trans stopped)]
    simp only [breaks_append, breaks_toString, verdict, before, between]
  · have before : breaks "run cancelled before step " = 0 := rfl
    rw [Option.some.inj (ended.symm.trans cancelled)]
    simp only [breaks_append, breaks_toString, before]

end Run

open Fallible

/-- A kind that is read from a document is made of names. -/
theorem Step.isKind_of_read {operators : OperatorNames} {v : Value} {step : Step}
    (success : read (some operators) v = .ok step) : Name.isKind step.kind.toList = true := by
  cases step with
  | action task =>
      obtain ⟨entries, _, reading⟩ := read_eq_action success
      obtain ⟨_, _, reads⟩ := readAction_eq_ok_iff.mp reading
      obtain ⟨held, _, checked⟩ := reads.kind
      obtain ⟨kind, _, checked⟩ := bind_eq_ok_iff.mp checked
      split at checked
      · rename_i valid
        have same : kind = task.kind := Except.ok.inj checked
        rw [same] at valid
        exact valid
      · cases checked
  | assertion check =>
      have valid : Name.isKind assertKind.toList = true := by decide +kernel
      exact valid

theorem Name.breaks_of_isKind {kind : String} (valid : isKind kind.toList = true) :
    breaks kind = 0 := by
  have point : isIdentifierPart '.' = false := by decide +kernel
  have noReturn : isIdentifierPart '\r' = false := by decide +kernel
  have noFeed : isIdentifierPart '\n' = false := by decide +kernel
  apply breaks_eq_zero_iff.mpr
  constructor
  · exact not_mem_of_isKindWith (by decide) noReturn (by decide) point valid
  · exact not_mem_of_isKindWith (by decide) noFeed (by decide) point valid

/-- Every step of a loaded scenario is read from a document. -/
theorem Scenario.exists_readStep_of_load {registry : Registry} {ahead : Yaml.Lookahead}
    {files : Files} {workspace path : FilePath} {scenario : Scenario}
    (success : load registry ahead files workspace path = .ok scenario) {step : Step}
    (member : step ∈ scenario.steps) :
    ∃ filename number document, readStep registry filename number document = .ok step := by
  obtain ⟨present, _, success⟩ := bind_eq_ok_iff.mp success
  split at success
  · obtain ⟨content, _, success⟩ := bind_eq_ok_iff.mp success
    obtain ⟨documents, _, success⟩ := bind_eq_ok_iff.mp success
    obtain ⟨⟨header, steps⟩, read, same⟩ := bind_eq_ok_iff.mp success
    cases same
    obtain ⟨body, _, _, length, stepsRead⟩ := readDocuments_eq_ok_iff.mp read
    obtain ⟨position, found⟩ := List.mem_iff_getElem?.mp member
    have inside : position < (stepDocuments body).length := by
      rw [← length]
      exact (List.getElem?_eq_some_iff.mp found).1
    exact ⟨_, _, _, stepsRead position _ step (List.getElem?_eq_getElem inside) found⟩
  · cases success

namespace Runner

/-- The lines of a report break as the steps of its result do, and its summary does not. -/
theorem map_breaks_reportLines_execute (runner : Runner) (cancellation : Cancellation)
    (cancelled : Bool) (properties : PropertySet) (scenario : Scenario) (source : String) :
    let result := (runner.execute cancellation cancelled properties scenario source).1
    result.reportLines.map breaks = scenario.steps.map Step.breaks ++ [0] := by
  intro result
  have follows : result.Follows scenario := follows_execute ..
  have executed : result.outcomes.map (breaks ∘ outcomeLine) =
      (scenario.steps.take result.outcomes.length).map Step.breaks :=
    Run.map_breaks_outcomes runner.engine cancellation 1 cancelled properties scenario.steps
  have reason : breaks result.skipReason = 0 := by
    unfold Result.skipReason
    split
    · rename_i reason ended
      split
      · rfl
      · exact Run.breaks_abortReason runner.engine cancellation 1 cancelled properties
          scenario.steps ended
    · rfl
  rw [Result.reportLines, List.map_append, Result.stepLines, List.map_append, List.map_map,
    executed, map_breaks_skippedLines reason, Result.skippedSteps, follows.steps_eq,
    ← List.map_append, List.take_append_drop, List.map_singleton, follows.summaryLine_eq,
    Result.breaks_summaryLine]

theorem map_breaks_reportLines_loadFailed (source message : String) :
    (loadFailed source message).reportLines.map breaks = [0, 0] := by
  have kind : breaks loadKind = 0 := rfl
  have untitled : breaks "" = 0 := rfl
  have outcome : breaks (outcomeLine
      { index := 0, kind := loadKind, status := .error, message := message }) = 0 := by
    rw [breaks_outcomeLine, kind]
    exact untitled
  have summary : breaks (loadFailed source message).summaryLine = 0 :=
    Result.breaks_summaryLine 0 0 1 0 .error
  change [breaks (outcomeLine _), breaks (loadFailed source message).summaryLine] = _
  rw [outcome, summary]

theorem Returns.loadFailed_or_breaks {runner : Runner} {result : Result}
    (returned : runner.Returns result) :
    (∃ source message, result = loadFailed source message) ∨
    ∃ scenario, result.Follows scenario ∧
      result.reportLines.map breaks = scenario.steps.map Step.breaks ++ [0] := by
  cases returned with
  | run success =>
      rcases eq_of_run_eq_ok success with failed | ⟨properties, scenario, rfl⟩
      · exact .inl ⟨_, failed⟩
      · exact .inr ⟨scenario, follows_execute .., map_breaks_reportLines_execute ..⟩
  | execute cancellation cancelled properties scenario source =>
      exact .inr ⟨scenario, follows_execute .., map_breaks_reportLines_execute ..⟩

/-- Every step of the scenario behind a run of a file has a kind on a single line. -/
theorem breaks_kind_of_run {runner : Runner} {cancellation : Cancellation} {cancelled sign : Bool}
    {path : String} {result : Result}
    (success : runner.run cancellation cancelled path = .ok (result, sign)) {step : Step}
    (member : step ∈ result.steps) : breaks step.kind = 0 := by
  unfold run at success
  split at success
  · rename_i properties scenario loaded
    cases success
    obtain ⟨_, _, loaded⟩ := bind_eq_ok_iff.mp loaded
    obtain ⟨_, read, same⟩ := bind_eq_ok_iff.mp loaded
    cases same
    obtain ⟨_, _, _, stepRead⟩ := Scenario.exists_readStep_of_load read member
    exact Name.breaks_of_isKind (Step.isKind_of_read (Scenario.readStep_eq_ok stepRead).1)
  · split at success
    · cases success
      cases member
    · cases success
  · cases success

/-- The lines of a report are single lines if and only if the kinds and titles of all steps are.
Printed, a report has one line for each outcome, one for each step that was skipped and one more,
and each line break of a kind or of a title adds one.  Kinds that come from files add none. -/
theorem returns_single_lines (runner : Runner) (result : Result)
    (returned : runner.Returns result) :
    ((∀ line ∈ result.reportLines, IsSingleLine line) ↔
      ∀ step ∈ result.steps, IsSingleLine step.kind ∧
        ∀ title, step.title = some title → IsSingleLine title) ∧
    (breaks (CommandLine.printed result.reportLines) : Int) =
      result.outcomes.length + result.skipped + 1 + (result.steps.map Step.breaks).sum ∧
    ∀ cancellation cancelled path sign,
      runner.run cancellation cancelled path = .ok (result, sign) →
        ∀ step ∈ result.steps, IsSingleLine step.kind := by
  have lines : (∀ line ∈ result.reportLines, IsSingleLine line) ↔
      ∀ count ∈ result.reportLines.map breaks, count = 0 := by
    simp only [List.forall_mem_map, Text.breaks_eq_zero_iff]
  have printed := breaks_printed result.reportLines
  rw [lines]
  refine ⟨?single, ?printed, ?kinds⟩
  case kinds =>
    intro cancellation cancelled path sign success step member
    exact Text.breaks_eq_zero_iff.mp (breaks_kind_of_run success member)
  case single =>
    rcases returned.loadFailed_or_breaks with ⟨source, message, rfl⟩ | ⟨scenario, follows, counts⟩
    · rw [map_breaks_reportLines_loadFailed]
      simp [loadFailed, Result.steps]
    · rw [counts, follows.steps_eq]
      simp only [List.forall_mem_append, List.forall_mem_map, Step.breaks_eq_zero_iff,
        List.forall_mem_singleton, and_true]
  case printed =>
    rcases returned.loadFailed_or_breaks with ⟨source, message, rfl⟩ | ⟨scenario, follows, counts⟩
    · rw [printed, map_breaks_reportLines_loadFailed]
      rfl
    · have length : result.reportLines.length = scenario.steps.length + 1 := by
        rw [Result.reportLines, List.length_append, follows.length_stepLines]
        rfl
      have le := follows.length_le
      rw [printed, counts, length, follows.skipped_eq, follows.steps_eq, List.sum_append]
      simp only [List.sum_singleton]
      omega

/-- Two steps with titles of two lines, of which the second is skipped. -/
theorem returns_single_lines_skipped :
    let check (title : String) : Step :=
      .assertion ⟨some title, none, .text "a", "equals", .text "a", false, false, none⟩
    let scenario : Scenario := ⟨"pair", none, none, [check "one\ntwo", check "three\rfour"]⟩
    let runner : Runner := { engine := { registry := .builtin, workspace := .ofText "" } }
    let result := (runner.execute { before := (· == 2) } false ⟨[], []⟩ scenario "").1
    runner.Returns result ∧ result.outcomes.length = 1 ∧ result.skipped = 1 ∧
      (result.steps.map Step.breaks).sum = 2 ∧
      breaks (CommandLine.printed result.reportLines) = 5 ∧
      ¬∀ line ∈ result.reportLines, IsSingleLine line := by
  intro check scenario runner result
  have returned : runner.Returns result := .execute ..
  obtain ⟨single, printed, _⟩ := returns_single_lines runner result returned
  have executed : result.outcomes.length = 1 := by decide +kernel
  have skipped : result.skipped = 1 := by decide +kernel
  have titles : (result.steps.map Step.breaks).sum = 2 := by decide +kernel
  rw [executed, skipped, titles] at printed
  refine ⟨returned, executed, skipped, titles, by omega, ?_⟩
  rw [single]
  intro lines
  have title := (lines (check "one\ntwo") List.mem_cons_self).2 "one\ntwo" rfl
  have feed : '\n' ∈ "one\ntwo".toList := by decide
  exact title.2 feed

/-- A title of two lines in a scenario file. -/
theorem run_two_line_title :
    let files := (Files.mk [] []).add (.ofText "ws/test.yaml")
      "kind: assert\ntitle: \"one\\ntwo\"\nvalue: a\neq: a\n".toUTF8.toList
    let runner : Runner := { engine := { registry := .builtin, workspace := .ofText "ws", files } }
    ∃ result sign, runner.run .never false "test.yaml" = .ok (result, sign) ∧
      result.reportLines = ["[1] assert PASS: expected \"a\" to equal \"a\" (one\ntwo)",
        "Total: 1, Passed: 1, Failed: 0, Errors: 0, Skipped: 0, Status: PASS"] ∧
      ¬∀ line ∈ result.reportLines, IsSingleLine line := by
  intro files runner
  have lines : (runner.run .never false "test.yaml").toOption.map (fun ran => ran.1.reportLines) =
      some ["[1] assert PASS: expected \"a\" to equal \"a\" (one\ntwo)",
        "Total: 1, Passed: 1, Failed: 0, Errors: 0, Skipped: 0, Status: PASS"] := by
    decide +kernel
  obtain ⟨⟨result, sign⟩, ran, shown⟩ := Option.map_eq_some_iff.mp lines
  refine ⟨result, sign, toOption_eq_some_iff.mp ran, shown, ?_⟩
  intro single
  rw [shown] at single
  have feed : '\n' ∈ "[1] assert PASS: expected \"a\" to equal \"a\" (one\ntwo)".toList := by decide
  exact (single _ List.mem_cons_self).2 feed

end Runner

end Playbook
