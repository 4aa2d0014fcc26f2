import Playbook.Proofs.PropertyFlow

/-!
# Runs depend on referenced properties

A step refers to the keys of the placeholders in its texts.  Property sets that agree on these
keys are the same to it: it ends alike on both of them, and they agree again behind it, since it
writes the same texts above both.  So a run ends alike on property sets that agree on the keys
that its steps refer to, whatever else they hold and in whichever layer.
-/

namespace Playbook

namespace Template

theorem mem_keys_iff {key s : String} :
    key ∈ keys s ↔ ∃ name, Piece.placeholder name ∈ pieces s ∧ String.ofList name = key := by
  unfold keys
  constructor
  · intro member
    obtain ⟨piece, pieceMember, shown⟩ := List.mem_filterMap.mp member
    cases piece with
    | char c => cases shown
    | placeholder name => exact ⟨name, pieceMember, Option.some.inj shown⟩
  · intro ⟨name, member, same⟩
    exact List.mem_filterMap.mpr ⟨_, member, congrArg some same⟩

theorem fill_congr {first second : String → Option String} {parts : List Piece}
    (agree : ∀ name, Piece.placeholder name ∈ parts →
      first (String.ofList name) = second (String.ofList name)) :
    fill first parts = fill second parts := by
  induction parts with
  | nil => rfl
  | cons part rest ih =>
      have others : fill first rest = fill second rest := by
        apply ih
        intro name member
        exact agree name (List.mem_cons_of_mem _ member)
      cases part with
      | char c => simp only [fill, others]
      | placeholder name =>
          have found := agree name List.mem_cons_self
          simp only [fill, found, others]

end Template

namespace Value

mutual

/-- Keys of the placeholders in the text leaves of a value.  Keys of mappings are no leaves. -/
def references : Value → List String
  | .text s => Template.keys s
  | .list items | .tuple items | .set items => itemReferences items
  | .map entries => entryReferences entries
  | _ => []

def itemReferences : List Value → List String
  | [] => []
  | v :: rest => references v ++ itemReferences rest

def entryReferences : List (Value × Value) → List String
  | [] => []
  | (_, v) :: rest => references v ++ entryReferences rest

end

end Value

def ActionStep.references (task : ActionStep) : List String := (Value.record task.params).references

def AssertionStep.references (check : AssertionStep) : List String :=
  check.value.references ++ check.expected.references ++ (check.count.map Template.keys).getD []

/-- Keys of the placeholders in the values that a step resolves. -/
def Step.references : Step → List String
  | .action task => task.references
  | .assertion check => check.references

def Scenario.references (scenario : Scenario) : List String :=
  scenario.steps.flatMap Step.references

namespace PropertySet

/-- Two property sets have the same value, or none, for each of some keys. -/
def Agree (keys : List String) (first second : PropertySet) : Prop :=
  ∀ key ∈ keys, first.find? key = second.find? key

variable {keys others : List String} {first second : PropertySet}

theorem Agree.mono (agree : first.Agree keys second) (subset : others ⊆ keys) :
    first.Agree others second := by
  intro key member
  exact agree key (subset member)

theorem find?_write (properties : PropertySet) (layer : Layer) (key : String) :
    (properties.write layer).find? key =
      (Ordered.find? key layer.reverse).or (properties.find? key) := by
  unfold find?
  rw [runtime_write, file_write, Ordered.find?_putAll, Option.or_assoc]

/-- Writing the same texts keeps agreement, also where they hide different layers. -/
theorem Agree.write (agree : first.Agree keys second) (layer : Layer) :
    (first.write layer).Agree keys (second.write layer) := by
  intro key member
  rw [find?_write, find?_write, agree key member]

theorem resolveTemplate_congr {s : String} (agree : first.Agree (Template.keys s) second)
    (step : Option Int) : first.resolveTemplate step s = second.resolveTemplate step s := by
  unfold resolveTemplate
  rw [Template.fill_congr]
  intro name member
  exact agree _ (Template.mem_keys_iff.mpr ⟨name, member, rfl⟩)

mutual

theorem resolveValue_congr {v : Value} (agree : first.Agree v.references second)
    (step : Option Int) : first.resolveValue step v = second.resolveValue step v := by
  cases v with
  | text s => simp only [resolveValue, resolveTemplate_congr agree]
  | list items | tuple items | set items =>
      have same : first.resolveItems step items = second.resolveItems step items :=
        resolveItems_congr agree step
      simp only [resolveValue, same]
  | map entries =>
      have same : first.resolveEntries step entries = second.resolveEntries step entries :=
        resolveEntries_congr agree step
      simp only [resolveValue, same]
  | _ => rfl

theorem resolveItems_congr {items : List Value}
    (agree : first.Agree (Value.itemReferences items) second) (step : Option Int) :
    first.resolveItems step items = second.resolveItems step items := by
  cases items with
  | nil => rfl
  | cons v rest =>
      have here := agree.mono (List.subset_append_left _ (Value.itemReferences rest))
      have later := agree.mono (List.subset_append_right v.references _)
      simp only [resolveItems, resolveValue_congr here, resolveItems_congr later]

theorem resolveEntries_congr {entries : List (Value × Value)}
    (agree : first.Agree (Value.entryReferences entries) second) (step : Option Int) :
    first.resolveEntries step entries = second.resolveEntries step entries := by
  cases entries with
  | nil => rfl
  | cons entry rest =>
      have here := agree.mono (List.subset_append_left _ (Value.entryReferences rest))
      have later := agree.mono (List.subset_append_right entry.2.references _)
      simp only [resolveEntries, resolveValue_congr here, resolveEntries_congr later]

end

end PropertySet

/-- Two endings of a procedure with the same result, behind which some keys have the same
values. -/
structure Completed.Alike {α : Type} (keys : List String) (first second : Completed α) : Prop where
  result : first.result = second.result
  cancels : first.cancels = second.cancels
  properties : first.properties.Agree keys second.properties

namespace Procedure

variable {α β : Type} {keys others : List String}

/-- Looking at nothing but the values of some keys. -/
def LooksAt (keys : List String) : Procedure α → Prop
  | done _ => True
  | look next =>
      (∀ first second : PropertySet, first.Agree keys second → next first = next second) ∧
        ∀ properties, (next properties).LooksAt keys
  | store _ next => next.LooksAt keys
  | cancel next => next.LooksAt keys

theorem LooksAt.mono {procedure : Procedure α} (looks : procedure.LooksAt keys)
    (subset : keys ⊆ others) : procedure.LooksAt others := by
  induction procedure with
  | done result => trivial
  | look next ih =>
      constructor
      · intro first second agree
        exact looks.1 first second (agree.mono subset)
      · intro properties
        exact ih properties (looks.2 properties)
  | store layer next ih => exact ih looks
  | cancel next ih => exact ih looks

theorem LooksAt.bind {first : Procedure α} {following : α → Procedure β}
    (looks : first.LooksAt keys) (rest : ∀ a, (following a).LooksAt keys) :
    (first >>= following).LooksAt keys := by
  change (first.bind following).LooksAt keys
  induction first with
  | done result =>
      cases result with
      | error failure => trivial
      | ok a => exact rest a
  | look next ih =>
      constructor
      · intro left right agree
        exact congrArg (fun procedure => procedure.bind following) (looks.1 left right agree)
      · intro properties
        exact ih properties (looks.2 properties)
  | store layer next ih => exact ih looks
  | cancel next ih => exact ih looks

theorem looksAt_lift (result : Fallible α) : (liftM result : Procedure α).LooksAt keys := trivial

theorem looksAt_resolve (index : Nat) (v : Value) :
    (resolve index v).LooksAt v.references := by
  constructor
  · intro first second agree
    exact congrArg done (PropertySet.resolveValue_congr agree _)
  · intro properties
    trivial

theorem looksAt_resolveText (index : Nat) (s : String) :
    (resolveText index s).LooksAt (Template.keys s) := by
  constructor
  · intro first second agree
    exact congrArg done (PropertySet.resolveTemplate_congr agree _)
  · intro properties
    trivial

theorem looksAt_ofEffect (effect : Effect) : (ofEffect effect).LooksAt keys := by
  unfold ofEffect
  split <;> trivial

theorem looksAt_exportValues (values : List (Value × Value)) :
    (exportValues values).LooksAt keys := by
  unfold exportValues
  apply LooksAt.bind (looksAt_lift _)
  intro layer
  trivial

/-- A procedure ends alike on property sets that agree on all keys it looks at, and leaves them in
agreement. -/
theorem LooksAt.alike_run {procedure : Procedure α} (looks : procedure.LooksAt keys)
    {first second : PropertySet} (agree : first.Agree keys second) :
    (procedure.run first).Alike keys (procedure.run second) := by
  induction procedure generalizing first second with
  | done result => exact ⟨rfl, rfl, agree⟩
  | look next ih =>
      have same : next first = next second := looks.1 first second agree
      have rest := ih first (looks.2 first) agree
      unfold run
      rw [← same]
      exact ⟨rest.result, rest.cancels, rest.properties⟩
  | store layer next ih => exact ih looks (agree.write layer)
  | cancel next ih =>
      have rest := ih looks agree
      exact ⟨rest.result, rfl, rest.properties⟩

end Procedure

theorem AssertionStep.looksAt_procedure (check : AssertionStep) (registry : Registry)
    (index : Nat) :
    (check.procedure registry index).LooksAt check.references := by
  have values : check.value.references ++ check.expected.references ⊆ check.references :=
    List.subset_append_left _ _
  unfold procedure
  apply Procedure.LooksAt.bind (Procedure.looksAt_lift _)
  intro comparator
  apply Procedure.LooksAt.bind
  · apply Procedure.LooksAt.bind
    · exact (Procedure.looksAt_resolve index check.value).mono
        (List.Subset.trans (List.subset_append_left _ _) values)
    · intro actual
      apply Procedure.LooksAt.bind
      · exact (Procedure.looksAt_resolve index check.expected).mono
          (List.Subset.trans (List.subset_append_right _ _) values)
      · intro expected
        trivial
  · intro claim
    split
    · rename_i count given
      apply Procedure.LooksAt.bind
      · apply (Procedure.looksAt_resolveText index count).mono
        unfold references
        rw [given]
        exact List.subset_append_right _ _
      · intro ranges
        exact Procedure.looksAt_lift _
    · split <;> exact Procedure.looksAt_lift _

theorem ActionStep.looksAt_procedure (task : ActionStep) (engine : Engine) (index : Nat)
    (cancelled : Bool) :
    (task.procedure engine index cancelled).LooksAt task.references := by
  unfold procedure
  apply Procedure.LooksAt.bind
  · unfold produce
    apply Procedure.LooksAt.bind (Procedure.looksAt_lift _)
    intro operation
    apply Procedure.LooksAt.bind
    · unfold parameters
      apply Procedure.LooksAt.bind (Procedure.looksAt_resolve _ _)
      intro resolved
      exact Procedure.looksAt_lift _
    · intro params
      exact Procedure.looksAt_ofEffect _
  · intro produced
    unfold write
    apply Procedure.LooksAt.bind (Procedure.looksAt_lift _)
    intro values
    apply Procedure.LooksAt.bind (Procedure.looksAt_exportValues values)
    intro _
    exact Procedure.looksAt_lift _

namespace Step

theorem looksAt_procedure (engine : Engine) (index : Nat) (cancelled : Bool) (step : Step) :
    (step.procedure engine index cancelled).LooksAt step.references := by
  unfold procedure
  cases step with
  | assertion check =>
      apply Procedure.LooksAt.bind (check.looksAt_procedure engine.registry index)
      intro verdict
      trivial
  | action task =>
      apply Procedure.LooksAt.bind (task.looksAt_procedure engine index cancelled)
      intro exports
      trivial

variable {keys : List String} {first second : PropertySet}

theorem execute_congr {step : Step} (referenced : step.references ⊆ keys)
    (agree : first.Agree keys second) (engine : Engine) (index : Nat) (cancelled : Bool) :
    let left := step.execute engine first index cancelled
    let right := step.execute engine second index cancelled
    left.outcome = right.outcome ∧ left.cancels = right.cancels ∧
      left.properties.Agree keys right.properties := by
  have looks := (looksAt_procedure engine index cancelled step).mono referenced
  have alike := looks.alike_run agree
  refine ⟨?_, alike.cancels, alike.properties⟩
  change step.outcome index (settled _).1 (settled _).2 = _
  rw [alike.result]
  rfl

end Step

namespace Run

/-- Two runs with the same outcomes and the same ending, behind which some keys have the same
values. -/
structure Alike (keys : List String) (first second : Run) : Prop where
  outcomes : first.outcomes = second.outcomes
  state : first.state = second.state
  abortReason : first.abortReason = second.abortReason
  cancelled : first.cancelled = second.cancelled
  properties : first.properties.Agree keys second.properties

theorem Alike.after {keys : List String} {first second : Run} {left right : Executed}
    (alike : first.Alike keys second) (outcome : left.outcome = right.outcome) :
    (after left first).Alike keys (Run.after right second) where
  outcomes := by rw [outcomes_after, outcomes_after, outcome, alike.outcomes]
  state := alike.state
  abortReason := alike.abortReason
  cancelled := alike.cancelled
  properties := alike.properties

theorem alike_stoppedAt {keys : List String} {left right : Executed}
    (outcome : left.outcome = right.outcome)
    (agree : left.properties.Agree keys right.properties) (cancelled : Bool) :
    (stoppedAt left cancelled).Alike keys (stoppedAt right cancelled) where
  outcomes := congrArg (fun outcome => [outcome]) outcome
  state := rfl
  abortReason := congrArg (fun outcome => some (stopReason outcome)) outcome
  cancelled := rfl
  properties := agree

/-- Property sets that agree stay in agreement from step to step, so no step can tell them
apart. -/
theorem alike_ofSteps {keys : List String} {steps : List Step}
    (referenced : ∀ step ∈ steps, step.references ⊆ keys) {first second : PropertySet}
    (agree : first.Agree keys second) (engine : Engine) (cancellation : Cancellation)
    (index : Nat) (cancelled : Bool) :
    (ofSteps engine cancellation index cancelled first steps).Alike keys
      (ofSteps engine cancellation index cancelled second steps) := by
  induction steps generalizing index cancelled first second with
  | nil => exact ⟨rfl, rfl, rfl, rfl, agree⟩
  | cons step rest ih =>
      have others : ∀ later ∈ rest, later.references ⊆ keys := by
        intro later member
        exact referenced later (List.mem_cons_of_mem _ member)
      obtain ⟨outcome, cancels, reached⟩ := Step.execute_congr
        (referenced step List.mem_cons_self) agree engine index (cancellation.entering index)
      unfold ofSteps
      generalize step.execute engine first index (cancellation.entering index) = left
        at outcome cancels reached
      generalize step.execute engine second index (cancellation.entering index) = right
        at outcome cancels reached
      dsimp only
      rw [outcome, cancels]
      split
      · exact ⟨rfl, rfl, rfl, rfl, agree⟩
      · split
        · exact alike_stoppedAt outcome reached _
        · exact (ih others reached _ _).after outcome

end Run

namespace Runner

/-- On property sets that agree on the keys its steps refer to, a scenario has the same result.
Behind both runs the property sets agree again. -/
theorem execute_eq_of_agree (runner : Runner) (cancellation : Cancellation) (cancelled : Bool)
    (first second : PropertySet) (scenario : Scenario) (source : String)
    (agree : first.Agree scenario.references second) :
    let (result, run) := runner.execute cancellation cancelled first scenario source
    let (other, otherRun) := runner.execute cancellation cancelled second scenario source
    result = other ∧ run.cancelled = otherRun.cancelled ∧
      run.properties.Agree scenario.references otherRun.properties := by
  have referenced : ∀ step ∈ scenario.steps, step.references ⊆ scenario.references := by
    intro step member key keyMember
    exact List.mem_flatMap.mpr ⟨step, member, keyMember⟩
  have alike := Run.alike_ofSteps referenced agree runner.engine cancellation 1 cancelled
  change _ ∧ _ ∧ _
  refine ⟨?_, alike.cancelled, alike.properties⟩
  unfold Run.ofScenario Run.result
  rw [alike.outcomes, alike.state, alike.abortReason]

/-- A key that is defined in different layers, one that only one step defines, and one that no
step refers to. -/
theorem execute_eq_of_agree_layers :
    let copy : ActionStep := ⟨none, none, "set", [("copy", .text "\x7b\x7bhost\x7d\x7d")], [], none⟩
    let check : AssertionStep :=
      ⟨none, none, .text "\x7b\x7b copy \x7d\x7d", "equals", .text "local", false, false, none⟩
    let scenario : Scenario := ⟨"copying", none, none, [.action copy, .assertion check]⟩
    let runner : Runner := { engine := { registry := .builtin, workspace := .ofText "" } }
    let first : PropertySet := ⟨[("host", "local")], [("port", "1")]⟩
    let second : PropertySet := ⟨[("port", "2")], [("host", "local")]⟩
    first.Agree scenario.references second ∧
      (runner.execute .never false first scenario "").1 =
        (runner.execute .never false second scenario "").1 ∧
      (runner.execute .never false second scenario "").1.status = .pass := by
  intro copy check scenario runner first second
  have agree : first.Agree scenario.references second := by
    change ∀ key ∈ scenario.references, first.find? key = second.find? key
    decide +kernel
  have same := execute_eq_of_agree runner .never false first second scenario "" agree
  exact ⟨agree, same.1, by decide +kernel⟩

end Runner

end Playbook
