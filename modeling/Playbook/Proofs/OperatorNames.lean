import Playbook.Execution
import Playbook.Proofs.RegistryConsistency
import Playbook.Proofs.StepReading

/-!
# Names of operators

An assertion is read with the canonical name of its operator, and executing it looks this name up
once more.  What runs is the comparator that the operator of the document denotes if and only if
the canonical name still denotes itself: a comparator that is registered later can take it as an
alias.
-/

namespace Playbook

namespace Registry

theorem Consistent.comparator?_eq_some {registry : Registry} (consistent : registry.Consistent)
    {operator name : String} (denotes : registry.canonicalName? operator = some name) :
    ∃ comparator, registry.comparator? operator = some comparator ∧ comparator.name = name := by
  obtain ⟨comparator, stored⟩ :=
    Option.isSome_iff_exists.mp (consistent.canonical operator name denotes).1
  refine ⟨comparator, ?_, consistent.named name comparator stored⟩
  rw [comparator?_eq, denotes]
  exact stored

end Registry

theorem AssertionStep.comparator_eq_ok {check : AssertionStep} {registry : Registry}
    {comparator : Comparator} (found : registry.comparator? check.operator = some comparator) :
    check.comparator registry = .ok comparator := by
  unfold AssertionStep.comparator
  rw [found]

namespace Scenario

/-- A step that is accepted has the canonical name of the operator that its document gives. -/
theorem canonicalName?_of_readStep {registry : Registry} {filename : Option String} {number : Nat}
    {document : Value} {check : AssertionStep}
    (accepted : readStep registry filename number document = .ok (.assertion check)) :
    ∃ entries operator, document = .map entries ∧
      Step.givenOperator? entries = some (.text operator) ∧
      registry.canonicalName? operator = some check.operator := by
  obtain ⟨reading, _⟩ := readStep_eq_ok accepted
  obtain ⟨entries, same, reading⟩ := Step.read_eq_assertion reading
  obtain ⟨operator, given, canonical⟩ := Step.operator_of_readAssertion reading
  exact ⟨entries, operator, same, given, canonical⟩

/-- The operator of a document that is accepted denotes a comparator.  The one that runs is what
the name of this comparator denotes, so it is the same one if and only if this name denotes
itself. -/
theorem runs_denoted_iff {registry : Registry} (built : registry.Built)
    {filename : Option String} {number : Nat} {entries : List (Value × Value)}
    {check : AssertionStep}
    (accepted : readStep registry filename number (.map entries) = .ok (.assertion check)) :
    ∃ operator denoted running, Step.givenOperator? entries = some (.text operator) ∧
      registry.comparator? operator = some denoted ∧
      check.comparator registry = .ok running ∧
      registry.comparator? denoted.name = some running ∧
      (running = denoted ↔ registry.canonicalName? denoted.name = some denoted.name) := by
  have consistent := built.consistent
  obtain ⟨_, operator, same, given, canonical⟩ := canonicalName?_of_readStep accepted
  cases same
  obtain ⟨denoted, isDenoted, name⟩ := consistent.comparator?_eq_some canonical
  obtain ⟨further, denotes⟩ := Option.isSome_iff_exists.mp
    (consistent.canonical operator check.operator canonical).2
  obtain ⟨running, runs, runningName⟩ := consistent.comparator?_eq_some denotes
  refine ⟨operator, denoted, running, given, isDenoted, AssertionStep.comparator_eq_ok runs,
    by rw [name]; exact runs, ?_⟩
  rw [name, denotes]
  constructor
  · intro equal
    rw [← runningName, equal, name]
  · intro self
    -- Both are stored under the canonical name.
    cases self
    have stored : registry.comparator? operator = registry.comparator? check.operator := by
      rw [Registry.comparator?_eq, Registry.comparator?_eq, canonical, denotes]
    rw [isDenoted, runs] at stored
    exact (Option.some.inj stored).symm

/-- An alias of a built-in comparator. -/
theorem runs_denoted_alias :
    let entries : List (Value × Value) :=
      [(.text "kind", .text "assert"), (.text "value", .text "abc"), (.text "eq", .text "abc")]
    let check : AssertionStep :=
      ⟨none, none, .text "abc", "equals", .text "abc", false, false, none⟩
    Registry.builtin.Built ∧
      readStep .builtin none 1 (.map entries) = .ok (.assertion check) ∧
      ∃ denoted, Registry.builtin.comparator? "eq" = some denoted ∧
        check.comparator .builtin = .ok denoted := by
  intro entries check
  have built : Registry.builtin.Built := Registry.built_discover false []
  have accepted : readStep .builtin none 1 (.map entries) = .ok (.assertion check) := rfl
  obtain ⟨operator, denoted, running, given, isDenoted, runs, _, same⟩ :=
    runs_denoted_iff built accepted
  have isAlias : some (Value.text "eq") = some (.text operator) := given
  cases isAlias
  have isEquals : some Comparator.equals = some denoted := isDenoted
  cases isEquals
  have equal : running = Comparator.equals := same.mpr rfl
  rw [equal] at runs
  exact ⟨built, accepted, Comparator.equals, isDenoted, runs⟩

set_option maxRecDepth 1000 in
/-- A comparator that takes the canonical name of a built-in one as an alias runs wherever another
alias of that one is given. -/
theorem runs_shadowing_comparator :
    let never : Comparator :=
      { name := "never", aliases := ["equals"], relation := fun _ _ _ => .ok false }
    let registry := (Registry.builtin.addComparator never "tests.plugins:test").1
    let entries : List (Value × Value) :=
      [(.text "kind", .text "assert"), (.text "value", .text "abc"), (.text "eq", .text "abc")]
    ∃ check denoted running, readStep registry none 1 (.map entries) = .ok (.assertion check) ∧
      Step.givenOperator? entries = some (.text "eq") ∧
      registry.comparator? "eq" = some denoted ∧ denoted.name = "equals" ∧
      check.comparator registry = .ok running ∧ running.name = "never" := by
  intro never registry entries
  exact ⟨⟨none, none, .text "abc", "equals", .text "abc", false, false, none⟩, Comparator.equals,
    never, rfl, rfl, rfl, rfl, rfl, rfl⟩

end Scenario

end Playbook
