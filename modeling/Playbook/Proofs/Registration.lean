import Playbook.Registry

/-!
# Strict and relaxed registration

Registering an extension reports all its issues before it writes anything.  So a strict registry,
which stops at the first issue, is then as it was before the extension.  As long as no issue is
reported the two modes do the same; the first warning of a relaxed registry is the error of a strict
one.
-/

namespace Playbook.Registry

theorem foldl_write_report (registry : Registry) (issues : List String) :
    (issues.map Act.report).foldl Act.write registry = registry := by
  induction issues with
  | nil => rfl
  | cons issue rest ih => exact ih

theorem filterMap_issue?_report (issues : List String) :
    (issues.map Act.report).filterMap Act.issue? = issues := by
  induction issues with
  | nil => rfl
  | cons issue rest ih => exact congrArg (issue :: ·) ih

theorem behind_report_append (registry : Registry) (issues : List String) (acts : List Act) :
    registry.behind (issues.map Act.report ++ acts) =
      ((registry.behind acts).1, issues ++ (registry.behind acts).2) := by
  unfold behind
  rw [List.foldl_append, foldl_write_report, List.filterMap_append, filterMap_issue?_report]

theorem addCapability_eq (registry : Registry) (declared : Capability) (source : String)
    (plugin : Option String) :
    registry.addCapability declared source plugin =
      let kind := declared.qualifiedName plugin
      let taken := shadowing "Capability" source (registry.operations.map Prod.fst) [kind]
      match declared.compile plugin with
      | .ok operation =>
          ({ registry with operations := Ordered.put kind operation registry.operations }, taken)
      | .error clash => (registry, taken ++ [invalidSchema kind source clash]) := by
  unfold addCapability capabilityActs
  rw [behind_report_append]
  cases declared.compile plugin with
  | ok operation => simp [behind, Act.write, Act.issue?]
  | error clash => rfl

theorem addComparator_eq (registry : Registry) (declared : Comparator) (source : String) :
    registry.addComparator declared source =
      let names := declared.name :: declared.aliases
      ({ registry with
          comparators := Ordered.put declared.name declared registry.comparators
          operators :=
            Ordered.putAll registry.operators (names.map fun name => (name, declared.name)) },
        shadowing "Operator" source (registry.operators.map Prod.fst) names) := by
  unfold addComparator comparatorActs
  rw [behind_report_append]
  simp [behind, Act.write, Act.issue?]

theorem register_eq_behind (registry : Registry) (registration : Registration) :
    registry.register registration = registry.behind (registry.acts registration) := by
  cases registration <;> rfl

/-- Everything is reported before anything is written. -/
theorem acts_eq (registry : Registry) (registration : Registration) :
    ∃ (issues : List String) (writes : List Act),
      registry.acts registration = issues.map Act.report ++ writes ∧
        ∀ act ∈ writes, act.issue? = none := by
  cases registration with
  | issue message => exact ⟨[message], [], rfl, by simp⟩
  | comparator declared source =>
      refine ⟨_, _, rfl, ?_⟩
      intro act member
      rcases List.mem_cons.mp member with rfl | later
      · rfl
      · rw [List.mem_singleton.mp later]
        rfl
  | capability declared source plugin =>
      rw [acts, capabilityActs]
      cases declared.compile plugin with
      | ok operation =>
          refine ⟨_, _, rfl, ?_⟩
          intro act member
          rw [List.mem_singleton.mp member]
          rfl
      | error clash =>
          let kind := declared.qualifiedName plugin
          refine ⟨shadowing "Capability" source (registry.operations.map Prod.fst) [kind] ++
            [invalidSchema kind source clash], [], ?_, by simp⟩
          rw [List.append_nil, List.map_append]
          rfl

namespace Progress

variable {progress : Progress}

theorem perform_of_stopped (stopped : progress.failure ≠ none) (strict : Bool) (act : Act) :
    progress.perform strict act = progress := by
  obtain ⟨issue, failure⟩ := Option.ne_none_iff_exists'.mp stopped
  simp [perform, failure]

theorem perform_strict_report (running : progress.failure = none) (issue : String) :
    progress.perform true (.report issue) = { progress with failure := some issue } := by
  simp [perform, running, Act.issue?]

theorem perform_relaxed_report (running : progress.failure = none) (issue : String) :
    progress.perform false (.report issue) =
      { progress with warnings := progress.warnings ++ [issue] } := by
  simp [perform, running, Act.issue?]

theorem perform_of_silent (running : progress.failure = none) {act : Act}
    (silent : act.issue? = none) (strict : Bool) :
    progress.perform strict act = { progress with registry := act.write progress.registry } := by
  simp [perform, running, silent]

/-- Once registering has been stopped, nothing is done. -/
theorem foldl_perform_stopped (stopped : progress.failure ≠ none) (strict : Bool)
    (acts : List Act) : acts.foldl (perform strict) progress = progress := by
  induction acts with
  | nil => rfl
  | cons act rest ih =>
      rw [List.foldl_cons, perform_of_stopped stopped]
      exact ih

theorem foldl_perform_relaxed (running : progress.failure = none) (acts : List Act) :
    acts.foldl (perform false) progress =
      ⟨(progress.registry.behind acts).1, progress.warnings ++ (progress.registry.behind acts).2,
        none⟩ := by
  induction acts generalizing progress with
  | nil =>
      obtain ⟨registry, warnings, failure⟩ := progress
      cases running
      simp [behind]
  | cons act rest ih =>
      rw [List.foldl_cons]
      cases issue : act.issue? with
      | none =>
          rw [perform_of_silent running issue]
          refine (ih ?_).trans ?_
          · exact running
          · simp [behind, issue]
      | some issue =>
          cases act with
          | report message =>
              rw [perform_relaxed_report running]
              refine (ih ?_).trans ?_
              · exact running
              · simp [behind, Act.issue?, Act.write]
          | _ => cases issue

/-- Acts that report nothing are the same in both modes. -/
theorem foldl_perform_of_silent (running : progress.failure = none) {acts : List Act}
    (silent : ∀ act ∈ acts, act.issue? = none) :
    acts.foldl (perform true) progress = acts.foldl (perform false) progress := by
  induction acts generalizing progress with
  | nil => rfl
  | cons act rest ih =>
      have here := silent act List.mem_cons_self
      rw [List.foldl_cons, List.foldl_cons, perform_of_silent running here,
        perform_of_silent running here]
      apply ih
      · exact running
      · intro other member
        exact silent other (List.mem_cons_of_mem _ member)

theorem register_relaxed (running : progress.failure = none) (registration : Registration) :
    progress.register false registration =
      ⟨(progress.registry.register registration).1,
        progress.warnings ++ (progress.registry.register registration).2, none⟩ := by
  rw [register_eq_behind]
  exact foldl_perform_relaxed running _

/-- An extension without issues is registered in strict mode as in relaxed mode. -/
theorem register_strict_of_silent (running : progress.failure = none)
    {registration : Registration} (silent : (progress.registry.register registration).2 = []) :
    progress.register true registration = progress.register false registration := by
  rw [register_eq_behind] at silent
  exact foldl_perform_of_silent running (List.filterMap_eq_nil_iff.mp silent)

/-- In strict mode the first issue of an extension is a failure that has changed nothing. -/
theorem register_strict_of_issue (running : progress.failure = none)
    {registration : Registration} {issue : String} {others : List String}
    (reported : (progress.registry.register registration).2 = issue :: others) :
    progress.register true registration = { progress with failure := some issue } := by
  obtain ⟨issues, writes, split, silent⟩ := progress.registry.acts_eq registration
  have nothing : (progress.registry.behind writes).2 = [] :=
    List.filterMap_eq_nil_iff.mpr silent
  rw [register_eq_behind, split, behind_report_append, nothing, List.append_nil] at reported
  have first : issues = issue :: others := reported
  unfold register
  rw [split, first, List.map_cons, List.cons_append, List.foldl_cons,
    perform_strict_report running]
  exact foldl_perform_stopped (Option.some_ne_none issue) true _

/-- A strict registry changes only by extensions without issues. -/
theorem registry_register_strict (progress : Progress) (registration : Registration) :
    (progress.register true registration).registry = progress.registry ∨
      (progress.registry.register registration).2 = [] ∧
        (progress.register true registration).registry =
          (progress.registry.register registration).1 := by
  by_cases running : progress.failure = none
  · cases reported : (progress.registry.register registration).2 with
    | nil =>
        right
        rw [register_strict_of_silent running reported, register_relaxed running]
        exact ⟨rfl, rfl⟩
    | cons issue others =>
        left
        rw [register_strict_of_issue running reported]
  · left
    exact congrArg Progress.registry (foldl_perform_stopped running true _)

theorem registry_register (strict : Bool) (progress : Progress) (registration : Registration) :
    (progress.register strict registration).registry = progress.registry ∨
      (progress.register strict registration).registry =
        (progress.registry.register registration).1 := by
  cases strict with
  | true => exact (progress.registry_register_strict registration).imp_right And.right
  | false =>
      by_cases running : progress.failure = none
      · right
        rw [register_relaxed running]
      · left
        exact congrArg Progress.registry (foldl_perform_stopped running false _)

end Progress

section Sequences

variable {progress : Progress}

theorem registerAll_cons (strict : Bool) (progress : Progress) (registration : Registration)
    (rest : List Registration) :
    registerAll strict progress (registration :: rest) =
      registerAll strict (progress.register strict registration) rest := rfl

theorem registerAll_stopped (stopped : progress.failure ≠ none) (strict : Bool)
    (registrations : List Registration) : registerAll strict progress registrations = progress := by
  induction registrations with
  | nil => rfl
  | cons registration rest ih =>
      rw [registerAll_cons]
      unfold Progress.register
      rw [Progress.foldl_perform_stopped stopped]
      exact ih

/-- Relaxed registration does not stop. -/
theorem registerAll_relaxed (running : progress.failure = none)
    (registrations : List Registration) :
    (registerAll false progress registrations).failure = none ∧
      (registerAll false progress registrations).registry =
        registrations.foldl (fun registry registration => (registry.register registration).1)
          progress.registry := by
  induction registrations generalizing progress with
  | nil => exact ⟨running, rfl⟩
  | cons registration rest ih =>
      rw [registerAll_cons, Progress.register_relaxed running]
      exact ih rfl

/-- Warnings are kept. -/
theorem warnings_registerAll (running : progress.failure = none)
    (registrations : List Registration) :
    ∃ more, (registerAll false progress registrations).warnings = progress.warnings ++ more := by
  induction registrations generalizing progress with
  | nil => exact ⟨[], (List.append_nil _).symm⟩
  | cons registration rest ih =>
      have relaxed := Progress.register_relaxed running registration
      have goesOn : (progress.register false registration).failure = none := by rw [relaxed]
      obtain ⟨more, warnings⟩ := ih goesOn
      rw [registerAll_cons]
      rw [warnings, relaxed, List.append_assoc]
      exact ⟨_, rfl⟩

theorem warnings_registerAll_cons (running : progress.failure = none)
    (registration : Registration) (rest : List Registration) :
    ∃ more, (registerAll false progress (registration :: rest)).warnings =
      progress.warnings ++ (progress.registry.register registration).2 ++ more := by
  have relaxed := Progress.register_relaxed running registration
  have goesOn : (progress.register false registration).failure = none := by rw [relaxed]
  obtain ⟨more, warnings⟩ := warnings_registerAll goesOn rest
  rw [← registerAll_cons, relaxed] at warnings
  exact ⟨more, warnings⟩

/-- As long as there are no issues, the modes do the same. -/
theorem registerAll_strict_of_silent (running : progress.failure = none)
    {registrations : List Registration}
    (silent : (registerAll false progress registrations).warnings = progress.warnings) :
    registerAll true progress registrations = registerAll false progress registrations := by
  induction registrations generalizing progress with
  | nil => rfl
  | cons registration rest ih =>
      have relaxed := Progress.register_relaxed running registration
      obtain ⟨more, warnings⟩ := warnings_registerAll_cons running registration rest
      rw [silent, List.append_assoc, List.self_eq_append_right, List.append_eq_nil_iff] at warnings
      rw [registerAll_cons, relaxed] at silent
      have noIssues : (progress.registry.register registration).2 = [] := warnings.1
      rw [registerAll_cons, registerAll_cons,
        Progress.register_strict_of_silent running noIssues, relaxed]
      apply ih rfl
      rw [silent, noIssues, List.append_nil]

/-- The first issue stops strict registration before the extension that it is about. -/
theorem registerAll_strict_of_issue (running : progress.failure = none)
    {registrations : List Registration} {issue : String} {others : List String}
    (reported : (registerAll false progress registrations).warnings =
      progress.warnings ++ issue :: others) :
    ∃ front registration later more, registrations = front ++ registration :: later ∧
      (registerAll false progress front).warnings = progress.warnings ∧
      (registerAll false progress (front ++ [registration])).warnings =
        progress.warnings ++ issue :: more ∧
      registerAll true progress registrations =
        { registerAll false progress front with failure := some issue } := by
  induction registrations generalizing progress with
  | nil => simp [registerAll] at reported
  | cons registration rest ih =>
      have relaxed := Progress.register_relaxed running registration
      cases issues : (progress.registry.register registration).2 with
      | nil =>
          rw [issues, List.append_nil] at relaxed
          rw [registerAll_cons, relaxed] at reported
          obtain ⟨front, stopping, later, more, split, silent, first, strict⟩ := ih rfl reported
          refine ⟨registration :: front, stopping, later, more, ?_, ?_, ?_, ?_⟩
          · rw [split, List.cons_append]
          · rw [registerAll_cons, relaxed, silent]
          · rw [List.cons_append, registerAll_cons, relaxed, first]
          · rw [registerAll_cons, registerAll_cons,
              Progress.register_strict_of_silent running issues, relaxed, strict]
      | cons first more =>
          rw [issues] at relaxed
          have same : first = issue := by
            obtain ⟨later, warnings⟩ := warnings_registerAll_cons running registration rest
            rw [warnings, issues, List.append_assoc] at reported
            exact (List.cons_eq_cons.mp (List.append_cancel_left reported)).1
          rw [same] at issues relaxed
          refine ⟨[], registration, rest, more, rfl, rfl, ?_, ?_⟩
          · rw [List.nil_append, registerAll_cons, relaxed]
            rfl
          · rw [registerAll_cons, Progress.register_strict_of_issue running issues]
            exact registerAll_stopped (Option.some_ne_none issue) true rest

end Sequences

/-- Without issues a strict registry ends as a relaxed one does.  Otherwise it fails with what the
relaxed one first warns of, and is then what the relaxed one is before the extension that this is
about. -/
theorem strict_follows_relaxed :
    (∀ (registry : Registry) (registrations : List Registration),
      let relaxed := registerAll false ⟨registry, [], none⟩
      let strict := registerAll true ⟨registry, [], none⟩ registrations
      (relaxed registrations).failure = none ∧
      ((relaxed registrations).warnings = [] →
        strict.failure = none ∧ strict.registry = (relaxed registrations).registry) ∧
      ∀ issue others, (relaxed registrations).warnings = issue :: others →
        strict.failure = some issue ∧
          ∃ front registration later more, registrations = front ++ registration :: later ∧
            (relaxed front).warnings = [] ∧
            (relaxed (front ++ [registration])).warnings = issue :: more ∧
            strict.registry = (relaxed front).registry) ∧
    ∀ points, ∃ registry warnings, ofEntryPoints false points = .ok (registry, warnings) ∧
      ofEntryPoints true points =
        match warnings with
        | [] => .ok (registry, [])
        | issue :: _ => .error (failureOf issue) := by
  refine ⟨?registrations, ?points⟩
  case registrations =>
    intro registry registrations relaxed strict
    have running : (⟨registry, [], none⟩ : Progress).failure = none := rfl
    refine ⟨(registerAll_relaxed running registrations).1, ?_, ?_⟩
    · intro silent
      have same : strict = relaxed registrations := registerAll_strict_of_silent running silent
      rw [same]
      exact ⟨(registerAll_relaxed running registrations).1, rfl⟩
    · intro issue others reported
      obtain ⟨front, registration, later, more, split, silent, first, stopped⟩ :=
        registerAll_strict_of_issue running reported
      have ending : strict = { relaxed front with failure := some issue } := stopped
      rw [ending]
      exact ⟨rfl, front, registration, later, more, split, silent, first, rfl⟩
  case points =>
    intro points
    have running : (⟨{}, [], none⟩ : Progress).failure = none := rfl
    let registrations := builtinRegistrations ++ points.flatMap EntryPoint.registrations
    have completes : (discover false points).failure = none :=
      (registerAll_relaxed running registrations).1
    refine ⟨(discover false points).registry, (discover false points).warnings, ?_, ?_⟩
    · simp only [ofEntryPoints, completes]
    · cases warnings : (discover false points).warnings with
      | nil =>
          have same : discover true points = discover false points :=
            registerAll_strict_of_silent running warnings
          simp only [ofEntryPoints, same, completes, warnings]
      | cons issue others =>
          obtain ⟨_, _, _, _, _, _, _, stopped⟩ := registerAll_strict_of_issue running warnings
          have failed : (discover true points).failure = some issue :=
            congrArg Progress.failure stopped
          simp only [ofEntryPoints, failed]

namespace Stopping

/-- A comparator under a new name. -/
def same : Comparator := { Comparator.equals with name := "same", aliases := [] }

/-- A capability in the place of a built-in one, with a parameter of a reserved name. -/
def unusable : Capability := { Capability.sleep with parameters := [("kind", {})] }

def registrations : List Registration :=
  [.comparator same "tools", .capability unusable "tools" none, .issue "later"]

/-- A strict registry fails with the first of the two issues of a capability. -/
theorem strict_follows_relaxed_unusable :
    let relaxed := registerAll false ⟨builtin, [], none⟩
    let strict := registerAll true ⟨builtin, [], none⟩ registrations
    let taken := "Capability 'sleep' from 'tools' is shadowing an existing"
    (relaxed registrations).warnings =
        [taken, invalidSchema "sleep" "tools" ⟨"kind", "kind"⟩, "later"] ∧
      strict.failure = some taken ∧
      ∃ front registration later, registrations = front ++ registration :: later ∧
        strict.registry = (relaxed front).registry := by
  intro relaxed strict taken
  have reported : (relaxed registrations).warnings =
      [taken, invalidSchema "sleep" "tools" ⟨"kind", "kind"⟩, "later"] := by
    decide +kernel
  obtain ⟨failed, front, registration, later, _, split, _, _, unchanged⟩ :=
    (strict_follows_relaxed.1 builtin registrations).2.2 _ _ reported
  exact ⟨reported, failed, front, registration, later, split, unchanged⟩

end Stopping

end Playbook.Registry
