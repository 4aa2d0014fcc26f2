import Playbook.Proofs.AssertionDocuments
import Playbook.Proofs.InnermostParts

/-!
# Elements that the issues of steps show

The path of an issue with a step begins with the form that the document was read as, and goes on
with the key of a field.  No key of the document stands for the form, so that the element shown is
not looked for at the field: it is the whole document, or lies under a key that is named like the
form.
-/

namespace Playbook

namespace Issue

/-- Paths that begin at one of some names, unless they are empty. -/
def BeginsIn (names : List String) (issue : Issue) : Prop :=
  ∀ part ∈ issue.path.head?, ∃ name ∈ names, part = .name name

variable {names : List String} {issue : Issue}

theorem beginsIn_of_path_eq_nil (empty : issue.path = []) : issue.BeginsIn names := by
  intro part first
  rw [empty] at first
  cases first

theorem beginsIn_of_path_eq_cons {name : String} {rest : List Part} (member : name ∈ names)
    (path : issue.path = .name name :: rest) : issue.BeginsIn names := by
  intro part first
  rw [path] at first
  cases first
  exact ⟨name, member, rfl⟩

theorem BeginsIn.mono {others : List String} (begins : issue.BeginsIn names)
    (subset : names ⊆ others) : issue.BeginsIn others := by
  intro part first
  obtain ⟨name, member, isName⟩ := begins part first
  exact ⟨name, subset member, isName⟩

end Issue

/-- Checks whose issues begin at one of some names. -/
def Checked.BeginsIn {α : Type} (names : List String) (checked : Checked α) : Prop :=
  ∀ issue, checked = .error issue → issue.BeginsIn names

theorem Checked.BeginsIn.bind {α β : Type} {names : List String} {first : Checked α}
    {following : α → Checked β} (begins : Checked.BeginsIn names first)
    (continues : ∀ a, first = .ok a → Checked.BeginsIn names (following a)) :
    Checked.BeginsIn names (first >>= following) := by
  intro issue failed
  rcases Fallible.bind_eq_error_iff.mp failed with failed | ⟨a, success, failed⟩
  · exact begins issue failed
  · exact continues a success issue failed

namespace Field

open Fallible

variable {α : Type} {entries : List (Value × Value)} {names all : List String}

theorem mem_of_lookup? {found : String × Value} (held : lookup? entries names = some found) :
    found.1 ∈ names := by
  induction names with
  | nil => cases held
  | cons name rest ih =>
      unfold lookup? at held
      split at held
      · cases held
        exact List.mem_cons_self
      · exact List.mem_cons_of_mem _ (ih held)

theorem withDefault_beginsIn {check : Value → Checked α} {fallback : α} (known : names ⊆ all) :
    Checked.BeginsIn all (withDefault entries names check fallback) := by
  intro issue failed
  unfold withDefault at failed
  split at failed
  · rename_i name v held
    obtain ⟨inner, _, rfl⟩ := mapError_eq_error_iff.mp failed
    exact Issue.beginsIn_of_path_eq_cons (known (mem_of_lookup? held)) rfl
  · cases failed

theorem required_beginsIn {name : String} {check : Value → Checked α} (known : name ∈ all) :
    Checked.BeginsIn all (required entries [name] check) := by
  intro issue failed
  unfold required at failed
  split at failed
  · rename_i found v held
    obtain ⟨inner, _, rfl⟩ := mapError_eq_error_iff.mp failed
    cases List.mem_singleton.mp (mem_of_lookup? held)
    exact Issue.beginsIn_of_path_eq_cons known rfl
  · cases failed
    exact Issue.beginsIn_of_path_eq_cons known rfl

end Field

namespace Step

open Fallible Playbook.Field

variable {entries : List (Value × Value)} {issue : Issue}

theorem noExtras_beginsIn {used names : List String}
    (named : ∀ entry ∈ entries, isNamed names entry.1 = true) :
    Checked.BeginsIn names (noExtras used entries) := by
  intro issue failed
  induction entries with
  | nil => cases failed
  | cons entry rest ih =>
      obtain ⟨key, v⟩ := entry
      obtain ⟨here, later⟩ := List.forall_mem_cons.mp named
      obtain ⟨name, member, rfl⟩ := isNamed_iff.mp here
      rw [noExtras] at failed
      dsimp only [text] at failed
      split at failed
      · exact ih later failed
      · cases failed
        exact Issue.beginsIn_of_path_eq_cons member rfl

theorem path_of_brokenRule {α : Type} {message : Except Fault String}
    (failed : (brokenRule message : Fallible α) = .error (.issue issue)) : issue.path = [] := by
  unfold brokenRule at failed
  split at failed
  · cases failed
    rfl
  · split at failed
    · cases failed
      rfl
    · cases failed

/-! ## Actions -/

/-- The issues with an action whose parameters are in one mapping; its keys have to have a meaning
only if this mapping is read. -/
theorem actionFields_beginsIn
    (named : ∀ params, Gives (Value.field? "params" entries) (mapping text any) [] params →
      ∀ entry ∈ entries, isNamed actionKeys entry.1 = true) :
    Checked.BeginsIn actionKeys (actionFields entries) := by
  unfold actionFields
  refine .bind (withDefault_beginsIn (by decide)) fun title _ => ?_
  refine .bind (withDefault_beginsIn (by decide)) fun description _ => ?_
  refine .bind (required_beginsIn (by decide)) fun kind _ => ?_
  refine .bind (withDefault_beginsIn (by decide)) fun params paramsRead => ?_
  refine .bind (withDefault_beginsIn (by decide)) fun exports _ => ?_
  refine .bind (withDefault_beginsIn (by decide)) fun timeout _ => ?_
  have allNamed := named params (withDefault_singleton_eq_ok_iff.mp paramsRead)
  exact .bind (noExtras_beginsIn allNamed) fun _ _ => nofun

/-- Parameters that stand in one mapping leave no key without a meaning, and they are left beside
each other only where this mapping cannot be read. -/
theorem isNamed_of_collectParams {collected : List (Value × Value)}
    (success : collectParams entries = .ok collected) {params : List (String × Value)}
    (read : Gives (Value.field? "params" collected) (mapping text any) [] params) :
    ∀ entry ∈ collected, isNamed actionKeys entry.1 = true := by
  unfold collectParams at success
  dsimp only at success
  split at success
  · rename_i empty
    cases success
    exact isNamed_of_inlineParams_eq_nil (List.isEmpty_iff.mp empty)
  · split at success
    · rename_i noMapping
      cases success
      exact absurd noMapping (nestedParams?_ne_none read)
    · split at success
      · cases success
        exact isNamed_gathered _ entries
      · exact absurd success (brokenRule_ne_ok _ _)

theorem collectParams_eq_error (failed : collectParams entries = .error (.issue issue)) :
    issue.path = [] := by
  unfold collectParams at failed
  dsimp only at failed
  split at failed
  · cases failed
  · split at failed
    · cases failed
    · split at failed
      · cases failed
      · exact path_of_brokenRule failed

theorem readAction_beginsIn {v : Value} (failed : readAction v = .error (.issue issue)) :
    issue.BeginsIn actionKeys := by
  unfold readAction at failed
  split at failed
  · rcases bind_eq_error_iff.mp failed with failed | ⟨collected, success, failed⟩
    · exact Issue.beginsIn_of_path_eq_nil (collectParams_eq_error failed)
    · obtain ⟨_, failed, same⟩ := mapError_eq_error_iff.mp failed
      cases same
      exact actionFields_beginsIn (fun _ => isNamed_of_collectParams success) _ failed
  · cases failed
    exact Issue.beginsIn_of_path_eq_nil rfl

/-! ## Assertions -/

/-- The issues with an assertion whose operator is explicit; its keys have to have a meaning only
if the operator is a text. -/
theorem assertionFields_beginsIn
    (named : ∀ operator given, Value.field? "operator" entries = some operator →
      text operator = .ok given → ∀ entry ∈ entries, isNamed assertionKeys entry.1 = true) :
    Checked.BeginsIn assertionKeys (assertionFields entries) := by
  unfold assertionFields
  refine .bind (withDefault_beginsIn (by decide)) fun title _ => ?_
  refine .bind (withDefault_beginsIn (by decide)) fun description _ => ?_
  refine .bind (required_beginsIn (by decide)) fun kind _ => ?_
  refine .bind (required_beginsIn (by decide)) fun value _ => ?_
  refine .bind (required_beginsIn (by decide)) fun operator operatorRead => ?_
  refine .bind (required_beginsIn (by decide)) fun expected _ => ?_
  refine .bind (withDefault_beginsIn (by decide)) fun ignoreCase _ => ?_
  refine .bind (withDefault_beginsIn (by decide)) fun each _ => ?_
  refine .bind (withDefault_beginsIn (by decide)) fun count _ => ?_
  obtain ⟨given, held, read⟩ := required_eq_ok_iff.mp operatorRead
  obtain ⟨word, isText, _⟩ := bind_eq_ok_iff.mp read
  exact .bind (noExtras_beginsIn (named given word held isText)) fun _ _ => nofun

theorem collectOperator_eq_error (failed : collectOperator entries = .error (.issue issue)) :
    issue.path = [] := by
  unfold collectOperator at failed
  dsimp only at failed
  split at failed
  · split at failed
    · cases failed
    · exact path_of_brokenRule failed
  · split at failed
    · exact path_of_brokenRule failed
    · cases failed
    · exact path_of_brokenRule failed

theorem canonicalOperator_eq_error {operators : OperatorNames} {operator : Value}
    (failed : canonicalOperator operators operator = .error (.issue issue)) : issue.path = [] := by
  unfold canonicalOperator at failed
  split at failed
  · cases failed
  · split at failed
    · cases failed
    · exact path_of_brokenRule failed

variable {operators : Option OperatorNames}

theorem canonicalize_eq_error (failed : canonicalize operators entries = .error (.issue issue)) :
    issue.path = [] := by
  cases operators with
  | none => cases failed
  | some operators =>
      rcases bind_eq_error_iff.mp failed with failed | ⟨_, _, failed⟩
      · exact canonicalOperator_eq_error failed
      · cases failed

/-- Where the operator of an assertion is a text in the end, all its keys have a meaning. -/
theorem isNamed_of_canonicalize {explicit canonical : List (Value × Value)}
    (collected : collectOperator entries = .ok explicit)
    (success : canonicalize operators explicit = .ok canonical) {operator : Value} {given : String}
    (held : Value.field? "operator" canonical = some operator)
    (isText : text operator = .ok given) :
    ∀ entry ∈ canonical, isNamed assertionKeys entry.1 = true := by
  cases operators with
  | none =>
      cases success
      exact isNamed_explicit collected held isText
  | some operators =>
      obtain ⟨name, resolved, same⟩ := bind_eq_ok_iff.mp success
      cases same
      obtain ⟨word, found⟩ := exists_text_of_canonicalOperator resolved
      exact isNamed_put (by decide) (isNamed_explicit collected found rfl) _

theorem readAssertion_beginsIn (failed : readAssertion operators entries = .error (.issue issue)) :
    issue.BeginsIn assertionKeys := by
  rcases bind_eq_error_iff.mp failed with failed | ⟨explicit, collected, failed⟩
  · exact Issue.beginsIn_of_path_eq_nil (collectOperator_eq_error failed)
  rcases bind_eq_error_iff.mp failed with failed | ⟨canonical, success, failed⟩
  · exact Issue.beginsIn_of_path_eq_nil (canonicalize_eq_error failed)
  obtain ⟨_, failed, same⟩ := mapError_eq_error_iff.mp failed
  cases same
  exact assertionFields_beginsIn (fun _ _ => isNamed_of_canonicalize collected success) _ failed

/-! ## Steps -/

/-- The form of steps that a document is read as. -/
def tag : Value → String
  | .map entries => if isAssertion entries then "assertion" else "action"
  | _ => "action"

theorem exists_issue_of_underTag {α β : Type} {read : Fallible α} {f : α → β} {tag : String}
    (failed : (read.map f).mapError (underTag tag) = .error (.issue issue)) :
    ∃ inner, read = .error (.issue inner) ∧ issue = inner.below (.name tag) := by
  obtain ⟨failure, origin, same⟩ := mapError_eq_error_iff.mp failed
  cases failure with
  | issue inner =>
      cases same
      exact ⟨inner, map_eq_error_iff.mp origin, rfl⟩
  | _ => cases same

/-- The path of an issue with a step: the form that it was read as, and a field of one of the two
forms. -/
theorem read_eq_error_issue {v : Value} (failed : read operators v = .error (.issue issue)) :
    ∃ inner : Issue, issue = inner.below (.name (tag v)) ∧
      inner.BeginsIn (actionKeys ++ assertionKeys) := by
  have ofAction {v : Value} {inner : Issue} (failed : readAction v = .error (.issue inner)) :=
    (readAction_beginsIn failed).mono (List.subset_append_left actionKeys assertionKeys)
  cases v with
  | map entries =>
      unfold read at failed
      unfold tag
      dsimp only at failed ⊢
      split at failed
      · rename_i asserts
        obtain ⟨inner, failed, same⟩ := exists_issue_of_underTag failed
        rw [if_pos asserts]
        exact ⟨inner, same, (readAssertion_beginsIn failed).mono
          (List.subset_append_right actionKeys assertionKeys)⟩
      · rename_i acts
        obtain ⟨inner, failed, same⟩ := exists_issue_of_underTag failed
        rw [if_neg acts]
        exact ⟨inner, same, ofAction failed⟩
  | _ =>
      unfold read at failed
      obtain ⟨inner, failed, same⟩ := exists_issue_of_underTag failed
      exact ⟨inner, same, ofAction failed⟩

/-- No field of a step is named like a form of steps. -/
theorem ne_tag_of_beginsIn {inner : Issue} (begins : inner.BeginsIn (actionKeys ++ assertionKeys))
    (v : Value) : ∀ part ∈ inner.path.head?, part ≠ .name (tag v) := by
  intro part first same
  obtain ⟨name, member, isName⟩ := begins part first
  rw [isName, Issue.Part.name.injEq] at same
  have either : tag v = "assertion" ∨ tag v = "action" := by
    unfold tag
    split
    · split
      · exact .inl rfl
      · exact .inr rfl
    · exact .inr rfl
  rcases either with isTag | isTag
  · rw [same, isTag] at member
    exact absurd member (by decide)
  · rw [same, isTag] at member
    exact absurd member (by decide)

open Issue

/-- A rejected document is rejected at a path behind the form that it was read as.  What the
diagnostic shows is on this path if and only if no key of the document is named like the form, and
then it is the whole document; so it is the innermost element on the path if and only if, besides,
the path cannot be followed at all. -/
theorem shown_innermost_iff {v : Value} (rejected : read operators v = .error (.issue issue))
    (filename : Option String) (number : Option Int) :
    ∃ (inner : Issue) (place : List Part) (found : Option Value × Value),
      issue = inner.below (.name (tag v)) ∧
      (Diagnostic.ofIssue issue v filename number).context =
        some ⟨filename, none, none, number, .element (element found) []⟩ ∧
      Innermost (none, v) issue.path place found ∧
      (place <+: inner.path ↔ (Part.name (tag v)).follow v = none) ∧
      ((Part.name (tag v)).follow v = none → element found = v) ∧
      (Innermost (none, v) inner.path place found ↔
        (Part.name (tag v)).follow v = none ∧ ∀ part ∈ inner.path.head?, part.follow v = none) := by
  obtain ⟨inner, rfl, begins⟩ := read_eq_error_issue rejected
  obtain ⟨place, shown⟩ := exists_innermost (inner.below (.name (tag v))).path (none, v)
  have apart := ne_tag_of_beginsIn begins v
  refine ⟨inner, place, _, rfl, ?_, shown, shown.onPath_iff_of_tagged apart, ?_,
    shown.innermost_iff_of_tagged apart⟩
  · rw [← pinpoint_eq]
    rfl
  · intro untagged
    rw [(shown.whole_of_tagged untagged).2]
    rfl

theorem shown_innermost_iff_params :
    let v : Value := .record [("kind", .text "set"), ("params", .int 5)]
    let issue : Issue := ⟨.mappingExpected, [.name "action", .name "params"]⟩
    read none v = .error (.issue issue) ∧
      ∃ place found, (Diagnostic.ofIssue issue v none (some 1)).context =
          some ⟨none, none, none, some 1, .element (element found) []⟩ ∧
        element found = v ∧ place <+: [.name "params"] ∧
        ¬Innermost (none, v) [.name "params"] place found := by
  intro v issue
  have rejected : read none v = .error (.issue issue) := rfl
  obtain ⟨inner, place, found, below, context, _, onPath, whole, innermost⟩ :=
    shown_innermost_iff rejected none (some 1)
  have behind : inner.path = [.name "params"] :=
    (List.cons.inj (congrArg Issue.path below)).2.symm
  rw [behind] at onPath innermost
  refine ⟨rejected, place, found, context, whole rfl, onPath.mpr rfl, ?_⟩
  intro claimed
  exact nomatch (innermost.mp claimed).2 (.name "params") rfl

/-- A parameter that is named like the form of actions is shown in place of the timeout that is no
number. -/
theorem shown_beside_path :
    let v : Value := .record
      [("kind", .text "set"), ("action", .record [("a", .int 1)]), ("timeout", .text "x")]
    let issue : Issue := ⟨.numberUnreadable, [.name "action", .name "timeout"]⟩
    let shown := (Diagnostic.ofIssue issue v none (some 1)).context.map Diagnostic.Context.excerpt
    read none v = .error (.issue issue) ∧
      shown = some (.element (.record [("action", .record [("a", .int 1)])]) []) ∧
      ∀ place found, Innermost (none, v) [.name "timeout"] place found →
        element found = .record [("timeout", .text "x")] ∧
          shown ≠ some (.element (element found) []) := by
  intro v issue shown
  have isShown : shown = some (.element (.record [("action", .record [("a", .int 1)])]) []) := rfl
  refine ⟨rfl, isShown, ?_⟩
  intro place found innermost
  obtain ⟨other, searched⟩ := exists_innermost [.name "timeout"] (none, v)
  have wanted : element found = .record [("timeout", .text "x")] := by
    rw [(innermost.unique searched).2]
    rfl
  refine ⟨wanted, ?_⟩
  rw [isShown, wanted]
  simp [Value.record]

end Step

end Playbook
