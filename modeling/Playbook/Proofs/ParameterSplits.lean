import Playbook.Proofs.IdleKeys
import Playbook.Proofs.PathMatches
import Playbook.Proofs.SortedTexts
import Playbook.Proofs.StepFaults
import Playbook.Proofs.TextKeys

/-!
# Parameters in two places

The parameters of an action stand in its mapping of parameters or beside its own keys, and it does
not matter which of them stand where.  An action that gives a parameter in both places is not read,
and its issue lists all parameters that are given twice.
-/

namespace Playbook

namespace Field

variable {fields : List (String × Value)}

/-- Mappings with text keys that are all different are read as they are. -/
theorem mapping_record_eq_ok_iff (distinct : (fields.map Prod.fst).Nodup)
    {read : List (String × Value)} :
    mapping text any (.record fields) = .ok read ↔ read = fields := by
  have each : entriesWith text any (PropertySet.keyed fields) = .ok fields := by
    rw [entriesWith_eq_ok_iff]
    unfold PropertySet.keyed
    rw [List.forall₂_map_left_iff]
    exact List.forall₂_same.mpr fun field _ => ⟨rfl, rfl⟩
  have whole : mapping text any (.record fields) = .ok (Ordered.ofEntries fields) :=
    Fallible.bind_eq_ok_iff.mpr ⟨fields, each, rfl⟩
  rw [whole, Ordered.ofEntries, Ordered.putAll_of_nodup (by simpa using distinct), List.nil_append,
    Except.ok.injEq, eq_comm]

end Field

namespace Step

open Fallible Playbook.Field PropertySet

/-- A document with some parameters in its mapping of parameters and others beside its own keys.
Without any, it may lack the mapping. -/
structure Splits (document nested inline : List (String × Value)) : Prop where
  given : Ordered.find? "params" document = some (.record nested) ∨
    nested = [] ∧ Ordered.find? "params" document = none
  others : (document.filter fun field => !actionKeys.contains field.1) = inline
  nestedKeys : (nested.map Prod.fst).Nodup
  inlineKeys : (inline.map Prod.fst).Nodup

/-- Documents that are the same in all fields of an action but its parameters. -/
def AlikeBeside (document other : List (String × Value)) : Prop :=
  ∀ name ∈ actionKeys, name ≠ "params" → Ordered.find? name document = Ordered.find? name other

theorem isAssertion_record_iff {document : List (String × Value)} :
    isAssertion (keyed document) = true ↔
      Ordered.find? "kind" document = some (.text assertKind) := by
  unfold isAssertion
  rw [field?_keyed]
  cases Ordered.find? "kind" document with
  | none => exact iff_of_false Bool.false_ne_true nofun
  | some v => exact Value.beq_text_iff.trans Option.some_inj.symm

namespace AlikeBeside

variable {document other : List (String × Value)}

theorem refl (document : List (String × Value)) : AlikeBeside document document :=
  fun _ _ _ => rfl

theorem symm (alike : AlikeBeside document other) : AlikeBeside other document :=
  fun name member notParams => (alike name member notParams).symm

theorem readsAction (alike : AlikeBeside document other) {held : Option Value} {task : ActionStep}
    (reads : ReadsAction (keyed document) held task) : ReadsAction (keyed other) held task := by
  apply reads.congr
  intro name member notParams
  rw [field?_keyed, field?_keyed, alike name member notParams]

theorem isAssertion_eq (alike : AlikeBeside document other) :
    isAssertion (keyed other) = isAssertion (keyed document) := by
  rw [Bool.eq_iff_iff, isAssertion_record_iff, isAssertion_record_iff,
    alike "kind" (by decide) (by decide)]

end AlikeBeside

theorem mem_repeated_iff {nested inline : List (String × Value)} {name : String} :
    name ∈ (nested.filter fun field => Ordered.contains field.1 inline).map Prod.fst ↔
      name ∈ nested.map Prod.fst ∧ name ∈ inline.map Prod.fst := by
  simp only [List.mem_map, List.mem_filter, Ordered.contains_eq_isSome_find?,
    Ordered.isSome_find?_iff]
  constructor
  · rintro ⟨field, ⟨member, beside⟩, rfl⟩
    exact ⟨⟨field, member, rfl⟩, beside⟩
  · rintro ⟨⟨field, member, rfl⟩, beside⟩
    exact ⟨field, ⟨member, beside⟩, rfl⟩

theorem duplicateMessage_texts (names : List String) : duplicateMessage (names.map .text) =
    .ok ("parameters defined twice: " ++ Text.join ", " (names.insertionSort (· ≤ ·))) := by
  unfold duplicateMessage
  rw [Value.sort_texts]
  change (keyTexts ((names.insertionSort (· ≤ ·)).map .text) >>= _) = _
  rw [keyTexts_texts]
  rfl

namespace Splits

variable {document nested inline : List (String × Value)} (splits : Splits document nested inline)
include splits

theorem inlineParams_eq : inlineParams (keyed document) = keyed inline := by
  unfold inlineParams
  rw [filter_keyed fun key => !isNamed actionKeys key]
  exact congrArg keyed splits.others

theorem nestedParams?_eq : nestedParams? (keyed document) = some (keyed nested) := by
  unfold nestedParams?
  rw [field?_keyed]
  rcases splits.given with given | ⟨rfl, absent⟩
  · rw [given]
    cases nested <;> rfl
  · rw [absent]
    rfl

/-- Parameters of the mapping that stand beside it as well. -/
theorem repeated_eq : ((keyed nested).filter fun entry =>
      Ordered.contains entry.1 (inlineParams (keyed document))) =
    keyed (nested.filter fun field => Ordered.contains field.1 inline) := by
  rw [splits.inlineParams_eq, filter_keyed fun key => Ordered.contains key (keyed inline)]
  simp only [contains_keyed]

theorem inlineParams_eq_nil_iff : inlineParams (keyed document) = [] ↔ inline = [] := by
  rw [splits.inlineParams_eq]
  exact List.map_eq_nil_iff

/-! ## Different parameters -/

section Distinct

variable (distinct : ((nested ++ inline).map Prod.fst).Nodup)
include distinct

theorem not_repeated : ((keyed nested).filter fun entry =>
    Ordered.contains entry.1 (inlineParams (keyed document))) = [] := by
  have none : (nested.filter fun field => Ordered.contains field.1 inline) = [] := by
    rw [← List.map_eq_nil_iff (f := Prod.fst), List.eq_nil_iff_forall_not_mem]
    intro name member
    obtain ⟨within, beside⟩ := mem_repeated_iff.mp member
    rw [List.map_append] at distinct
    exact List.disjoint_of_nodup_append distinct within beside
  rw [splits.repeated_eq, none]
  rfl

theorem gathers_iff {held : Option Value} : Gathers (keyed document) held ↔
    held = if inline = [] then Ordered.find? "params" document
      else some (.record (nested ++ inline)) := by
  have joined : Ordered.putAll (keyed nested) (inlineParams (keyed document)) =
      keyed (nested ++ inline) := by
    rw [splits.inlineParams_eq, putAll_keyed, Ordered.putAll_of_nodup distinct]
  constructor
  · intro gathers
    cases gathers with
    | asGiven nothing =>
        rw [if_pos (splits.inlineParams_eq_nil_iff.mp nothing), field?_keyed]
    | joined some given _ =>
        cases splits.nestedParams?_eq.symm.trans given
        rw [if_neg (fun nothing => some (splits.inlineParams_eq_nil_iff.mpr nothing)), joined]
        rfl
  · rintro rfl
    split
    · rename_i nothing
      rw [← field?_keyed]
      exact .asGiven (splits.inlineParams_eq_nil_iff.mpr nothing)
    · rename_i some
      have all := Gathers.joined (fun nothing => some (splits.inlineParams_eq_nil_iff.mp nothing))
        splits.nestedParams?_eq (splits.not_repeated distinct)
      rwa [joined] at all

/-- The parameters of an action are gathered from both places. -/
theorem readAction_eq_ok_iff {task : ActionStep} : readAction (.record document) = .ok task ↔
    ReadsAction (keyed document) (some (.record (nested ++ inline))) task := by
  have gathered : readAction (.map (keyed document)) = .ok task ↔ _ := Step.readAction_eq_ok_iff
  simp only [splits.gathers_iff distinct, exists_eq_left] at gathered
  rw [show readAction (.record document) = readAction (.map (keyed document)) from rfl, gathered]
  split
  · -- Without other parameters the mapping is read as it is given, or not at all if it is absent.
    rename_i nothing
    subst nothing
    rw [List.append_nil]
    rcases splits.given with given | ⟨rfl, absent⟩
    · rw [given]
    · have empty {read : List (String × Value)} : mapping text any (.record []) = .ok read ↔
          read = [] := mapping_record_eq_ok_iff (by exact List.nodup_nil)
      rw [absent]
      constructor
      · exact fun reads => { reads with params := empty.mpr reads.params }
      · exact fun reads => { reads with params := empty.mp reads.params }
  · rfl

theorem params_of_readAction {task : ActionStep}
    (success : readAction (.record document) = .ok task) : task.params = nested ++ inline :=
  (mapping_record_eq_ok_iff distinct).mp ((splits.readAction_eq_ok_iff distinct).mp success).params

variable {other otherNested otherInline : List (String × Value)}
  (otherSplits : Splits other otherNested otherInline) (alike : AlikeBeside document other)
include otherSplits alike

theorem readAction_congr (same : otherNested ++ otherInline = nested ++ inline)
    {task : ActionStep} :
    readAction (.record document) = .ok task ↔ readAction (.record other) = .ok task := by
  have otherDistinct := same ▸ distinct
  rw [splits.readAction_eq_ok_iff distinct, otherSplits.readAction_eq_ok_iff otherDistinct, same]
  exact ⟨alike.readsAction, alike.symm.readsAction⟩

theorem readAction_perm (same : (otherNested ++ otherInline).Perm (nested ++ inline))
    {task : ActionStep} :
    readAction (.record document) = .ok { task with params := nested ++ inline } ↔
      readAction (.record other) = .ok { task with params := otherNested ++ otherInline } := by
  have otherDistinct := (same.map Prod.fst).nodup_iff.mpr distinct
  rw [splits.readAction_eq_ok_iff distinct, otherSplits.readAction_eq_ok_iff otherDistinct]
  constructor
  · intro reads
    exact { alike.readsAction reads with
      params := (mapping_record_eq_ok_iff otherDistinct).mpr rfl }
  · intro reads
    exact { alike.symm.readsAction reads with
      params := (mapping_record_eq_ok_iff distinct).mpr rfl }

end Distinct

/-! ## Repeated parameters -/

/-- An action that gives parameters twice breaks a rule, whose message lists them. -/
theorem readAction_of_repeated (repeated : ¬(nested.map Prod.fst).Disjoint (inline.map Prod.fst)) :
    ∃ shared : List String, shared.Pairwise (· < ·) ∧
      (∀ name, name ∈ shared ↔ name ∈ nested.map Prod.fst ∧ name ∈ inline.map Prod.fst) ∧
      readAction (.record document) =
        .error (.issue ⟨.rule ("parameters defined twice: " ++ Text.join ", " shared), []⟩) := by
  let twice := nested.filter fun field => Ordered.contains field.1 inline
  have some : inlineParams (keyed document) ≠ [] := by
    intro nothing
    cases splits.inlineParams_eq_nil_iff.mp nothing
    exact repeated (List.disjoint_nil_right _)
  have anyTwice : twice ≠ [] := by
    intro none
    apply repeated
    intro name within beside
    have member : name ∈ twice.map Prod.fst := mem_repeated_iff.mpr ⟨within, beside⟩
    rw [none] at member
    cases member
  have distinct : (twice.map Prod.fst).Nodup :=
    splits.nestedKeys.sublist (List.filter_sublist.map _)
  have collected : collectParams (keyed document) = brokenRule
      (duplicateMessage ((twice.map Prod.fst).map .text)) := by
    unfold collectParams
    dsimp only
    rw [if_neg (fun nothing => some (List.isEmpty_iff.mp nothing)), splits.nestedParams?_eq]
    dsimp only
    rw [splits.repeated_eq]
    split
    · rename_i none
      exact absurd (List.map_eq_nil_iff.mp none) anyTwice
    · rw [map_fst_keyed]
  refine ⟨(twice.map Prod.fst).insertionSort (· ≤ ·), ?_, ?_, ?_⟩
  · have sorted := List.pairwise_insertionSort (· ≤ ·) (twice.map Prod.fst)
    have different := (List.perm_insertionSort (· ≤ ·) (twice.map Prod.fst)).nodup_iff.mpr distinct
    exact sorted.imp₂ (fun _ _ before other => lt_of_le_of_ne before other) different
  · intro name
    rw [(List.perm_insertionSort _ _).mem_iff]
    exact mem_repeated_iff
  · change (collectParams (keyed document) >>= _) = _
    rw [collected, duplicateMessage_texts]
    rfl

end Splits

/-! ## Steps -/

/-- A document with all parameters of an action in its mapping of parameters. -/
def gathered (document params : List (String × Value)) : List (String × Value) :=
  Ordered.put "params" (.record params) (document.filter fun field => actionKeys.contains field.1)

theorem AlikeBeside.gathered (document params : List (String × Value)) :
    AlikeBeside document (gathered document params) := by
  intro name member notParams
  have kept : keyed (document.filter fun field => actionKeys.contains field.1) =
      reservedEntries (keyed document) := (filter_keyed (isNamed actionKeys) document).symm
  unfold Step.gathered
  rw [Ordered.find?_put_of_ne notParams.symm, ← field?_keyed, ← field?_keyed, kept,
    reservedEntries, field?_filter_isNamed member]

theorem Splits.gathered {params : List (String × Value)} (distinct : (params.map Prod.fst).Nodup)
    (document : List (String × Value)) : Splits (gathered document params) params [] where
  given := .inl (Ordered.find?_put_self ..)
  others := by
    rw [List.filter_eq_nil_iff]
    intro field member
    have key : field.1 ∈ (Step.gathered document params).map Prod.fst := List.mem_map_of_mem member
    have known : actionKeys.contains field.1 = true := by
      rcases Ordered.mem_keys_put.mp key with same | kept
      · rw [same]
        rfl
      · obtain ⟨other, otherMember, same⟩ := List.mem_map.mp kept
        exact same ▸ (List.mem_filter.mp otherMember).2
    simp only [known, Bool.not_true, Bool.false_eq_true, not_false_eq_true]
  nestedKeys := distinct
  inlineKeys := List.nodup_nil

/-- Documents that are read as the same steps, alone and in a scenario. -/
structure Interchangeable (document other : List (String × Value)) : Prop where
  read : ∀ operators step,
    read operators (.record document) = .ok step ↔ read operators (.record other) = .ok step
  load : ∀ registry filename number step,
    Scenario.readStep registry filename number (.record document) = .ok step ↔
      Scenario.readStep registry filename number (.record other) = .ok step

/-- A document that breaks a rule of actions and cannot be read, neither alone nor in a scenario. -/
structure BreaksActionRule (document : List (String × Value)) (message : String) : Prop where
  read : ∀ operators,
    read operators (.record document) = .error (.issue ⟨.rule message, [.name "action"]⟩)
  load : ∀ registry filename number,
    Scenario.readStep registry filename number (.record document) =
      .error (.diagnostic (Diagnostic.ofIssue ⟨.rule message, [.name "action"]⟩ (.record document)
        filename (some number)))

theorem Interchangeable.of_read {document other : List (String × Value)}
    (same : ∀ operators step,
      Step.read operators (.record document) = .ok step ↔
        Step.read operators (.record other) = .ok step) : Interchangeable document other where
  read := same
  load registry filename number step := by
    have loads {fields : List (String × Value)} :
        Scenario.readStep registry filename number (.record fields) = .ok step ↔ _ :=
      Scenario.readStep_eq_ok_iff
    rw [loads, loads]
    exact and_congr_left' (same (some registry.operators) step)

theorem BreaksActionRule.of_read {document : List (String × Value)} {message : String}
    (failed : ∀ operators, Step.read operators (.record document) =
      .error (.issue ⟨.rule message, [.name "action"]⟩)) : BreaksActionRule document message where
  read := failed
  load registry filename number :=
    Scenario.readStep_of_issue (failed (some registry.operators)) filename number

/-- Where the parameters of an action stand does not matter, except for their order.  Those of its
mapping come first.  If a parameter stands in both places, the document breaks a rule, whose message
lists all parameters that do, sorted. -/
theorem read_splits {document nested inline : List (String × Value)}
    (splits : Splits document nested inline)
    (action : Ordered.find? "kind" document ≠ some (.text assertKind)) :
    ((nested.map Prod.fst).Disjoint (inline.map Prod.fst) →
      Interchangeable document (gathered document (nested ++ inline)) ∧
      (∀ operators step, read operators (.record document) = .ok step →
        ∃ task, step = .action task ∧ task.params = nested ++ inline) ∧
      ∀ other otherNested otherInline, Splits other otherNested otherInline →
        AlikeBeside document other →
        (otherNested ++ otherInline = nested ++ inline → Interchangeable document other) ∧
        ((otherNested ++ otherInline).Perm (nested ++ inline) →
          ∀ operators, ∀ task : ActionStep,
            read operators (.record document) =
                .ok (.action { task with params := nested ++ inline }) ↔
              read operators (.record other) =
                .ok (.action { task with params := otherNested ++ otherInline }))) ∧
    (¬(nested.map Prod.fst).Disjoint (inline.map Prod.fst) →
      ∃ shared : List String, shared.Pairwise (· < ·) ∧
        (∀ name, name ∈ shared ↔ name ∈ nested.map Prod.fst ∧ name ∈ inline.map Prod.fst) ∧
        BreaksActionRule document
          ("parameters defined twice: " ++ Text.join ", " shared)) := by
  have form : isAssertion (keyed document) = false := by
    rw [Bool.eq_false_iff, ne_eq, isAssertion_record_iff]
    exact action
  have reads {fields : List (String × Value)} (alike : AlikeBeside document fields)
      {operators : Option OperatorNames} {step : Step} :
      read operators (.record fields) = .ok step ↔
        ∃ task, step = .action task ∧ readAction (.record fields) = .ok task :=
    read_action_eq_ok_iff (alike.isAssertion_eq.trans form)
  refine ⟨?separate, ?repeated⟩
  case separate =>
    intro apart
    have distinct : ((nested ++ inline).map Prod.fst).Nodup := by
      rw [List.map_append]
      exact splits.nestedKeys.append splits.inlineKeys apart
    have interchangeable {other otherNested otherInline : List (String × Value)}
        (otherSplits : Splits other otherNested otherInline) (alike : AlikeBeside document other)
        (same : otherNested ++ otherInline = nested ++ inline) :
        Interchangeable document other := by
      apply Interchangeable.of_read
      intro operators step
      rw [reads (.refl document), reads alike]
      simp only [splits.readAction_congr distinct otherSplits alike same]
    refine ⟨?_, ?_, ?_⟩
    · exact interchangeable (.gathered distinct document) (.gathered document _)
        (List.append_nil _)
    · intro operators step success
      obtain ⟨task, rfl, reading⟩ := (reads (.refl document)).mp success
      exact ⟨task, rfl, splits.params_of_readAction distinct reading⟩
    · intro other otherNested otherInline otherSplits alike
      refine ⟨interchangeable otherSplits alike, ?_⟩
      intro same operators task
      rw [reads (.refl document), reads alike]
      simp only [Step.action.injEq, exists_eq_left']
      exact splits.readAction_perm distinct otherSplits alike same
  case repeated =>
    intro repeated
    obtain ⟨shared, sorted, isShared, failed⟩ := splits.readAction_of_repeated repeated
    refine ⟨shared, sorted, isShared, .of_read fun operators => ?_⟩
    have reading : read operators (.record document) =
        ((readAction (.record document)).map .action).mapError (underTag "action") :=
      read_of_action form
    rw [reading, failed]
    rfl

/-- A command with its directory in either place, and one with parameters in both. -/
theorem read_splits_shell :
    let command : String × Value := ("cmd", .text "ls")
    let directory : String × Value := ("cwd", .text "src")
    let kind : String × Value := ("kind", .text "shell")
    let document := [("params", .record [directory]), kind, command]
    let repeated := [directory, kind, command, ("params", .record [command, directory])]
    Splits document [directory] [command] ∧
      Ordered.find? "kind" document ≠ some (.text assertKind) ∧
      Interchangeable document [kind, directory, command] ∧
      Splits repeated [command, directory] [directory, command] ∧
      Ordered.find? "kind" repeated ≠ some (.text assertKind) ∧
      BreaksActionRule repeated "parameters defined twice: cmd, cwd" := by
  intro command directory kind document repeated
  have splits : Splits document [directory] [command] := ⟨.inl rfl, rfl, by decide, by decide⟩
  have action : Ordered.find? "kind" document ≠ some (.text assertKind) := by
    simp [document, kind, Ordered.find?, assertKind]
  have twice : Splits repeated [command, directory] [directory, command] :=
    ⟨.inl rfl, rfl, by decide, by decide⟩
  have notAssert : Ordered.find? "kind" repeated ≠ some (.text assertKind) := by
    simp [repeated, kind, directory, Ordered.find?, assertKind]
  refine ⟨splits, action, ?_, twice, notAssert, ?_⟩
  · obtain ⟨_, _, others⟩ := (read_splits splits action).1
      (by simp [directory, command])
    have beside : Splits [kind, directory, command] [] [directory, command] :=
      ⟨.inr ⟨rfl, rfl⟩, rfl, by decide, by decide⟩
    have alike : AlikeBeside document [kind, directory, command] := by
      simp [AlikeBeside, actionKeys, document, kind, directory, command, Ordered.find?]
    exact (others _ _ _ beside alike).1 rfl
  · obtain ⟨shared, sorted, isShared, breaks⟩ := (read_splits twice notAssert).2
      (by simp [directory, command])
    have distinct : shared.Nodup := sorted.imp fun before => before.ne
    have both : shared.Perm ["cmd", "cwd"] := by
      rw [List.perm_ext_iff_of_nodup distinct (by decide)]
      intro name
      rw [isShared]
      simp [command, directory, or_comm]
    have isSorted : shared = ["cmd", "cwd"] := both.eq_of_pairwise
      (fun _ _ _ _ before after => absurd after before.asymm) sorted (by decide)
    rw [isSorted] at breaks
    exact breaks

end Step

end Playbook
