import Playbook.Proofs.NameGrammars
import Playbook.Proofs.PropertyFlow
import Playbook.Proofs.PropertyHistory
import Playbook.Proofs.Templates

/-!
# Stored keys and what refers to them

Keys enter the properties from files and by exports, and are referred to by placeholders.  A key
that was read from a file has been trimmed, so it is a property key without exception; an exported
key may have a line feed behind it.  A placeholder drops this line feed, as it drops all blanks
around its key, so it stands for the value of another key.
-/

namespace Playbook

namespace Template

/-- A key between doubled braces. -/
def ofKey (key : String) : String := "\x7b\x7b" ++ key ++ "\x7d\x7d"

/-- A key itself has no placeholder. -/
theorem keys_eq_nil_of_isKey {key : String} (isKey : Name.IsKey key.toList) : keys key = [] := by
  apply keys_eq_nil_of_not_mem
  intro member
  exact (isKey.2 _ member).2.1 rfl

end Template

namespace Properties

open Fallible

/-- The layer has property keys only. -/
def HasKeys (layer : Layer) : Prop := ∀ key ∈ layer.map Prod.fst, Name.IsKey key.toList

/-- A key that has been trimmed has no line feed at its end. -/
theorem isSome_matchPropertyKey?_trim_iff {cs : List Char} :
    (Name.matchPropertyKey? (Text.trim cs)).isSome = true ↔ Name.IsKey (Text.trim cs) := by
  rw [Name.isSome_matchPropertyKey?_iff]
  constructor
  · rintro ⟨body, isKey, whole | final⟩
    · rwa [whole]
    · have last := congrArg List.getLast? final
      rw [List.getLast?_concat] at last
      have notBlank := (Text.trimmed_trim cs).last _ last
      cases notBlank
  · intro isKey
    exact ⟨_, isKey, .inl rfl⟩

theorem isKey_of_readLine {number : Nat} {raw : List Char} {key value : String}
    (success : readLine number raw = .ok (some (key, value))) : Name.IsKey key.toList := by
  unfold readLine at success
  dsimp only at success
  split at success
  · cases success
  · split at success
    · cases success
    · split at success
      · rename_i matched
        cases success
        rw [String.toList_ofList]
        exact isSome_matchPropertyKey?_trim_iff.mp matched
      · cases success

theorem HasKeys.readLinesFrom {number : Nat} {layer result : Layer} {lines : List String}
    (keys : HasKeys layer) (success : readLinesFrom number layer lines = .ok result) :
    HasKeys result := by
  induction lines generalizing number layer with
  | nil =>
      cases success
      exact keys
  | cons line rest ih =>
      rw [Properties.readLinesFrom] at success
      obtain ⟨entry, read, success⟩ := bind_eq_ok_iff.mp success
      cases entry with
      | none => exact ih keys success
      | some entry =>
          apply ih _ success
          intro key member
          rcases Ordered.mem_keys_put.mp member with rfl | earlier
          · exact isKey_of_readLine read
          · exact keys key earlier

theorem HasKeys.nil : HasKeys [] := by
  intro key member
  cases member

theorem HasKeys.loadOnto {files : Files} {base layer : Layer} {paths : List FilePath}
    (keys : HasKeys base) (success : loadOnto files base paths = .ok layer) : HasKeys layer := by
  induction paths generalizing base with
  | nil =>
      cases success
      exact keys
  | cons path rest ih =>
      obtain ⟨above, loads, success⟩ := bind_eq_ok_iff.mp success
      obtain ⟨lines, read⟩ := exists_lines_of_load loads
      apply ih _ success
      intro key member
      rcases Ordered.mem_keys_putAll.mp member with here | earlier
      · exact HasKeys.nil.readLinesFrom read key here
      · exact keys key earlier

end Properties

namespace PropertySet

theorem isKeyChar_of_isKey {key : List Char} (isKey : Name.IsKey key) :
    ∀ c ∈ key, Template.isKeyChar c = true := by
  intro c member
  obtain ⟨notBlank, notOpening, notClosing, _⟩ := isKey.2 c member
  simp [Template.isKeyChar, notBlank, notOpening, notClosing]

section Keys

variable {properties : PropertySet}

theorem isExportKey_text_iff {key : String} :
    isExportKey (.text key) = true ↔
      ∃ name : String, Name.IsKey name.toList ∧ (key = name ∨ key = name ++ "\n") := by
  change (Name.matchPropertyKey? key.toList).isSome = true ↔ _
  rw [Name.isSome_matchPropertyKey?_iff]
  constructor
  · rintro ⟨body, isKey, whole | final⟩
    · exact ⟨key, whole ▸ isKey, .inl rfl⟩
    · refine ⟨String.ofList body, by simpa using isKey, .inr ?_⟩
      apply String.toList_inj.mp
      simpa using final
  · rintro ⟨name, isKey, rfl | rfl⟩
    · exact ⟨key.toList, isKey, .inl rfl⟩
    · exact ⟨name.toList, isKey, .inr (by simp)⟩

theorem isExportKey_of_mem_after {start : PropertySet}
    (keys : ∀ key ∈ start.runtime.map Prod.fst, isExportKey (.text key) = true)
    (history : List (List (Value × Value))) :
    ∀ key ∈ (start.after history).runtime.map Prod.fst, isExportKey (.text key) = true := by
  apply runtime_after (fun layer => ∀ key ∈ layer.map Prod.fst, isExportKey (.text key) = true) keys
  intro below values layer earlier success key member
  rcases Ordered.mem_keys_putAll.mp member with written | kept
  · exact isExportKey_of_exportLayer success key written
  · exact earlier key kept

/-- A placeholder drops the blanks behind its key. -/
theorem resolveTemplate_ofKey_append {name blanks : String} (isKey : Name.IsKey name.toList)
    (blank : ∀ c ∈ blanks.toList, Text.isBlank c = true) (step : Option Int) :
    properties.resolveTemplate step (Template.ofKey (name ++ blanks)) =
      properties.resolve step name := by
  let slot : Template.Slot :=
    { before := []
      key := name.toList
      after := blanks.toList
      blankBefore := by simp
      blankAfter := blank
      keyChars := isKeyChar_of_isKey isKey
      nonempty := isKey.1 }
  have same : slot.name = name := String.ofList_toList
  have written : String.ofList slot.written = Template.ofKey (name ++ blanks) := by
    apply String.toList_inj.mp
    simp [slot, Template.Slot.written, Template.Slot.body, Template.ofKey]
  rw [← written, resolveTemplate_slot, same]

theorem resolveTemplate_ofKey {key : String} (isKey : Name.IsKey key.toList)
    (step : Option Int) :
    properties.resolveTemplate step (Template.ofKey key) = properties.resolve step key := by
  have noBlanks : ∀ c ∈ "".toList, Text.isBlank c = true := by simp
  have whole : properties.resolveTemplate step (Template.ofKey (key ++ "")) =
      properties.resolve step key := resolveTemplate_ofKey_append isKey noBlanks step
  rwa [String.append_empty] at whole

theorem resolveTemplate_ofKey_newline {name : String} (isKey : Name.IsKey name.toList)
    (step : Option Int) :
    properties.resolveTemplate step (Template.ofKey (name ++ "\n")) =
      properties.resolve step name := by
  apply resolveTemplate_ofKey_append isKey
  intro c member
  have same : c = '\n' := by simpa using member
  rw [same]
  rfl

end Keys

section Runs

theorem after_append (start : PropertySet) (first second : List (List (Value × Value))) :
    start.after (first ++ second) = (start.after first).after second :=
  List.foldl_append

/-- What executing a step leaves is what some exports leave. -/
theorem exists_history_execute (engine : Engine) (properties : PropertySet) (index : Nat)
    (cancelled : Bool) (step : Step) :
    ∃ history, (step.execute engine properties index cancelled).properties =
      properties.after history := by
  cases step with
  | assertion check =>
      obtain ⟨verdict, cancels, seen, ending⟩ :=
        Step.execute_assertion engine properties index cancelled check
      exact ⟨[], by rw [ending]; rfl⟩
  | action task =>
      rcases Step.execute_action engine properties index cancelled task with
        ⟨failure, cancels, seen, ending⟩ | ⟨produced, layer, cancels, seen, texts, ending⟩
      · exact ⟨[], by rw [ending]; rfl⟩
      · obtain ⟨values, _, texts⟩ := Fallible.bind_eq_ok_iff.mp texts
        refine ⟨[values], ?_⟩
        change _ = ((Procedure.exportValues values).run properties).properties
        rw [ending, Procedure.run_exportValues, texts]

end Runs

end PropertySet

namespace Run

/-- The properties behind a run, or properties that one of its steps has seen. -/
def Passes (run : Run) (properties : PropertySet) : Prop :=
  properties = run.properties ∨ ∃ executed ∈ run.executed, properties ∈ executed.seen

/-- All properties of a run are what some exports leave. -/
theorem Passes.exists_history {engine : Engine} {cancellation : Cancellation} {index : Nat}
    {cancelled : Bool} {start properties : PropertySet} {steps : List Step}
    (passes : (ofSteps engine cancellation index cancelled start steps).Passes properties) :
    ∃ history, properties = start.after history := by
  fun_induction ofSteps engine cancellation index cancelled start steps with
  | case1 =>
      rcases passes with rfl | ⟨executed, member, _⟩
      · exact ⟨[], rfl⟩
      · cases member
  | case2 =>
      rcases passes with rfl | ⟨executed, member, _⟩
      · exact ⟨[], rfl⟩
      · cases member
  | case3 index _ start step rest _ executed =>
      rcases passes with rfl | ⟨other, member, seen⟩
      · exact PropertySet.exists_history_execute ..
      · rw [List.mem_singleton.mp member] at seen
        exact ⟨[], Step.eq_of_mem_seen_execute seen⟩
  | case4 index _ start step rest _ executed _ _ ih =>
      obtain ⟨first, written⟩ := PropertySet.exists_history_execute engine start index
        (cancellation.entering index) step
      have later :
          ∀ history, executed.properties.after history = start.after (first ++ history) := by
        intro history
        rw [PropertySet.after_append, ← written]
      rcases passes with rfl | ⟨other, member, seen⟩
      · obtain ⟨history, same⟩ := ih (.inl rfl)
        exact ⟨first ++ history, same.trans (later history)⟩
      · rcases List.mem_cons.mp member with rfl | member
        · exact ⟨[], Step.eq_of_mem_seen_execute seen⟩
        · obtain ⟨history, same⟩ := ih (.inr ⟨other, member, seen⟩)
          exact ⟨first ++ history, same.trans (later history)⟩

end Run

namespace PropertySet

/-- What the keys of properties are, and what placeholders for them stand for. -/
structure Referable (properties : PropertySet) : Prop where
  file : Properties.HasKeys properties.file
  runtime : ∀ key ∈ properties.runtime.map Prod.fst,
    ∃ name : String, Name.IsKey name.toList ∧ (key = name ∨ key = name ++ "\n")
  stored : ∀ (step : Option Int) (key value : String), '\n' ∉ key.toList →
    properties.find? key = some value →
      properties.resolveTemplate step (Template.ofKey key) = .ok value
  newline : ∀ (step : Option Int) (name : String), Name.IsKey name.toList →
    properties.resolveTemplate step (Template.ofKey (name ++ "\n")) = properties.resolve step name

theorem isKey_of_find? {properties : PropertySet} {key value : String}
    (file : Properties.HasKeys properties.file)
    (runtime : ∀ key ∈ properties.runtime.map Prod.fst,
      ∃ name : String, Name.IsKey name.toList ∧ (key = name ∨ key = name ++ "\n"))
    (oneLine : '\n' ∉ key.toList) (found : properties.find? key = some value) :
    Name.IsKey key.toList := by
  have present : (properties.find? key).isSome = true := Option.isSome_iff_exists.mpr ⟨value, found⟩
  rw [find?, Option.isSome_or, Bool.or_eq_true, Ordered.isSome_find?_iff,
    Ordered.isSome_find?_iff] at present
  rcases present with exported | read
  · obtain ⟨name, isKey, rfl | rfl⟩ := runtime key exported
    · exact isKey
    · exact absurd (by simp) oneLine
  · exact file key read

theorem referable_after {files : Files} {paths : List FilePath} {start : PropertySet}
    (began : ofFiles files paths = .ok start) (history : List (List (Value × Value))) :
    (start.after history).Referable := by
  obtain ⟨layer, loads, same⟩ := Fallible.bind_eq_ok_iff.mp began
  cases same
  have file : Properties.HasKeys ((ofFile layer).after history).file := by
    rw [file_after]
    exact Properties.HasKeys.nil.loadOnto loads
  have runtime : ∀ key ∈ ((ofFile layer).after history).runtime.map Prod.fst,
      ∃ name : String, Name.IsKey name.toList ∧ (key = name ∨ key = name ++ "\n") := by
    intro key member
    apply isExportKey_text_iff.mp
    apply isExportKey_of_mem_after _ history key member
    intro key none
    cases none
  refine ⟨file, runtime, ?stored, ?newline⟩
  case stored =>
    intro step key value oneLine found
    rw [resolveTemplate_ofKey (isKey_of_find? file runtime oneLine found), resolve, found]
  case newline =>
    intro step name isKey
    exact resolveTemplate_ofKey_newline isKey step

/-- The placeholder of a stored key stands for its value unless the key ends with a line feed, and
then it stands for the value of the key without that line feed.  Exports accept such keys besides
property keys, files do not, and a run has no other properties than those that files and exports
lead to. -/
theorem resolveTemplate_stored {files : Files} {paths : List FilePath} {start : PropertySet}
    (began : ofFiles files paths = .ok start) :
    (∀ key : String, isExportKey (.text key) = true ↔
      ∃ name : String, Name.IsKey name.toList ∧ (key = name ∨ key = name ++ "\n")) ∧
    (∀ history, (start.after history).Referable) ∧
    ∀ (runner : Runner) (cancellation : Cancellation) (cancelled : Bool) (scenario : Scenario)
      (source : String) (properties : PropertySet),
      (runner.execute cancellation cancelled start scenario source).2.Passes properties →
        (∃ history, properties = start.after history) ∧ properties.Referable := by
  refine ⟨fun _ => isExportKey_text_iff, referable_after began, ?_⟩
  intro runner cancellation cancelled scenario source properties passes
  obtain ⟨history, same⟩ := Run.Passes.exists_history passes
  exact ⟨⟨history, same⟩, same ▸ referable_after began history⟩

namespace FinalNewline

/-- A step that sets a key with a line feed behind it. -/
def scenario : Scenario :=
  ⟨"feed", none, none, [.action ⟨none, none, "set", [("abc\n", .text "1")], [], none⟩]⟩

def runner : Runner := { engine := { registry := .builtin, workspace := .ofText "ws" } }

def ran : Run := (runner.execute .never false (ofFile []) scenario "").2

/-- Of two exported keys, the one with a line feed behind it stands for nothing in a template. -/
theorem resolveTemplate_stored_newline :
    let properties := (ofFile []).after [[(.text "abc\n", .text "1"), (.text "x", .text "2")]]
    properties.find? "abc\n" = some "1" ∧
      properties.resolveTemplate none (Template.ofKey "abc\n") =
        .error (unresolved "abc" none) ∧
      properties.resolveTemplate none (Template.ofKey "x") = .ok "2" ∧
      ran.properties.find? "abc\n" = some "1" ∧ ran.properties.Referable := by
  intro properties
  have began : ofFiles ⟨[], []⟩ [] = .ok (ofFile []) := rfl
  obtain ⟨_, histories, runs⟩ := resolveTemplate_stored began
  have referable : properties.Referable := histories _
  have isKey : Name.IsKey "abc".toList := Name.isKeyWith_iff.mp (by decide)
  refine ⟨by decide, ?_, ?_, ?_, ?_⟩
  · exact referable.newline none "abc" isKey
  · exact referable.stored none "x" "2" (by decide) (by decide)
  · decide +kernel
  · exact (runs runner .never false scenario "" ran.properties (.inl rfl)).2

theorem stored_key_unreferable :
    ¬∀ (files : Files) (paths : List FilePath) (start : PropertySet),
      ofFiles files paths = .ok start →
        ∀ (history : List (List (Value × Value))) (step : Option Int) (key value : String),
          (start.after history).find? key = some value →
            (start.after history).resolveTemplate step (Template.ofKey key) = .ok value := by
  intro claim
  have isKey : Name.IsKey "abc".toList := Name.isKeyWith_iff.mp (by decide)
  have resolved := claim ⟨[], []⟩ [] _ rfl [[(.text "abc\n", .text "1")]] none ("abc" ++ "\n") "1"
    (by decide)
  rw [resolveTemplate_ofKey_newline isKey, resolve_eq_ok_iff] at resolved
  revert resolved
  decide

end FinalNewline

end PropertySet

end Playbook
