import Playbook.Execution.Action
import Playbook.Proofs.Exports
import Playbook.Proofs.NamePatterns
import Playbook.Proofs.StepReading

/-!
# Names that steps export under

A step that has been read exports under names of the grammar of documents.  They are matched by the
pattern of property keys when they are exported, which refuses some of them.
-/

namespace Playbook

namespace Field

open Fallible

theorem mem_of_entriesWith {α β : Type} {checkKey : Value → Checked α} {check : Value → Checked β}
    {entries : List (Value × Value)} {read : List (α × β)}
    (success : entriesWith checkKey check entries = .ok read) :
    ∀ entry ∈ read, ∃ k, checkKey k = .ok entry.1 := by
  induction entries generalizing read with
  | nil =>
      cases success
      simp
  | cons first rest ih =>
      obtain ⟨key, keySuccess, success⟩ := bind_eq_ok_iff.mp success
      obtain ⟨v, _, success⟩ := bind_eq_ok_iff.mp success
      obtain ⟨others, othersSuccess, success⟩ := bind_eq_ok_iff.mp success
      cases success
      intro entry member
      rcases List.mem_cons.mp member with rfl | later
      · exact ⟨first.1, mapError_eq_ok_iff.mp (mapError_eq_ok_iff.mp keySuccess)⟩
      · exact ih othersSuccess entry later

/-- The keys of a mapping have passed the check of keys. -/
theorem mem_of_mapping {β : Type} {checkKey : Value → Checked String} {check : Value → Checked β}
    {v : Value} {read : List (String × β)} (success : mapping checkKey check v = .ok read) :
    ∀ entry ∈ read, ∃ k, checkKey k = .ok entry.1 := by
  cases v with
  | map entries =>
      obtain ⟨all, allSuccess, same⟩ := bind_eq_ok_iff.mp success
      cases same
      intro entry member
      have key : entry.1 ∈ (Ordered.ofEntries all).map Prod.fst := List.mem_map_of_mem member
      rw [Ordered.ofEntries, Ordered.mem_keys_putAll] at key
      obtain ⟨other, otherMember, same⟩ := List.mem_map.mp (key.resolve_right List.not_mem_nil)
      obtain ⟨k, checked⟩ := mem_of_entriesWith allSuccess other otherMember
      exact ⟨k, same ▸ checked⟩
  | _ => cases success

end Field

namespace Step

open Fallible

theorem isPropertyKey_of_propertyKey {v : Value} {key : String}
    (success : propertyKey v = .ok key) : Name.isPropertyKey key.toList = true := by
  obtain ⟨s, _, success⟩ := bind_eq_ok_iff.mp success
  split at success
  · cases success
  · split at success
    · rename_i isKey
      cases success
      exact isKey
    · cases success

theorem exports_of_actionFields {entries : List (Value × Value)} {task : ActionStep}
    (success : actionFields entries = .ok task) :
    ∀ entry ∈ task.exports, Name.isPropertyKey entry.1.toList = true := by
  obtain ⟨title, _, success⟩ := bind_eq_ok_iff.mp success
  obtain ⟨description, _, success⟩ := bind_eq_ok_iff.mp success
  obtain ⟨kind, _, success⟩ := bind_eq_ok_iff.mp success
  obtain ⟨params, _, success⟩ := bind_eq_ok_iff.mp success
  obtain ⟨exports, exportsSuccess, success⟩ := bind_eq_ok_iff.mp success
  obtain ⟨timeout, _, success⟩ := bind_eq_ok_iff.mp success
  obtain ⟨_, _, success⟩ := bind_eq_ok_iff.mp success
  cases success
  intro entry member
  rcases Field.withDefault_eq_ok exportsSuccess with empty | ⟨v, read⟩
  · rw [empty] at member
    cases member
  · obtain ⟨k, checked⟩ := Field.mem_of_mapping read entry member
    exact isPropertyKey_of_propertyKey checked

/-- The names that an action exports under have passed the grammar of documents. -/
theorem exports_of_read {operators : Option OperatorNames} {v : Value} {task : ActionStep}
    (success : read operators v = .ok (.action task)) :
    ∀ entry ∈ task.exports, Name.isPropertyKey entry.1.toList = true := by
  obtain ⟨entries, _, readSuccess⟩ := read_eq_action success
  obtain ⟨collected, _, readSuccess⟩ := bind_eq_ok_iff.mp readSuccess
  exact exports_of_actionFields (mapError_eq_ok_iff.mp readSuccess)

end Step

namespace ActionStep

open Fallible

variable {task : ActionStep}

theorem mem_keys_addAliases {produced values result : List (Value × Value)}
    {exports : List (String × String)}
    (success : task.addAliases produced values exports = .ok result) {key : Value} :
    key ∈ result.map Prod.fst ↔
      key ∈ values.map Prod.fst ∨ ∃ entry ∈ exports, key = .text entry.1 := by
  induction exports generalizing values with
  | nil =>
      cases success
      simp
  | cons entry rest ih =>
      obtain ⟨part, _, success⟩ := bind_eq_ok_iff.mp success
      rw [ih success, Value.mem_keys_put, or_assoc]
      simp

theorem mem_keys_exported {produced : Value} {entries values : List (Value × Value)}
    (shape : task.producedEntries produced = .ok entries)
    (exported : task.exported produced = .ok values) {key : Value} :
    key ∈ values.map Prod.fst ↔
      key ∈ entries.map Prod.fst ∨ ∃ entry ∈ task.exports, key = .text entry.1 := by
  obtain ⟨same, shaped, added⟩ := bind_eq_ok_iff.mp exported
  cases shape.symm.trans shaped
  exact mem_keys_addAliases added

/-- A name of the grammar of documents is an export key unless it holds information separators. -/
theorem isExportKey_iff {name : String} (valid : Name.isPropertyKey name.toList = true) :
    PropertySet.isExportKey (.text name) = true ↔
      ∀ c ∈ name.toList, ¬Name.IsInformationSeparator c := by
  have oneLine := Name.newline_not_mem_of_isPropertyKey valid
  change (Name.matchPropertyKey? name.toList).isSome = true ↔ _
  rw [Name.isSome_matchPropertyKey?_eq, Name.dropFinalNewline_of_not_mem oneLine,
    Name.isKeyWith_isBlank_iff, and_iff_right valid]

/-- Where what an operation returns has valid keys, an export is rejected for a name of its step if
and only if one of these names holds an information separator. -/
theorem rejects_exports_iff {produced : Value} {entries values : List (Value × Value)}
    (names : ∀ entry ∈ task.exports, Name.isPropertyKey entry.1.toList = true)
    (shape : task.producedEntries produced = .ok entries)
    (keys : ∀ entry ∈ entries, PropertySet.isExportKey entry.1 = true)
    (exported : task.exported produced = .ok values) :
    (∃ entry ∈ task.exports,
      PropertySet.exportLayer values = .error (PropertySet.invalidKey (.text entry.1))) ↔
      ∃ entry ∈ task.exports, ∃ c ∈ entry.1.toList, Name.IsInformationSeparator c := by
  have refusedIff : ∀ entry ∈ task.exports, PropertySet.isExportKey (.text entry.1) = false ↔
      ∃ c ∈ entry.1.toList, Name.IsInformationSeparator c := by
    intro entry member
    rw [← Bool.not_eq_true, isExportKey_iff (names entry member)]
    simp
  -- Only names of the step can be refused.
  have ofRefused : ∀ key ∈ values.map Prod.fst, PropertySet.isExportKey key = false →
      ∃ entry ∈ task.exports, key = .text entry.1 := by
    intro key member refused
    rcases (mem_keys_exported shape exported).mp member with returned | named
    · obtain ⟨entry, entryMember, rfl⟩ := List.mem_map.mp returned
      rw [keys entry entryMember] at refused
      cases refused
    · exact named
  constructor
  · rintro ⟨entry, _, failed⟩
    obtain ⟨key, member, refused⟩ := PropertySet.exists_refused_of_invalidKey failed
    obtain ⟨name, nameMember, rfl⟩ := ofRefused key member refused
    exact ⟨name, nameMember, (refusedIff name nameMember).mp refused⟩
  · rintro ⟨entry, member, separated⟩
    have inside : .text entry.1 ∈ values.map Prod.fst :=
      (mem_keys_exported shape exported).mpr (.inr ⟨entry, member, rfl⟩)
    obtain ⟨key, keyMember, refused, failed⟩ :=
      PropertySet.exists_invalidKey_of_refused inside ((refusedIff entry member).mpr separated)
    obtain ⟨name, nameMember, rfl⟩ := ofRefused key keyMember refused
    exact ⟨name, nameMember, failed⟩

end ActionStep

namespace Name

/-- Each pattern matches the texts of its grammar without certain characters, with a final line feed
or not: information separators for property keys, characters beyond the first 128 for kinds and
variables.  A name that a step was read with is rejected as an export key only for an information
separator. -/
theorem grammars_compared (t : List Char) :
    (IsPattern {} propertyKeyPattern matchesPropertyKey ∧
      Compared isPropertyKey matchesPropertyKey IsInformationSeparator t) ∧
    (IsPattern { ascii := true } kindGroups.text matchesKind ∧
      Compared isKind matchesKind IsBeyondAscii t) ∧
    (IsPattern { ascii := true } variableGroups.text matchesVariable ∧
      Compared isVariable matchesVariable IsBeyondAscii t) ∧
    ∀ (operators : Option Step.OperatorNames) (document : Value) (task : ActionStep),
      Step.read operators document = .ok (.action task) →
        (∀ entry ∈ task.exports, isPropertyKey entry.1.toList = true) ∧
        ∀ (produced : Value) (entries values : List (Value × Value)),
          task.producedEntries produced = .ok entries →
          (∀ entry ∈ entries, PropertySet.isExportKey entry.1 = true) →
          task.exported produced = .ok values →
            ((∃ entry ∈ task.exports,
              PropertySet.exportLayer values =
                .error (PropertySet.invalidKey (.text entry.1))) ↔
              ∃ entry ∈ task.exports, ∃ c ∈ entry.1.toList, IsInformationSeparator c) := by
  refine ⟨⟨isPattern_propertyKey, compared_propertyKey t⟩, ⟨isPattern_kind, compared_kind t⟩,
    ⟨isPattern_variable, compared_variable t⟩, ?_⟩
  intro operators document task read
  have names := Step.exports_of_read read
  refine ⟨names, ?_⟩
  intro produced entries values shape keys exported
  exact ActionStep.rejects_exports_iff names shape keys exported

namespace Separated

/-- A step that exports under a name with an information separator. -/
def document : Value :=
  .map [(.text "kind", .text "set"), (.text "params", .map [(.text "x", .text "1")]),
    (.text "export", .map [(.text "a\x1cb", .text "x")])]

def task : ActionStep := ⟨none, none, "set", [("x", .text "1")], [("a\x1cb", "x")], none⟩

def returned : List (Value × Value) := [(.text "x", .text "1")]

def values : List (Value × Value) := [(.text "x", .text "1"), (.text "a\x1cb", .text "1")]

theorem grammars_compared_separated :
    (isPropertyKey "a\x1cb".toList ≠ matchesPropertyKey "a\x1cb".toList) ∧
      Step.read none document = .ok (.action task) ∧
      task.exported (.map returned) = .ok values ∧
      ∃ entry ∈ task.exports,
        PropertySet.exportLayer values = .error (PropertySet.invalidKey (.text entry.1)) := by
  have read : Step.read none document = .ok (.action task) := rfl
  have exported : task.exported (.map returned) = .ok values := rfl
  have keys : ∀ entry ∈ returned, PropertySet.isExportKey entry.1 = true := by decide
  have separator : ∃ c ∈ "a\x1cb".toList, IsInformationSeparator c :=
    ⟨'\x1c', by decide, by decide, by decide⟩
  have valid : isPropertyKey "a\x1cb".toList = true := by decide
  obtain ⟨⟨_, key⟩, _, _, steps⟩ := grammars_compared "a\x1cb".toList
  obtain ⟨_, rejects⟩ := steps none document task read
  refine ⟨?_, read, exported, (rejects _ _ _ rfl keys exported).mpr ?_⟩
  · intro agree
    exact (key.agree_iff.mp agree).1 ⟨valid, separator⟩
  · exact ⟨("a\x1cb", "x"), List.mem_singleton.mpr rfl, separator⟩

/-- The forms of each grammar disagree on some text. -/
theorem grammars_disagree :
    (isPropertyKey "a\x1cb".toList = true ∧ matchPropertyKey? "a\x1cb".toList = none) ∧
    (isPropertyKey "a\n".toList = false ∧ matchPropertyKey? "a\n".toList = some "a") ∧
    (isKind "aé".toList = true ∧ matchKind? "aé".toList = none) ∧
    (isVariable "aé".toList = true ∧ matchVariable? "aé".toList = none) ∧
    PropertySet.exportLayer values =
      .error (.plain .capability "invalid property key 'a\\x1cb' in exports") := by
  refine ⟨by decide +kernel, by decide +kernel, by decide +kernel, by decide +kernel, ?_⟩
  rfl

end Separated

end Name

end Playbook
