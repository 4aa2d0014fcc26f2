import Playbook.Proofs.FieldReading
import Playbook.Proofs.StepReading

/-!
# Documents of actions

The parameters of an action stand in its mapping of parameters and beside it.  An action is read
from the fields of its document, with all its parameters in one mapping.
-/

namespace Playbook

namespace Field

open Fallible

variable {entries additions : List (Value × Value)}

/-- A key with a text is no other key. -/
theorem eq_of_beq_of_text {key other : Value} {name : String} (read : text key = .ok name)
    (same : (key == other) = true) : key = other := by
  cases key with
  | text s => exact (Value.text_beq_iff.mp same).symm
  | bytes b =>
      cases other with
      | bytes c => exact congrArg Value.bytes (eq_of_beq same)
      | _ => cases same
  | _ => cases read

theorem beq_self_of_text {key : Value} {name : String} (read : text key = .ok name) :
    (key == key) = true := by
  cases key with
  | text s => exact Value.beq_text_iff.mpr rfl
  | bytes b => exact beq_self_eq_true b
  | _ => cases read

theorem mem_keys_putAll_left {key : Value} (member : key ∈ entries.map Prod.fst) :
    key ∈ (Ordered.putAll entries additions).map Prod.fst := by
  induction additions generalizing entries with
  | nil => exact member
  | cons addition rest ih =>
      apply ih
      rw [Ordered.keys_put]
      split
      · exact member
      · exact List.mem_append_left _ member

/-- Having keys that are texts. -/
def Named (entries : List (Value × Value)) : Prop :=
  ∀ entry ∈ entries, ∃ name, text entry.1 = .ok name

theorem Named.text_key (named : Named entries) {key : Value} (member : key ∈ entries.map Prod.fst) :
    ∃ name, text key = .ok name := by
  obtain ⟨entry, entryMember, rfl⟩ := List.mem_map.mp member
  exact named entry entryMember

theorem mem_keys_putAll_right {key : Value} (named : Named (Ordered.putAll entries additions))
    (member : key ∈ additions.map Prod.fst) :
    key ∈ (Ordered.putAll entries additions).map Prod.fst := by
  induction additions generalizing entries with
  | nil => cases member
  | cons addition rest ih =>
      rcases List.mem_cons.mp member with rfl | later
      · by_cases present : Ordered.contains addition.1 entries = true
        · obtain ⟨entry, entryMember, same⟩ := List.any_eq_true.mp present
          have stored : entry.1 ∈ (Ordered.putAll entries (addition :: rest)).map Prod.fst :=
            mem_keys_putAll_left (List.mem_map_of_mem entryMember)
          obtain ⟨name, read⟩ := named.text_key stored
          exact eq_of_beq_of_text read same ▸ stored
        · rw [Ordered.putAll_cons]
          apply mem_keys_putAll_left
          rw [Ordered.keys_put, if_neg present]
          exact List.mem_append_right _ List.mem_cons_self
      · exact ih named later

theorem mem_of_mem_keys_putAll {key : Value}
    (member : key ∈ (Ordered.putAll entries additions).map Prod.fst) :
    key ∈ entries.map Prod.fst ∨ key ∈ additions.map Prod.fst := by
  induction additions generalizing entries with
  | nil => exact .inl member
  | cons addition rest ih =>
      rcases ih member with stored | later
      · rw [Ordered.keys_put] at stored
        split at stored
        · exact .inl stored
        · rcases List.mem_append.mp stored with kept | added
          · exact .inl kept
          · exact .inr (List.mem_singleton.mp added ▸ List.mem_cons_self)
      · exact .inr (List.mem_cons_of_mem _ later)

theorem named_of_putAll (named : Named (Ordered.putAll entries additions)) :
    Named (entries ++ additions) := by
  intro entry member
  apply named.text_key
  rcases List.mem_append.mp member with first | second
  · exact mem_keys_putAll_left (List.mem_map_of_mem first)
  · exact mem_keys_putAll_right named (List.mem_map_of_mem second)

theorem named_of_forall₂ {β : Type} {check : Value → Checked β} {read : List (String × β)}
    (made : List.Forall₂ (fun entry made => text entry.1 = .ok made.1 ∧ check entry.2 = .ok made.2)
      entries read) : Named entries := by
  induction made with
  | nil => exact List.forall_mem_nil _
  | cons here _ ih => exact List.forall_mem_cons.mpr ⟨⟨_, here.1⟩, ih⟩

theorem named_of_mapping {β : Type} {check : Value → Checked β} {read : List (String × β)}
    (success : mapping text check (.map entries) = .ok read) : Named entries := by
  obtain ⟨made, madeOf, _⟩ := bind_eq_ok_iff.mp success
  exact named_of_forall₂ (entriesWith_eq_ok_iff.mp madeOf)

theorem keyNames_append (entries additions : List (Value × Value)) :
    keyNames (entries ++ additions) = keyNames entries ++ keyNames additions :=
  List.filterMap_append

theorem mem_keyNames_putAll_iff (named : Named (Ordered.putAll entries additions))
    {name : String} : name ∈ keyNames (Ordered.putAll entries additions) ↔
      name ∈ keyNames (entries ++ additions) := by
  constructor
  · intro member
    obtain ⟨entry, entryMember, read⟩ := mem_keyNames_iff.mp member
    have key : entry.1 ∈ (entries ++ additions).map Prod.fst := by
      rw [List.map_append]
      exact List.mem_append.mpr (mem_of_mem_keys_putAll (List.mem_map_of_mem entryMember))
    obtain ⟨given, givenMember, same⟩ := List.mem_map.mp key
    exact mem_keyNames_iff.mpr ⟨given, givenMember, same ▸ read⟩
  · intro member
    obtain ⟨entry, entryMember, read⟩ := mem_keyNames_iff.mp member
    have stored : entry.1 ∈ (Ordered.putAll entries additions).map Prod.fst := by
      rcases List.mem_append.mp entryMember with first | second
      · exact mem_keys_putAll_left (List.mem_map_of_mem first)
      · exact mem_keys_putAll_right named (List.mem_map_of_mem second)
    obtain ⟨other, otherMember, same⟩ := List.mem_map.mp stored
    exact mem_keyNames_iff.mpr ⟨other, otherMember, same ▸ read⟩

end Field

namespace Step

open Fallible Playbook.Field

variable {entries : List (Value × Value)}

theorem isNamed_iff {names : List String} {key : Value} :
    isNamed names key = true ↔ ∃ name ∈ names, key = .text name := by
  cases key <;> simp [isNamed]

theorem isNamed_text {names : List String} {name : String} :
    isNamed names (.text name) = true ↔ name ∈ names := by
  simp [isNamed]

theorem isNamed_put {names : List String} {name : String} (known : name ∈ names)
    (named : ∀ entry ∈ entries, isNamed names entry.1 = true) (v : Value) :
    ∀ entry ∈ Ordered.put (.text name) v entries, isNamed names entry.1 = true := by
  intro entry member
  rcases Value.mem_keys_put.mp (List.mem_map_of_mem member) with kept | same
  · obtain ⟨other, otherMember, same⟩ := List.mem_map.mp kept
    exact same ▸ named other otherMember
  · rw [same]
    exact isNamed_text.mpr known

/-- Keeping the entries with certain names keeps what is held under them. -/
theorem field?_filter_isNamed {names : List String} {name : String} (member : name ∈ names)
    (entries : List (Value × Value)) :
    Value.field? name (entries.filter fun entry => isNamed names entry.1) =
      Value.field? name entries := by
  induction entries with
  | nil => rfl
  | cons entry rest ih =>
      unfold Value.field? at ih ⊢
      by_cases same : entry.1 = .text name
      · have kept : isNamed names entry.1 = true := same ▸ isNamed_text.mpr member
        have found : (entry.1 == .text name) = true := Value.beq_text_iff.mpr same
        simp [kept, Ordered.find?, found]
      · have other : (entry.1 == .text name) = false := by
          rw [Bool.eq_false_iff]
          exact fun found => same (Value.beq_text_iff.mp found)
        rw [List.filter_cons]
        split <;> simp [Ordered.find?, other, ih]

/-- What the parameters of an action are read from: the mapping that is given, if there are no
parameters beside it, or else this mapping with the ones beside it. -/
inductive Gathers (entries : List (Value × Value)) : Option Value → Prop where
  | asGiven : inlineParams entries = [] → Gathers entries (Value.field? "params" entries)
  | joined {params : List (Value × Value)} : inlineParams entries ≠ [] →
      nestedParams? entries = some params →
      (params.filter fun entry => Ordered.contains entry.1 (inlineParams entries)) = [] →
      Gathers entries (some (.map (Ordered.putAll params (inlineParams entries))))

/-- The fields of an action as they are read from a document and its parameters. -/
structure ReadsAction (entries : List (Value × Value)) (held : Option Value) (task : ActionStep) :
    Prop where
  title : Gives (Value.field? "title" entries) (optional text) none task.title
  description : Gives (Value.field? "description" entries) (optional text) none task.description
  kind : ∃ v, Value.field? "kind" entries = some v ∧
    textWith Name.isKind Name.kindPattern v = .ok task.kind
  params : Gives held (mapping text any) [] task.params
  exports : Gives (Value.field? "export" entries) (mapping propertyKey text) [] task.exports
  timeout : Gives (Value.field? "timeout" entries) (optional positive) none task.timeout

theorem actionFields_eq_ok_iff {task : ActionStep} : actionFields entries = .ok task ↔
    ReadsAction entries (Value.field? "params" entries) task ∧
      noExtras actionKeys entries = .ok () := by
  constructor
  · intro success
    obtain ⟨title, titleRead, success⟩ := bind_eq_ok_iff.mp success
    obtain ⟨description, descriptionRead, success⟩ := bind_eq_ok_iff.mp success
    obtain ⟨kind, kindRead, success⟩ := bind_eq_ok_iff.mp success
    obtain ⟨params, paramsRead, success⟩ := bind_eq_ok_iff.mp success
    obtain ⟨exports, exportsRead, success⟩ := bind_eq_ok_iff.mp success
    obtain ⟨timeout, timeoutRead, success⟩ := bind_eq_ok_iff.mp success
    obtain ⟨_, clean, success⟩ := bind_eq_ok_iff.mp success
    cases success
    refine ⟨?_, clean⟩
    exact {
      title := withDefault_singleton_eq_ok_iff.mp titleRead
      description := withDefault_singleton_eq_ok_iff.mp descriptionRead
      kind := required_eq_ok_iff.mp kindRead
      params := withDefault_singleton_eq_ok_iff.mp paramsRead
      exports := withDefault_singleton_eq_ok_iff.mp exportsRead
      timeout := withDefault_singleton_eq_ok_iff.mp timeoutRead }
  · intro ⟨reads, clean⟩
    unfold actionFields
    rw [withDefault_singleton_eq_ok_iff.mpr reads.title,
      withDefault_singleton_eq_ok_iff.mpr reads.description, required_eq_ok_iff.mpr reads.kind,
      withDefault_singleton_eq_ok_iff.mpr reads.params,
      withDefault_singleton_eq_ok_iff.mpr reads.exports,
      withDefault_singleton_eq_ok_iff.mpr reads.timeout, clean]
    rfl

theorem field?_gathered {name : String} (member : name ∈ actionKeys) (other : name ≠ "params")
    (v : Value) (entries : List (Value × Value)) :
    Value.field? name (Ordered.put (.text "params") v (reservedEntries entries)) =
      Value.field? name entries := by
  rw [Value.field?_put_of_ne other.symm]
  exact field?_filter_isNamed member entries

/-- Where no parameters stand beside the others, all keys have a meaning of their own. -/
theorem isNamed_of_inlineParams_eq_nil (none : inlineParams entries = []) :
    ∀ entry ∈ entries, isNamed actionKeys entry.1 = true := by
  intro entry member
  by_contra other
  have inline : entry ∈ inlineParams entries :=
    List.mem_filter.mpr ⟨member, by simpa using other⟩
  rw [none] at inline
  cases inline

theorem noExtras_of_isNamed {names : List String}
    (named : ∀ entry ∈ entries, isNamed names entry.1 = true) :
    noExtras names entries = .ok () := by
  rw [noExtras_eq_ok_iff]
  intro entry member
  obtain ⟨name, nameMember, same⟩ := isNamed_iff.mp (named entry member)
  exact ⟨name, nameMember, by rw [same]; rfl⟩

/-- An action is read from the same parameters and fields in other documents, too. -/
theorem ReadsAction.congr {first second : List (Value × Value)} {held : Option Value}
    {task : ActionStep}
    (same : ∀ name ∈ actionKeys, name ≠ "params" →
      Value.field? name first = Value.field? name second)
    (reads : ReadsAction first held task) : ReadsAction second held task where
  title := same "title" (by decide) (by decide) ▸ reads.title
  description := same "description" (by decide) (by decide) ▸ reads.description
  kind := same "kind" (by decide) (by decide) ▸ reads.kind
  params := reads.params
  exports := same "export" (by decide) (by decide) ▸ reads.exports
  timeout := same "timeout" (by decide) (by decide) ▸ reads.timeout

theorem readsAction_gathered_iff {v : Value} {task : ActionStep} :
    ReadsAction (Ordered.put (.text "params") v (reservedEntries entries)) (some v) task ↔
      ReadsAction entries (some v) task :=
  ⟨.congr fun _ member other => field?_gathered member other v entries,
    .congr fun _ member other => (field?_gathered member other v entries).symm⟩

/-- Where parameters stand in one mapping, all keys have a meaning of their own. -/
theorem isNamed_gathered (v : Value) (entries : List (Value × Value)) :
    ∀ entry ∈ Ordered.put (.text "params") v (reservedEntries entries),
      isNamed actionKeys entry.1 = true :=
  isNamed_put (by decide) (fun _ member => (List.mem_filter.mp member).2) v

theorem nestedParams?_ne_none {params : List (String × Value)}
    (read : Gives (Value.field? "params" entries) (mapping text any) [] params) :
    nestedParams? entries ≠ none := by
  intro noMapping
  unfold nestedParams? at noMapping
  cases held : Value.field? "params" entries with
  | none =>
      rw [held] at noMapping
      cases noMapping
  | some v =>
      rw [held] at noMapping read
      cases v with
      | map others =>
          dsimp only [Value.entries?] at noMapping
          split at noMapping <;> cases noMapping
      | _ => cases read

theorem readAction_eq_ok_iff {task : ActionStep} : readAction (.map entries) = .ok task ↔
    ∃ held, Gathers entries held ∧ ReadsAction entries held task := by
  constructor
  · intro success
    obtain ⟨gathered, collected, success⟩ := bind_eq_ok_iff.mp success
    obtain ⟨reads, _⟩ := actionFields_eq_ok_iff.mp (mapError_eq_ok_iff.mp success)
    unfold collectParams at collected
    dsimp only at collected
    split at collected
    · rename_i empty
      cases collected
      exact ⟨_, .asGiven (List.isEmpty_iff.mp empty), reads⟩
    · rename_i inline
      split at collected
      · rename_i noMapping
        cases collected
        exact absurd noMapping (nestedParams?_ne_none reads.params)
      · rename_i params nested
        split at collected
        · rename_i separate
          cases collected
          rw [Value.field?_put_self, readsAction_gathered_iff] at reads
          exact ⟨_, .joined (fun empty => inline (List.isEmpty_iff.mpr empty)) nested separate,
            reads⟩
        · exact absurd collected (brokenRule_ne_ok _ _)
  · rintro ⟨held, gathers, reads⟩
    cases gathers with
    | asGiven empty =>
        have collected : collectParams entries = .ok entries := by
          unfold collectParams
          rw [empty]
          rfl
        have clean := noExtras_of_isNamed (isNamed_of_inlineParams_eq_nil empty)
        exact bind_eq_ok_iff.mpr ⟨entries, collected,
          mapError_eq_ok_iff.mpr (actionFields_eq_ok_iff.mpr ⟨reads, clean⟩)⟩
    | @joined params inline nested separate =>
        have collected : collectParams entries = .ok (Ordered.put (.text "params")
            (.map (Ordered.putAll params (inlineParams entries))) (reservedEntries entries)) := by
          unfold collectParams
          dsimp only
          rw [if_neg (fun empty => inline (List.isEmpty_iff.mp empty)), nested]
          dsimp only
          rw [separate]
        have clean : noExtras actionKeys (Ordered.put (.text "params")
            (.map (Ordered.putAll params (inlineParams entries))) (reservedEntries entries)) =
              .ok () := noExtras_of_isNamed (isNamed_gathered _ entries)
        refine bind_eq_ok_iff.mpr ⟨_, collected, mapError_eq_ok_iff.mpr ?_⟩
        rw [actionFields_eq_ok_iff, Value.field?_put_self, readsAction_gathered_iff]
        exact ⟨reads, clean⟩

/-- The parameters of an action: those that are given in a mapping, and those beside it. -/
def parameters (entries : List (Value × Value)) : List (Value × Value) :=
  (nestedParams? entries).getD [] ++ inlineParams entries

theorem nestedParams?_of_field?_map {params : List (Value × Value)}
    (held : Value.field? "params" entries = some (.map params)) :
    nestedParams? entries = some params := by
  unfold nestedParams?
  rw [held]
  cases params <;> rfl

/-- The names of the parameters of an action are the texts of their keys. -/
theorem mem_params_iff {task : ActionStep} (success : readAction (.map entries) = .ok task)
    {name : String} :
    name ∈ task.params.map Prod.fst ↔ name ∈ keyNames (parameters entries) := by
  obtain ⟨held, gathers, reads⟩ := readAction_eq_ok_iff.mp success
  have read := reads.params
  cases gathers with
  | asGiven empty =>
      unfold parameters
      rw [empty, List.append_nil]
      cases given : Value.field? "params" entries with
      | none =>
          have nested : nestedParams? entries = some [] := by
            unfold nestedParams?
            rw [given]
          rw [given] at read
          rw [nested, show task.params = [] from read]
          rfl
      | some v =>
          rw [given] at read
          cases v with
          | map params =>
              rw [nestedParams?_of_field?_map given]
              exact mem_names_of_mapping read
          | _ => cases read
  | joined _ nested =>
      unfold parameters
      rw [nested]
      exact (mem_names_of_mapping read).trans (mem_keyNames_putAll_iff (named_of_mapping read))

end Step

end Playbook
