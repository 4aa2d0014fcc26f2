import Playbook.Proofs.ImmediateActions
import Playbook.Proofs.PathMatches
import Playbook.Proofs.StepExecution
import Playbook.Proofs.TextKeys

/-!
# Export aliases

All paths of a step lead into what its operation has returned, so no alias sees another one or a key
that it hides.  What a step stores under a key depends on which aliases there are, and not on their
order.
-/

namespace Playbook

namespace Ordered

/-- Two maps without repeated keys, read side by side: what the second one holds under a key. -/
theorem mem_iff_of_forall₂ {α β γ : Type} {relates : β → γ → Prop} {entries : List (α × β)}
    {others : List (α × γ)}
    (each : List.Forall₂ (fun entry other => other.1 = entry.1 ∧ relates entry.2 other.2)
      entries others)
    (unique : ∀ b first second, relates b first → relates b second → first = second)
    {key : α} {c : γ} :
    (key, c) ∈ others ↔ ∃ b, (key, b) ∈ entries ∧ relates b c := by
  induction each with
  | nil => simp
  | @cons entry other rest others here _ ih =>
      obtain ⟨same, related⟩ := here
      simp only [List.mem_cons, ih, or_and_right, exists_or]
      apply or_congr_left
      constructor
      · rintro rfl
        exact ⟨entry.2, Prod.ext same rfl, related⟩
      · rintro ⟨b, isEntry, relatedOther⟩
        cases isEntry
        exact Prod.ext same.symm (unique _ _ _ relatedOther related)

end Ordered

namespace ActionStep

open Fallible PropertySet

variable {task : ActionStep} {produced : List (Value × Value)} {fields : List (String × Value)}

/-- A path leads to a part of what an operation has returned. -/
def LeadsTo (produced : List (Value × Value)) (path : String) (part : Value) : Prop :=
  (Lookup.ofPath path).exists? (.map produced) = .ok true ∧
    (Lookup.ofPath path).resolve (.map produced) = .ok part

/-- What a step stores under a key: the part that the path of an alias leads to, and what was
returned under a key that is no alias. -/
inductive Supplies (exports : List (String × String)) (produced : List (Value × Value)) :
    String → Value → Prop where
  | part {name path : String} {part : Value} (isAlias : (name, path) ∈ exports)
      (leads : LeadsTo produced path part) : Supplies exports produced name part
  | returned {name : String} {v : Value} (noAlias : name ∉ exports.map Prod.fst)
      (member : (.text name, v) ∈ produced) : Supplies exports produced name v

theorem Supplies.of_perm {exports others : List (String × String)} {name : String} {v : Value}
    (supplies : Supplies exports produced name v) (same : exports.Perm others) :
    Supplies others produced name v := by
  cases supplies with
  | part isAlias leads => exact .part (same.mem_iff.mp isAlias) leads
  | returned noAlias member =>
      exact .returned (fun isAlias => noAlias ((same.map _).mem_iff.mpr isAlias)) member

/-- All aliases of a step are in what was returned, and whatever the step stores has a text and a
key to be exported under. -/
structure CanExport (exports : List (String × String)) (produced : List (Value × Value)) :
    Prop where
  paths : ∀ entry ∈ exports, (Lookup.ofPath entry.2).exists? (.map produced) = .ok true
  keys : ∀ name part, Supplies exports produced name part → isExportKey (.text name) = true
  texts : ∀ name part, Supplies exports produced name part → ∃ text, part.stringify = .ok text

theorem CanExport.of_perm {exports others : List (String × String)}
    (can : CanExport exports produced) (same : exports.Perm others) :
    CanExport others produced where
  paths entry member := can.paths entry (same.mem_iff.mpr member)
  keys name part supplies := can.keys name part (supplies.of_perm same.symm)
  texts name part supplies := can.texts name part (supplies.of_perm same.symm)

/-! ## Aliases -/

theorem exists_part_iff {path : String} : (∃ part, LeadsTo produced path part) ↔
    (Lookup.ofPath path).exists? (.map produced) = .ok true := by
  constructor
  · rintro ⟨part, present, _⟩
    exact present
  · intro present
    obtain ⟨found, success, _⟩ := bind_eq_ok_iff.mp present
    have resolved := Lookup.resolve_eq success
    exact ⟨_, present, resolved⟩

theorem exportedPart_eq_ok_iff {path : String} {part : Value} :
    task.exportedPart produced path = .ok part ↔ LeadsTo produced path part := by
  unfold exportedPart LeadsTo
  dsimp only
  cases (Lookup.ofPath path).exists? (.map produced) with
  | error fault => exact iff_of_false nofun (fun both => nomatch both.1)
  | ok present =>
      cases present with
      | false => exact iff_of_false nofun (fun both => nomatch both.1)
      | true => exact mapError_eq_ok_iff.trans (and_iff_right rfl).symm

/-- The aliases of a step with the parts that their paths lead to. -/
def Aliases (produced : List (Value × Value)) (exports : List (String × String))
    (parts : List (String × Value)) : Prop :=
  List.Forall₂ (fun entry part => part.1 = entry.1 ∧ LeadsTo produced entry.2 part.2) exports parts

/-- Adding aliases puts all parts over what was returned, and each of them is looked up there. -/
theorem addAliases_eq_ok_iff {exports : List (String × String)} {values : List (Value × Value)} :
    task.addAliases produced (keyed fields) exports = .ok values ↔
      ∃ parts, Aliases produced exports parts ∧ values = keyed (Ordered.putAll fields parts) := by
  induction exports generalizing fields with
  | nil =>
      unfold Aliases
      simp only [List.forall₂_nil_left_iff, exists_eq_left, Ordered.putAll_nil]
      exact ⟨fun success => (Except.ok.inj success).symm, fun same => same ▸ rfl⟩
  | cons entry rest ih =>
      unfold Aliases at ih ⊢
      rw [addAliases]
      simp only [List.forall₂_cons_left_iff]
      constructor
      · intro success
        obtain ⟨part, leads, success⟩ := bind_eq_ok_iff.mp success
        rw [put_keyed] at success
        obtain ⟨parts, others, same⟩ := ih.mp success
        exact ⟨(entry.1, part) :: parts,
          ⟨_, _, ⟨rfl, exportedPart_eq_ok_iff.mp leads⟩, others, rfl⟩, same⟩
      · rintro ⟨_, ⟨⟨name, part⟩, parts, ⟨same, leads⟩, others, rfl⟩, rfl⟩
        cases same
        refine bind_eq_ok_iff.mpr ⟨part, exportedPart_eq_ok_iff.mpr leads, ?_⟩
        rw [put_keyed]
        exact ih.mpr ⟨parts, others, rfl⟩

theorem exists_aliases_iff {exports : List (String × String)} :
    (∃ parts, Aliases produced exports parts) ↔
      ∀ entry ∈ exports, (Lookup.ofPath entry.2).exists? (.map produced) = .ok true := by
  unfold Aliases
  induction exports with
  | nil => simp
  | cons entry rest ih =>
      rw [List.forall_mem_cons, ← ih, ← exists_part_iff]
      simp only [List.forall₂_cons_left_iff]
      constructor
      · rintro ⟨_, part, parts, ⟨_, leads⟩, others, _⟩
        exact ⟨⟨part.2, leads⟩, parts, others⟩
      · rintro ⟨⟨part, leads⟩, parts, others⟩
        exact ⟨_, (entry.1, part), parts, ⟨rfl, leads⟩, others, rfl⟩

namespace Aliases

variable {exports : List (String × String)} {parts : List (String × Value)}

theorem map_fst_eq (aliases : Aliases produced exports parts) :
    parts.map Prod.fst = exports.map Prod.fst := by
  unfold Aliases at aliases
  induction aliases with
  | nil => rfl
  | cons here _ ih => exact congrArg₂ List.cons here.1 ih

theorem mem_iff (aliases : Aliases produced exports parts) {name : String} {part : Value} :
    (name, part) ∈ parts ↔ ∃ path, (name, path) ∈ exports ∧ LeadsTo produced path part := by
  apply Ordered.mem_iff_of_forall₂ aliases
  intro path first second leads others
  exact Except.ok.inj (leads.2.symm.trans others.2)

end Aliases

/-! ## What is stored -/

section Stored

variable {exports : List (String × String)} {parts : List (String × Value)} {v : Value}
  {layer : Layer}

/-- The returned values with the parts of aliases over them are what a step supplies. -/
theorem mem_putAll_iff (aliases : Aliases (keyed fields) exports parts)
    (distinct : (fields.map Prod.fst).Nodup) (names : (exports.map Prod.fst).Nodup)
    {name : String} :
    (name, v) ∈ Ordered.putAll fields parts ↔ Supplies exports (keyed fields) name v := by
  have partNames : (parts.map Prod.fst).Nodup := by rwa [aliases.map_fst_eq]
  rw [← Ordered.find?_eq_some_iff (Ordered.nodup_keys_putAll distinct parts),
    Ordered.find?_putAll_of_nodup partNames, Option.or_eq_some_iff,
    Ordered.find?_eq_some_iff partNames, Ordered.find?_eq_some_iff distinct,
    Ordered.find?_eq_none_iff, aliases.map_fst_eq, aliases.mem_iff]
  constructor
  · rintro (⟨path, isAlias, leads⟩ | ⟨noAlias, member⟩)
    · exact .part isAlias leads
    · exact .returned noAlias (mem_keyed_iff.mpr member)
  · intro supplies
    cases supplies with
    | part isAlias leads => exact .inl ⟨_, isAlias, leads⟩
    | returned noAlias member => exact .inr ⟨noAlias, mem_keyed_iff.mp member⟩

theorem exportedLayer_eq_ok_iff (shape : task.producedEntries v = .ok (keyed fields)) :
    task.exportedLayer v = .ok layer ↔ ∃ parts, Aliases (keyed fields) task.exports parts ∧
      exportLayer (keyed (Ordered.putAll fields parts)) = .ok layer := by
  unfold exportedLayer exported
  rw [shape]
  change (task.addAliases _ _ _ >>= _) = _ ↔ _
  rw [bind_eq_ok_iff]
  constructor
  · rintro ⟨values, added, written⟩
    obtain ⟨parts, aliases, rfl⟩ := addAliases_eq_ok_iff.mp added
    exact ⟨parts, aliases, written⟩
  · rintro ⟨parts, aliases, written⟩
    exact ⟨_, addAliases_eq_ok_iff.mpr ⟨parts, aliases, rfl⟩, written⟩

/-- The texts of a step can be made if and only if it can export what was returned. -/
theorem exists_exportedLayer_iff (shape : task.producedEntries v = .ok (keyed fields))
    (distinct : (fields.map Prod.fst).Nodup) (names : (task.exports.map Prod.fst).Nodup) :
    (∃ layer, task.exportedLayer v = .ok layer) ↔ CanExport task.exports (keyed fields) := by
  constructor
  · rintro ⟨layer, success⟩
    obtain ⟨parts, aliases, written⟩ := (exportedLayer_eq_ok_iff shape).mp success
    have exportable := exists_exportLayer_iff.mp ⟨layer, written⟩
    have stored {name : String} {part : Value}
        (supplies : Supplies task.exports (keyed fields) name part) :
        (.text name, part) ∈ keyed (Ordered.putAll fields parts) :=
      mem_keyed_iff.mpr ((mem_putAll_iff aliases distinct names).mpr supplies)
    exact {
      paths := exists_aliases_iff.mp ⟨parts, aliases⟩
      keys := fun _ _ supplies => exportable.keys _ (stored supplies)
      texts := fun _ _ supplies => exportable.texts _ (stored supplies) }
  · intro can
    obtain ⟨parts, aliases⟩ := exists_aliases_iff.mpr can.paths
    have supplied : ∀ entry ∈ keyed (Ordered.putAll fields parts), ∃ name,
        entry.1 = .text name ∧ Supplies task.exports (keyed fields) name entry.2 := by
      intro entry member
      obtain ⟨field, fieldMember, rfl⟩ := List.mem_map.mp member
      exact ⟨field.1, rfl, (mem_putAll_iff aliases distinct names).mp fieldMember⟩
    have exportable : Exportable (keyed (Ordered.putAll fields parts)) := by
      constructor
      · intro entry member
        obtain ⟨name, key, supplies⟩ := supplied entry member
        exact key ▸ can.keys name entry.2 supplies
      · intro entry member
        obtain ⟨name, _, supplies⟩ := supplied entry member
        exact can.texts name entry.2 supplies
    obtain ⟨layer, written⟩ := exists_exportLayer_iff.mpr exportable
    exact ⟨layer, (exportedLayer_eq_ok_iff shape).mpr ⟨parts, aliases, written⟩⟩

/-- The texts of a step hide those below, each under the key of what it is the text of. -/
theorem find?_putAll_exportedLayer (success : task.exportedLayer v = .ok layer)
    (shape : task.producedEntries v = .ok (keyed fields))
    (distinct : (fields.map Prod.fst).Nodup) (names : (task.exports.map Prod.fst).Nodup)
    (below : Layer) (name : String) :
    (∀ part text, Supplies task.exports (keyed fields) name part → part.stringify = .ok text →
        Ordered.find? name (Ordered.putAll below layer) = some text) ∧
      ((∀ part, ¬Supplies task.exports (keyed fields) name part) →
        Ordered.find? name (Ordered.putAll below layer) = Ordered.find? name below) := by
  obtain ⟨parts, aliases, written⟩ := (exportedLayer_eq_ok_iff shape).mp success
  obtain ⟨_, shown⟩ := exportLayer_eq_ok_iff.mp written
  have layerDistinct : (layer.map Prod.fst).Nodup := by
    rw [map_fst_of_shown_keyed shown]
    exact Ordered.nodup_keys_putAll distinct parts
  rw [Ordered.find?_putAll_of_nodup layerDistinct]
  constructor
  · intro part text supplies isText
    have stored := (mem_of_shown_keyed shown).mpr
      ⟨part, (mem_putAll_iff aliases distinct names).mpr supplies, isText⟩
    rw [(Ordered.find?_eq_some_iff layerDistinct).mpr stored, Option.some_or]
  · intro nothing
    have absent : Ordered.find? name layer = none := by
      rw [Option.eq_none_iff_forall_ne_some]
      intro text found
      obtain ⟨part, stored, _⟩ :=
        (mem_of_shown_keyed shown).mp ((Ordered.find?_eq_some_iff layerDistinct).mp found)
      exact nothing part ((mem_putAll_iff aliases distinct names).mp stored)
    rw [absent, Option.none_or]

end Stored

/-! ## Steps -/

section Steps

variable {engine : Engine} {index : Nat} {cancelled : Bool} {properties : PropertySet} {v : Value}

/-- What an operation returns to a step is plain data. -/
theorem isPlain_of_produce
    (returns : ((task.produce engine index cancelled).run properties).result = .ok v) :
    v.isPlain = true := by
  obtain ⟨operation, _, returns⟩ := Procedure.exists_of_result_run_bind returns
  obtain ⟨params, _, returns⟩ := Procedure.exists_of_result_run_bind returns
  rw [Procedure.result_run_ofEffect] at returns
  unfold perform bounded at returns
  dsimp only at returns
  split at returns
  · cases returns
  · obtain ⟨raw, _, normalized⟩ := bind_eq_ok_iff.mp returns
    exact Value.isPlain_of_normalize (mapError_eq_ok_iff.mp normalized)

theorem exists_keyed_of_produce
    (returns : ((task.produce engine index cancelled).run properties).result = .ok v)
    {produced : List (Value × Value)} (shape : task.producedEntries v = .ok produced) :
    ∃ fields, produced = keyed fields := by
  have plain := isPlain_of_produce returns
  cases v with
  | null =>
      cases shape
      exact ⟨[], rfl⟩
  | map entries =>
      cases shape
      exact exists_keyed_of_plain plain
  | _ => cases shape

/-- A step whose operation has returned passes and writes its texts, or it is in error and writes
nothing. -/
theorem execute_of_produce
    (returns : ((task.produce engine index cancelled).run properties).result = .ok v) :
    let executed := Step.execute engine properties index cancelled (.action task)
    (∃ layer, task.exportedLayer v = .ok layer ∧ executed.outcome.status = .pass ∧
        executed.properties = properties.write layer) ∨
      (¬∃ layer, task.exportedLayer v = .ok layer) ∧ executed.outcome.status = .error ∧
        executed.properties = properties := by
  have kept := (task.reads_produce engine index cancelled).properties_run properties
  unfold Step.execute Step.procedure procedure
  rw [Procedure.run_bind, Completed.andThen_pure, Procedure.run_bind]
  generalize (task.produce engine index cancelled).run properties = completed at kept returns
  obtain ⟨result, reached, cancels, seen⟩ := completed
  cases kept
  cases returns
  simp only [Completed.andThen, run_write]
  cases task.exportedLayer v with
  | ok layer => exact .inl ⟨layer, rfl, rfl, rfl⟩
  | error failure => exact .inr ⟨not_succeeds_error failure, rfl, rfl⟩

/-- What a step that has passed stores, under every key. -/
structure Stores (exports : List (String × String)) (produced : List (Value × Value))
    (before after : Layer) : Prop where
  supplied : ∀ name part text, Supplies exports produced name part → part.stringify = .ok text →
    Ordered.find? name after = some text
  kept : ∀ name, (∀ part, ¬Supplies exports produced name part) →
    Ordered.find? name after = Ordered.find? name before

namespace Stores

variable {exports : List (String × String)} {before after : Layer}
  (stores : Stores exports produced before after)
include stores

theorem of_alias (can : CanExport exports produced) {entry : String × String}
    (member : entry ∈ exports) : ∃ part text,
      (Lookup.ofPath entry.2).resolve (.map produced) = .ok part ∧ part.stringify = .ok text ∧
        Ordered.find? entry.1 after = some text := by
  obtain ⟨part, leads⟩ := exists_part_iff.mpr (can.paths entry member)
  have supplies : Supplies exports produced entry.1 part := .part member leads
  obtain ⟨text, isText⟩ := can.texts _ _ supplies
  exact ⟨part, text, leads.2, isText, stores.supplied _ _ _ supplies isText⟩

theorem of_returned (can : CanExport exports produced) {name : String} {part : Value}
    (member : (.text name, part) ∈ produced) (noAlias : name ∉ exports.map Prod.fst) :
    ∃ text, part.stringify = .ok text ∧ Ordered.find? name after = some text := by
  have supplies : Supplies exports produced name part := .returned noAlias member
  obtain ⟨text, isText⟩ := can.texts _ _ supplies
  exact ⟨text, isText, stores.supplied _ _ _ supplies isText⟩

theorem of_other {name : String} (noAlias : name ∉ exports.map Prod.fst)
    (absent : .text name ∉ produced.map Prod.fst) :
    Ordered.find? name after = Ordered.find? name before := by
  apply stores.kept
  intro part supplies
  cases supplies with
  | part isAlias => exact noAlias (List.mem_map_of_mem isAlias)
  | returned _ member => exact absent (List.mem_map_of_mem member)

/-- A step stores the same with its aliases in another order. -/
theorem find?_eq_of_perm {others : List (String × String)} {second : Layer}
    (alike : Stores others produced before second) (can : CanExport exports produced)
    (same : exports.Perm others) (name : String) :
    Ordered.find? name second = Ordered.find? name after := by
  by_cases supplied : ∃ part, Supplies exports produced name part
  · obtain ⟨part, supplies⟩ := supplied
    obtain ⟨text, isText⟩ := can.texts name part supplies
    rw [stores.supplied name part text supplies isText,
      alike.supplied name part text (supplies.of_perm same) isText]
  · have nothing : ∀ part, ¬Supplies exports produced name part :=
      fun part supplies => supplied ⟨part, supplies⟩
    rw [stores.kept name nothing,
      alike.kept name fun part supplies => nothing part (supplies.of_perm same.symm)]

end Stores

variable {produced : List (Value × Value)}
  (returns : ((task.produce engine index cancelled).run properties).result = .ok v)
  (shape : task.producedEntries v = .ok produced) (distinct : (produced.map Prod.fst).Nodup)
  (names : (task.exports.map Prod.fst).Nodup)
include returns shape distinct names

/-- A step whose operation has returned a mapping passes if it can export it, and then stores what
it supplies; or it is in error and changes nothing. -/
theorem execute_cases :
    let executed := Step.execute engine properties index cancelled (.action task)
    (CanExport task.exports produced ∧ executed.outcome.status = .pass ∧
        Stores task.exports produced properties.runtime executed.properties.runtime) ∨
      ¬CanExport task.exports produced ∧ executed.outcome.status = .error ∧
        executed.properties = properties := by
  intro executed
  obtain ⟨fields, rfl⟩ := exists_keyed_of_produce returns shape
  rw [nodup_keyed_iff] at distinct
  have canIff := exists_exportedLayer_iff shape distinct names
  rcases execute_of_produce returns with ⟨layer, success, passed, written⟩ | ⟨no, failed, kept⟩
  · left
    have laws := find?_putAll_exportedLayer success shape distinct names properties.runtime
    refine ⟨canIff.mp ⟨layer, success⟩, passed, ?_⟩
    rw [show executed.properties = properties.write layer from written, runtime_write]
    exact ⟨fun name => (laws name).1, fun name => (laws name).2⟩
  · exact .inr ⟨fun can => no (canIff.mpr can), failed, kept⟩

end Steps

/-- An action whose operation has returned a mapping passes if and only if all paths of its aliases
lead somewhere in this mapping and what it supplies can be exported.  Each alias then stands for the
text of what its path leads to in the mapping, the other keys of the mapping for the texts of their
values, and all other keys for what they stood for before.  The order of the aliases does not
matter. -/
theorem execute_aliases {engine : Engine} {index : Nat} {cancelled : Bool}
    {properties : PropertySet} {v : Value} {produced : List (Value × Value)}
    (returns : ((task.produce engine index cancelled).run properties).result = .ok v)
    (shape : task.producedEntries v = .ok produced) (distinct : (produced.map Prod.fst).Nodup)
    (names : (task.exports.map Prod.fst).Nodup) :
    let executed := Step.execute engine properties index cancelled (.action task)
    (executed.outcome.status = .pass ↔ CanExport task.exports produced) ∧
    (executed.outcome.status = .pass →
      (∀ entry ∈ task.exports, ∃ part text,
        (Lookup.ofPath entry.2).resolve (.map produced) = .ok part ∧ part.stringify = .ok text ∧
          Ordered.find? entry.1 executed.properties.runtime = some text) ∧
      (∀ name part, (.text name, part) ∈ produced → name ∉ task.exports.map Prod.fst →
        ∃ text, part.stringify = .ok text ∧
          Ordered.find? name executed.properties.runtime = some text) ∧
      ∀ name, name ∉ task.exports.map Prod.fst → .text name ∉ produced.map Prod.fst →
        Ordered.find? name executed.properties.runtime =
          Ordered.find? name properties.runtime) ∧
    ∀ exports, exports.Perm task.exports →
      let other := Step.execute engine properties index cancelled (.action { task with exports })
      other.outcome.status = executed.outcome.status ∧
        ∀ name, Ordered.find? name other.properties.runtime =
          Ordered.find? name executed.properties.runtime := by
  intro executed
  have ending := execute_cases returns shape distinct names
  refine ⟨?passes, ?stored, ?reordered⟩
  case passes =>
    rcases ending with ⟨can, passed, _⟩ | ⟨cannot, failed, _⟩
    · exact iff_of_true passed can
    · exact iff_of_false (fun passed => nomatch failed.symm.trans passed) cannot
  case stored =>
    intro passed
    rcases ending with ⟨can, _, stores⟩ | ⟨_, failed, _⟩
    · exact ⟨fun _ => stores.of_alias can, fun _ _ => stores.of_returned can,
        fun _ => stores.of_other⟩
    · cases failed.symm.trans passed
  case reordered =>
    intro exports same other
    have otherNames : (exports.map Prod.fst).Nodup := (same.map _).nodup_iff.mpr names
    have otherReturns : ((({ task with exports } : ActionStep).produce engine index cancelled).run
        properties).result = .ok v := returns
    have otherEnding := execute_cases otherReturns shape distinct otherNames
    -- What can be exported and what is supplied do not depend on the order.
    rcases ending with ⟨can, passed, stores⟩ | ⟨cannot, failed, kept⟩
    · rcases otherEnding with ⟨_, otherPassed, alike⟩ | ⟨otherCannot, _⟩
      · exact ⟨otherPassed.trans passed.symm, stores.find?_eq_of_perm alike can same.symm⟩
      · exact absurd (can.of_perm same.symm) otherCannot
    · rcases otherEnding with ⟨otherCan, _⟩ | ⟨_, otherFailed, otherKept⟩
      · exact absurd (otherCan.of_perm same) cannot
      · refine ⟨otherFailed.trans failed.symm, fun name => ?_⟩
        rw [show other.properties = properties from otherKept,
          show executed.properties = properties from kept]

/-- Two aliases that hide the keys each other's path leads through. -/
theorem execute_aliases_crossed :
    let engine : Engine := { registry := .builtin, workspace := .ofText "ws" }
    let properties : PropertySet := ⟨[("x", "old"), ("z", "kept")], []⟩
    let fields : List (String × Value) := [("x", .text "1"), ("y", .list [.int 2, .int 3])]
    let produced : List (Value × Value) := keyed fields
    let task : ActionStep := ⟨none, none, "set", fields, [("x", "y.-1"), ("y", "/x")], none⟩
    ((task.produce engine 1 false).run properties).result = .ok (.map produced) ∧
      task.producedEntries (.map produced) = .ok produced ∧ (produced.map Prod.fst).Nodup ∧
      (task.exports.map Prod.fst).Nodup ∧
      (Step.execute engine properties 1 false (.action task)).outcome.status = .pass ∧
      (∀ entry ∈ [("x", "3"), ("y", "1"), ("z", "kept")], Ordered.find? entry.1
        (Step.execute engine properties 1 false (.action task)).properties.runtime =
          some entry.2) ∧
      ∀ name, Ordered.find? name (Step.execute engine properties 1 false
          (.action { task with exports := [("y", "/x"), ("x", "y.-1")] })).properties.runtime =
        Ordered.find? name
          (Step.execute engine properties 1 false (.action task)).properties.runtime := by
  intro engine properties fields produced task
  have returns : ((task.produce engine 1 false).run properties).result = .ok (.map produced) := by
    have answered : task.Answered engine properties 1 (.ok (.map produced)) :=
      ⟨rfl, _, _, _, rfl, rfl, rfl, fun _ => rfl⟩
    rw [answered.run_produce Settings.sound_default]
    rfl
  have shape : task.producedEntries (.map produced) = .ok produced := rfl
  have distinct : (produced.map Prod.fst).Nodup := nodup_keyed_iff.mpr (by decide)
  have names : (task.exports.map Prod.fst).Nodup := by decide
  obtain ⟨_, layer, reordered⟩ := execute_aliases returns shape distinct names
  have passed : (Step.execute engine properties 1 false (.action task)).outcome.status = .pass := by
    decide +kernel
  obtain ⟨aliases, _, others⟩ := layer passed
  have isX := aliases ("x", "y.-1") (by decide)
  have isY := aliases ("y", "/x") (by decide)
  have last : (Lookup.ofPath "y.-1").resolve (.map produced) = .ok (.int 3) := by rfl
  have first : (Lookup.ofPath "/x").resolve (.map produced) = .ok (.text "1") := by rfl
  obtain ⟨_, _, resolvedX, shownX, storedX⟩ := isX
  obtain ⟨_, _, resolvedY, shownY, storedY⟩ := isY
  cases resolvedX.symm.trans last
  cases resolvedY.symm.trans first
  cases shownX.symm.trans (by decide +kernel : _ = Except.ok "3")
  cases shownY.symm.trans (rfl : _ = Except.ok "1")
  have noKey : Value.text "z" ∉ produced.map Prod.fst := by simp [produced, fields, keyed]
  have older : Ordered.find? "z" properties.runtime = some "kept" := rfl
  have storedZ := (others "z" (by decide) noKey).trans older
  refine ⟨returns, shape, distinct, names, passed, ?_,
    (reordered [("y", "/x"), ("x", "y.-1")] (.swap _ _ _)).2⟩
  simp only [List.forall_mem_cons, List.not_mem_nil, false_imp_iff, implies_true, and_true]
  exact ⟨storedX, storedY, storedZ⟩

end ActionStep

end Playbook
