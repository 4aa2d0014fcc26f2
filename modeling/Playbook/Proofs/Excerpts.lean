import Mathlib.Data.List.Forall2
import Playbook.Diagnostic.Text
import Playbook.Proofs.PropertyTexts
import Playbook.Proofs.TextKeys

/-!
# Excerpts that are written

The text of a diagnostic ends with an excerpt of a document.  Values of every kind are reduced to
what a document may show, but durations are left as they are and have no form there.  So a text is
written if and only if nothing that it shows is a duration.
-/

namespace Playbook

open Fallible

namespace Value

/-- The entries of a mapping under the texts of their keys; of several keys with one text the last
one counts. -/
def textEntries (entries : List (Value × Value)) : List (String × Value) :=
  Ordered.ofEntries (entries.filterMap fun entry =>
    entry.1.plainText.toOption.map fun name => (name, entry.2))

/-- The parts of a value that a document shows: items of sequences of every kind, and what mappings
hold under the texts of their keys. -/
inductive Shows : Value → Value → Prop where
  | self (v : Value) : Shows v v
  | item {v part item : Value} {items : List Value} (ofItems : v.items? = some items)
      (member : item ∈ items) (shown : Shows item part) : Shows v part
  | entry {entries : List (Value × Value)} {part : Value} {entry : String × Value}
      (member : entry ∈ textEntries entries) (shown : Shows entry.2 part) :
      Shows (.map entries) part

theorem Shows.eq_of_atom {v part : Value} (shown : v.Shows part) (noItems : v.items? = none)
    (noEntries : v.entries? = none) : part = v := by
  cases shown with
  | self => rfl
  | item ofItems =>
      rw [noItems] at ofItems
      cases ofItems
  | entry => cases noEntries

/-- A value without long integers has a text as a key. -/
theorem succeeds_plainText {key : Value} (short : key.isShown = true) : Succeeds key.plainText := by
  unfold plainText
  split
  iterate 4 exact succeeds_ok _
  exact (succeeds_literal_iff key).mpr short

end Value

namespace Ordered

variable {α β γ : Type} [BEq α] {relates : β → γ → Prop}

/-- Entries with the same keys and related values. -/
abbrev Related (relates : β → γ → Prop) (entries : List (α × β)) (others : List (α × γ)) : Prop :=
  List.Forall₂ (fun entry other => entry.1 = other.1 ∧ relates entry.2 other.2) entries others

theorem Related.put {entries : List (α × β)} {others : List (α × γ)}
    (each : Related relates entries others) (key : α) {b : β} {c : γ} (related : relates b c) :
    Related relates (put key b entries) (put key c others) := by
  induction each with
  | nil => exact .cons ⟨rfl, related⟩ .nil
  | @cons entry other rest others here each ih =>
      obtain ⟨k, v⟩ := entry
      obtain ⟨k', w⟩ := other
      obtain ⟨same, values⟩ := here
      cases same
      unfold Ordered.put
      split
      · exact .cons ⟨rfl, related⟩ each
      · exact .cons ⟨rfl, values⟩ ih

/-- Maps that are built from related entries are related. -/
theorem Related.putAll {entries additions : List (α × β)} {others further : List (α × γ)}
    (each : Related relates entries others) (added : Related relates additions further) :
    Related relates (putAll entries additions) (putAll others further) := by
  induction added generalizing entries others with
  | nil => exact each
  | @cons addition other _ _ here _ ih =>
      rw [putAll_cons, putAll_cons, ← here.1]
      exact ih (each.put addition.1 here.2)

end Ordered

namespace Yaml.Block

open Value PropertySet

/-- A reduced value that has a form if and only if the value that it comes from shows no duration;
the fault is about a duration that is shown. -/
structure FormedUnless (v reduced : Value) : Prop where
  fault : ∀ fault, ofReduced reduced = .error fault →
    ∃ span, v.Shows (.duration span) ∧ fault = .unrepresentable span.literal
  stuck : ∀ span, v.Shows (.duration span) → ¬Succeeds (ofReduced reduced)

theorem FormedUnless.of_succeeds {v reduced : Value} (formed : Succeeds (ofReduced reduced))
    (none : ∀ span, ¬v.Shows (.duration span)) : FormedUnless v reduced where
  fault fault failed := by
    rw [failed] at formed
    exact absurd formed (not_succeeds_error fault)
  stuck span shown := absurd shown (none span)

/-- A value without parts that has a form and is no duration. -/
theorem FormedUnless.of_atom {v reduced : Value} (formed : Succeeds (ofReduced reduced))
    (noItems : v.items? = none) (noEntries : v.entries? = none)
    (noDuration : ∀ span, v ≠ .duration span) : FormedUnless v reduced :=
  .of_succeeds formed fun span shown =>
    noDuration span (shown.eq_of_atom noItems noEntries).symm

theorem FormedUnless.duration (span : Duration) :
    FormedUnless (.duration span) (.duration span) where
  fault fault failed := by
    cases failed
    exact ⟨span, .self _, rfl⟩
  stuck _ _ := not_succeeds_error _

section Items

variable {items reduced : List Value} (each : List.Forall₂ FormedUnless items reduced)
include each

theorem ofReducedItems_eq_error {fault : Fault} (failed : ofReducedItems reduced = .error fault) :
    ∃ item ∈ items, ∃ span, item.Shows (.duration span) ∧
      fault = .unrepresentable span.literal := by
  induction each with
  | nil => cases failed
  | cons here _ ih =>
      rcases bind_eq_error_iff.mp failed with failed | ⟨_, _, failed⟩
      · exact ⟨_, List.mem_cons_self, here.fault fault failed⟩
      · obtain ⟨item, member, shown⟩ := ih (bind_pure_eq_error_iff.mp failed)
        exact ⟨item, List.mem_cons_of_mem _ member, shown⟩

theorem not_succeeds_ofReducedItems {item : Value} (member : item ∈ items) {span : Duration}
    (shown : item.Shows (.duration span)) : ¬Succeeds (ofReducedItems reduced) := by
  intro success
  induction each with
  | nil => cases member
  | cons here _ ih =>
      obtain ⟨first, formed, success⟩ := succeeds_bind_iff.mp success
      rcases List.mem_cons.mp member with rfl | later
      · exact here.stuck span shown ⟨first, formed⟩
      · exact ih later ((succeeds_bind_iff_left fun _ => succeeds_pure _).mp success)

end Items

section Entries

variable {named fields : List (String × Value)} (each : Ordered.Related FormedUnless named fields)
include each

theorem ofReducedEntries_eq_error {fault : Fault}
    (failed : ofReducedEntries (keyed fields) = .error fault) :
    ∃ entry ∈ named, ∃ span, entry.2.Shows (.duration span) ∧
      fault = .unrepresentable span.literal := by
  induction each with
  | nil => cases failed
  | cons here _ ih =>
      rcases bind_eq_error_iff.mp failed with failed | ⟨_, _, failed⟩
      · exact ⟨_, List.mem_cons_self, here.2.fault fault failed⟩
      · obtain ⟨entry, member, shown⟩ := ih (bind_pure_eq_error_iff.mp failed)
        exact ⟨entry, List.mem_cons_of_mem _ member, shown⟩

theorem not_succeeds_ofReducedEntries {entry : String × Value} (member : entry ∈ named)
    {span : Duration} (shown : entry.2.Shows (.duration span)) :
    ¬Succeeds (ofReducedEntries (keyed fields)) := by
  intro success
  induction each with
  | nil => cases member
  | cons here _ ih =>
      obtain ⟨first, formed, success⟩ := succeeds_bind_iff.mp success
      rcases List.mem_cons.mp member with rfl | later
      · exact here.2.stuck span shown ⟨first, formed⟩
      · exact ih later ((succeeds_bind_iff_left fun _ => succeeds_pure _).mp success)

end Entries

theorem FormedUnless.sequence {v : Value} {items reduced : List Value}
    (ofItems : v.items? = some items) (each : List.Forall₂ FormedUnless items reduced) :
    FormedUnless v (.list reduced) where
  fault fault failed := by
    obtain ⟨item, member, span, shown, same⟩ :=
      ofReducedItems_eq_error each (bind_pure_eq_error_iff.mp failed)
    exact ⟨span, .item ofItems member shown, same⟩
  stuck span shown := by
    rw [ofReduced, succeeds_bind_iff_left fun _ => succeeds_pure _]
    cases shown with
    | self => cases ofItems
    | item others member shown =>
        rw [ofItems] at others
        cases others
        exact not_succeeds_ofReducedItems each member shown
    | entry => cases ofItems

theorem FormedUnless.mapping {entries : List (Value × Value)} {fields : List (String × Value)}
    (each : Ordered.Related FormedUnless (textEntries entries) fields) :
    FormedUnless (.map entries) (.map (keyed fields)) where
  fault fault failed := by
    obtain ⟨entry, member, span, shown, same⟩ :=
      ofReducedEntries_eq_error each (bind_pure_eq_error_iff.mp failed)
    exact ⟨span, .entry member shown, same⟩
  stuck span shown := by
    rw [ofReduced, succeeds_bind_iff_left fun _ => succeeds_pure _]
    cases shown with
    | item ofItems => cases ofItems
    | entry member shown => exact not_succeeds_ofReducedEntries each member shown

mutual

/-- Every value without long integers is reduced, and what it is reduced to has a form unless the
value shows a duration. -/
theorem exists_reduce (v : Value) (short : v.isShown = true) :
    ∃ reduced, reduce v = .ok reduced ∧ FormedUnless v reduced := by
  cases v with
  | list items | tuple items | set items =>
      obtain ⟨reduced, success, each⟩ := exists_reduceItems items short
      refine ⟨.list reduced, ?_, .sequence rfl each⟩
      rw [reduce, success]
      rfl
  | map entries =>
      obtain ⟨fields, success, each⟩ := exists_reduceEntries entries short
      have built : Ordered.ofEntries (keyed fields) = keyed (Ordered.ofEntries fields) :=
        putAll_keyed [] fields
      refine ⟨.map (keyed (Ordered.ofEntries fields)), ?_, .mapping (.putAll .nil each)⟩
      rw [reduce, success, ok_bind, built]
      rfl
  | int n =>
      refine ⟨.int n, rfl, .of_atom ?_ rfl rfl nofun⟩
      rw [ofReduced, succeeds_bind_iff_left fun _ => succeeds_pure _]
      exact succeeds_intText_iff.mpr short
  | duration span => exact ⟨_, rfl, .duration span⟩
  | _ => exact ⟨_, rfl, .of_atom (succeeds_ok _) rfl rfl nofun⟩

theorem exists_reduceItems (items : List Value) (short : itemsAreShown items = true) :
    ∃ reduced, reduceItems items = .ok reduced ∧ List.Forall₂ FormedUnless items reduced := by
  cases items with
  | nil => exact ⟨[], rfl, .nil⟩
  | cons v rest =>
      rw [itemsAreShown, Bool.and_eq_true] at short
      obtain ⟨first, success, here⟩ := exists_reduce v short.1
      obtain ⟨others, further, each⟩ := exists_reduceItems rest short.2
      refine ⟨first :: others, ?_, .cons here each⟩
      rw [reduceItems, success, ok_bind, further]
      rfl

theorem exists_reduceEntries (entries : List (Value × Value))
    (short : entriesAreShown entries = true) :
    ∃ fields, reduceEntries entries = .ok (keyed fields) ∧
      Ordered.Related FormedUnless (entries.filterMap fun entry =>
        entry.1.plainText.toOption.map fun name => (name, entry.2)) fields := by
  cases entries with
  | nil => exact ⟨[], rfl, .nil⟩
  | cons entry rest =>
      obtain ⟨key, v⟩ := entry
      rw [entriesAreShown, Bool.and_eq_true, Bool.and_eq_true] at short
      obtain ⟨⟨keyShort, valueShort⟩, restShort⟩ := short
      obtain ⟨name, isText⟩ := succeeds_plainText keyShort
      obtain ⟨first, success, here⟩ := exists_reduce v valueShort
      obtain ⟨fields, further, each⟩ := exists_reduceEntries rest restShort
      refine ⟨(name, first) :: fields, ?_, ?_⟩
      · rw [reduceEntries, isText, ok_bind, success, ok_bind, further]
        rfl
      · rw [List.filterMap_cons, isText]
        exact .cons ⟨rfl, here⟩ each

end

variable {v : Value} (short : v.isShown = true)
include short

/-- A value without long integers has a document if and only if it shows no duration. -/
theorem succeeds_ofValue_iff :
    Succeeds (ofValue v) ↔ ∀ span, ¬v.Shows (.duration span) := by
  obtain ⟨reduced, success, formed⟩ := exists_reduce v short
  rw [ofValue, success, ok_bind]
  constructor
  · intro succeeds span shown
    exact formed.stuck span shown succeeds
  · intro none
    cases ending : ofReduced reduced with
    | ok block => exact succeeds_ok block
    | error fault =>
        obtain ⟨span, shown, _⟩ := formed.fault fault ending
        exact absurd shown (none span)

theorem ofValue_eq_error {fault : Fault} (failed : ofValue v = .error fault) :
    ∃ span, v.Shows (.duration span) ∧ fault = .unrepresentable span.literal := by
  obtain ⟨reduced, success, formed⟩ := exists_reduce v short
  rw [ofValue, success, ok_bind] at failed
  exact formed.fault fault failed

end Yaml.Block

theorem Text.exists_join_cons (separator first : String) (texts : List String) :
    ∃ behind, join separator (first :: texts) = first ++ behind ∧
      (behind = "" ∨ ∃ rest, behind = separator ++ rest) := by
  cases texts with
  | nil => exact ⟨"", by simp [join], .inl rfl⟩
  | cons second texts =>
      refine ⟨separator ++ join separator (second :: texts), ?_, .inr ⟨_, rfl⟩⟩
      unfold join
      rw [String.intercalate_cons_cons, String.append_assoc]

namespace Diagnostic

open Value Yaml.Block

/-- The values that an excerpt shows. -/
def Excerpt.shownValues : Excerpt → List Value
  | .nothing | .line _ => []
  | .element shown properties => if shown.isTrue then [.map properties, shown] else []

/-- The values that the text of a diagnostic shows. -/
def shownValues (d : Diagnostic) : List Value :=
  (d.context.map fun context => context.excerpt.shownValues).getD []

theorem shows_duration_record_iff {name : String} {v : Value} {span : Duration} :
    (Value.record [(name, v)]).Shows (.duration span) ↔ v.Shows (.duration span) := by
  constructor
  · intro shown
    cases shown with
    | item ofItems => cases ofItems
    | entry member shown =>
        cases List.mem_singleton.mp member
        exact shown
  · intro shown
    exact .entry (List.mem_singleton.mpr rfl : (name, v) ∈ [(name, v)]) shown

theorem isShown_properties {properties : List (Value × Value)}
    (short : (Value.map properties).isShown = true) :
    (Value.record [("properties", .map properties)]).isShown = true := by
  simpa [Value.record, isShown, entriesAreShown] using short

section Element

variable {element : Value} {properties : List (Value × Value)}
variable (short : ∀ v ∈ [.map properties, element], v.isShown = true)
include short

theorem succeeds_elementText_iff : Succeeds (elementText element properties) ↔
    ∀ v ∈ [.map properties, element], ∀ span, ¬v.Shows (.duration span) := by
  rw [List.forall_mem_cons, List.forall_mem_singleton] at short ⊢
  rw [← succeeds_ofValue_iff short.2]
  unfold elementText
  rw [succeeds_bind_iff_and fun _ _ => succeeds_bind_iff_left fun _ => succeeds_pure _]
  apply and_congr_left
  intro _
  split
  · rename_i empty
    rw [List.isEmpty_iff.mp empty]
    apply iff_of_true (succeeds_ok _)
    intro span shown
    cases shown with
    | item ofItems => cases ofItems
    | entry member => cases member
  · rw [succeeds_bind_iff_left fun _ => succeeds_pure _,
      succeeds_ofValue_iff (isShown_properties short.1)]
    simp only [shows_duration_record_iff]

theorem elementText_eq_error {fault : Fault}
    (failed : elementText element properties = .error fault) :
    ∃ v ∈ [.map properties, element], ∃ span, v.Shows (.duration span) ∧
      fault = .unrepresentable span.literal := by
  rw [List.forall_mem_cons, List.forall_mem_singleton] at short
  rcases bind_eq_error_iff.mp failed with failed | ⟨_, _, failed⟩
  · refine ⟨.map properties, List.mem_cons_self, ?_⟩
    split at failed
    · cases failed
    · obtain ⟨span, shown, same⟩ :=
        ofValue_eq_error (isShown_properties short.1) (bind_pure_eq_error_iff.mp failed)
      exact ⟨span, shows_duration_record_iff.mp shown, same⟩
  · exact ⟨element, List.mem_cons_of_mem _ (List.mem_singleton.mpr rfl),
      ofValue_eq_error short.2 (bind_pure_eq_error_iff.mp failed)⟩

end Element

section Lines

variable {excerpt : Excerpt} (short : ∀ v ∈ excerpt.shownValues, v.isShown = true)
include short

theorem succeeds_lines_iff : Succeeds excerpt.lines ↔
    ∀ v ∈ excerpt.shownValues, ∀ span, ¬v.Shows (.duration span) := by
  cases excerpt with
  | element shown properties =>
      simp only [Excerpt.shownValues, Excerpt.lines] at short ⊢
      split
      · rename_i counts
        rw [if_pos counts] at short
        rw [succeeds_bind_iff_left fun _ => succeeds_pure _]
        exact succeeds_elementText_iff short
      · exact iff_of_true (succeeds_ok _) (List.forall_mem_nil _)
  | _ => exact iff_of_true (succeeds_ok _) (List.forall_mem_nil _)

theorem lines_eq_error {fault : Fault} (failed : excerpt.lines = .error fault) :
    ∃ v ∈ excerpt.shownValues, ∃ span, v.Shows (.duration span) ∧
      fault = .unrepresentable span.literal := by
  cases excerpt with
  | element shown properties =>
      simp only [Excerpt.shownValues, Excerpt.lines] at short failed ⊢
      split at failed
      · rename_i counts
        rw [if_pos counts] at short ⊢
        exact elementText_eq_error short (bind_pure_eq_error_iff.mp failed)
      · cases failed
  | _ => cases failed

end Lines

/-- The text of a diagnostic begins with its message.  It is written if and only if nothing that it
shows is a duration, and otherwise the fault names a duration that it would have to show. -/
theorem text_written_iff (d : Diagnostic) (short : ∀ v ∈ d.shownValues, v.isShown = true) :
    ((∃ behind, d.text = .ok (d.message ++ behind) ∧
          (behind = "" ∨ ∃ lines, behind = "\n" ++ lines)) ↔
        ∀ v ∈ d.shownValues, ∀ span, ¬v.Shows (.duration span)) ∧
      ∀ fault, d.text = .error fault → ∃ v ∈ d.shownValues, ∃ span,
        v.Shows (.duration span) ∧ fault = .unrepresentable span.literal := by
  obtain ⟨kind, message, context⟩ := d
  cases context with
  | none =>
      refine ⟨iff_of_true ⟨"", ?_, .inl rfl⟩ (List.forall_mem_nil _), nofun⟩
      rw [String.append_empty]
      rfl
  | some context =>
      have written := succeeds_lines_iff short
      refine ⟨Iff.trans ?_ written,
        fun fault failed => lines_eq_error short (bind_pure_eq_error_iff.mp failed)⟩
      constructor
      · rintro ⟨behind, success, _⟩
        obtain ⟨lines, success, _⟩ := bind_eq_ok_iff.mp success
        exact ⟨lines, success⟩
      · rintro ⟨lines, success⟩
        obtain ⟨behind, joined, shape⟩ :=
          Text.exists_join_cons "\n" message (context.locationLines ++ lines)
        refine ⟨behind, ?_, shape⟩
        rw [← joined]
        exact bind_eq_ok_iff.mpr ⟨lines, success, rfl⟩

theorem text_written_iff_object :
    let d : Diagnostic := ⟨.schema, "boom", some ⟨none, none, none, some 2,
      .element (.record [("seen", .set [.foreign "socket" "<socket>"])]) []⟩⟩
    (∀ v ∈ d.shownValues, v.isShown = true) ∧
      ∃ behind, d.text = .ok ("boom" ++ behind) ∧
        (behind = "" ∨ ∃ lines, behind = "\n" ++ lines) := by
  intro d
  have short : ∀ v ∈ d.shownValues, v.isShown = true := by decide
  have properties : ∀ span, ¬(Value.map []).Shows (.duration span) := by
    rintro span (_ | ⟨ofItems, _, _⟩ | ⟨member, _⟩)
    · cases ofItems
    · cases member
  have element : ∀ span, ¬(Value.record [("seen", .set [.foreign "socket" "<socket>"])]).Shows
      (.duration span) := by
    intro span shown
    cases shows_duration_record_iff.mp shown with
    | item ofItems member shown =>
        cases ofItems
        cases List.mem_singleton.mp member
        exact nomatch shown.eq_of_atom rfl rfl
  refine ⟨short, (text_written_iff d short).1.mpr ?_⟩
  exact List.forall_mem_cons.mpr ⟨properties, List.forall_mem_singleton.mpr element⟩

/-- A duration in an element has no form in a document, so this diagnostic has no text. -/
theorem text_duration_unwritten :
    let d : Diagnostic := ⟨.schema, "boom", some ⟨none, none, none, none,
      .element (.record [("td", .duration ⟨0, 5, 0⟩)]) []⟩⟩
    (∀ v ∈ d.shownValues, v.isShown = true) ∧
      d.text = .error (.unrepresentable "datetime.timedelta(seconds=5)") ∧
      ¬∃ behind, d.text = .ok (d.message ++ behind) := by
  refine ⟨by decide, rfl, ?_⟩
  rintro ⟨behind, success⟩
  cases success

end Diagnostic

end Playbook
