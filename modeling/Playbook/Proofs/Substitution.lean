import Mathlib.Data.List.Forall2
import Playbook.Proofs.Templates

/-!
# Substitution in values

Placeholders are replaced in the text leaves of a value, from left to right.  The first key without
a value ends the replacement; where all keys have values, the result has the shape of the value,
with its text leaves filled one by one.
-/

namespace Playbook

namespace Value

/-- Two values of one shape.  The text leaves of the second one come from those of the first, and
all other leaves are the same.  Sequences of any kind have become lists. -/
inductive Rewritten (leaf : String → String → Prop) : Value → Value → Prop where
  | text {s t : String} (replaced : leaf s t) : Rewritten leaf (.text s) (.text t)
  | sequence {v : Value} {items others : List Value} (ofItems : v.items? = some items)
      (each : List.Forall₂ (Rewritten leaf) items others) : Rewritten leaf v (.list others)
  | map {entries others : List (Value × Value)}
      (keys : others.map Prod.fst = entries.map Prod.fst)
      (each : List.Forall₂ (Rewritten leaf) (entries.map Prod.snd) (others.map Prod.snd)) :
      Rewritten leaf (.map entries) (.map others)
  | other {v : Value} (noText : v.text? = none) (noItems : v.items? = none)
      (noEntries : v.entries? = none) : Rewritten leaf v v

mutual

/-- A value with lists for its sequences of any kind. -/
def listed : Value → Value
  | .list items | .tuple items | .set items => .list (listedItems items)
  | .map entries => .map (listedEntries entries)
  | v => v

def listedItems : List Value → List Value
  | [] => []
  | v :: rest => listed v :: listedItems rest

def listedEntries : List (Value × Value) → List (Value × Value)
  | [] => []
  | (key, v) :: rest => (key, listed v) :: listedEntries rest

end

end Value

namespace PropertySet

open Fallible

variable {α β : Type} {properties : PropertySet} {step : Option Int}

/-! ## Keys without a value -/

/-- The first of some keys that has no value. -/
def firstUndefined (properties : PropertySet) (keys : List String) : Option String :=
  keys.find? fun key => !properties.contains key

theorem firstUndefined_eq_none_iff {keys : List String} :
    properties.firstUndefined keys = none ↔ ∀ key ∈ keys, properties.contains key = true := by
  simp [firstUndefined]

theorem firstUndefined_append (first second : List String) :
    properties.firstUndefined (first ++ second) =
      (properties.firstUndefined first).or (properties.firstUndefined second) :=
  List.find?_append

/-- Failing on the first of some keys that has no value, and on nothing else. -/
def FailsOnFirst (properties : PropertySet) (step : Option Int) (keys : List String)
    (computation : Fallible α) : Prop :=
  ∀ failure, computation = .error failure ↔
    ∃ key, properties.firstUndefined keys = some key ∧ failure = unresolved key step

namespace FailsOnFirst

variable {keys others : List String}

theorem ok (a : α) : FailsOnFirst properties step [] (.ok a) := by
  intro failure
  apply iff_of_false nofun
  rintro ⟨key, found, _⟩
  cases found

/-- Where a computation succeeds, all its keys have values. -/
theorem firstUndefined_of_ok {computation : Fallible α} {a : α}
    (fails : FailsOnFirst properties step keys computation) (success : computation = .ok a) :
    properties.firstUndefined keys = none := by
  cases found : properties.firstUndefined keys with
  | none => rfl
  | some key =>
      have failed := (fails _).mpr ⟨key, found, rfl⟩
      rw [success] at failed
      cases failed

theorem exists_ok_iff {computation : Fallible α}
    (fails : FailsOnFirst properties step keys computation) :
    (∃ a, computation = .ok a) ↔ ∀ key ∈ keys, properties.contains key = true := by
  rw [← firstUndefined_eq_none_iff]
  constructor
  · rintro ⟨a, success⟩
    exact fails.firstUndefined_of_ok success
  · intro defined
    cases ending : computation with
    | ok a => exact ⟨a, rfl⟩
    | error failure =>
        obtain ⟨key, found, _⟩ := (fails failure).mp ending
        rw [defined] at found
        cases found

theorem bind {first : Fallible α} {following : α → Fallible β}
    (fails : FailsOnFirst properties step keys first)
    (rest : ∀ a, FailsOnFirst properties step others (following a)) :
    FailsOnFirst properties step (keys ++ others) (first >>= following) := by
  intro failure
  rw [firstUndefined_append]
  cases ending : first with
  | ok a =>
      rw [fails.firstUndefined_of_ok ending]
      exact rest a failure
  | error other =>
      obtain ⟨key, found, rfl⟩ := (fails other).mp ending
      rw [found]
      constructor
      · intro same
        exact ⟨key, rfl, (Except.error.inj same).symm⟩
      · rintro ⟨other, same, rfl⟩
        cases same
        rfl

theorem map {computation : Fallible α} (fails : FailsOnFirst properties step keys computation)
    (f : α → β) : FailsOnFirst properties step keys (computation >>= fun a => pure (f a)) := by
  have both := fails.bind fun a => ok (f a)
  rwa [List.append_nil] at both

end FailsOnFirst

theorem fill_eq_error_iff (pieces : List Template.Piece) (key : String) :
    Template.fill properties.find? pieces = .error key ↔
      properties.firstUndefined (pieces.filterMap fun
        | .char _ => none
        | .placeholder name => some (String.ofList name)) = some key := by
  induction pieces with
  | nil => exact iff_of_false nofun nofun
  | cons piece rest ih =>
      cases piece with
      | char c => exact bind_pure_eq_error_iff.trans ih
      | placeholder name =>
          have defined := properties.isSome_find? (String.ofList name)
          unfold firstUndefined at ih ⊢
          rw [Template.fill, List.filterMap_cons, List.find?_cons]
          cases found : properties.find? (String.ofList name) with
          | none =>
              rw [found] at defined
              simp [← defined]
          | some value =>
              rw [found] at defined
              simp only [← defined, Option.isSome_some, Bool.not_true]
              exact bind_pure_eq_error_iff.trans ih

theorem failsOnFirst_resolveTemplate (s : String) :
    FailsOnFirst properties step (Template.keys s) (properties.resolveTemplate step s) := by
  intro failure
  have failsIff (key : String) : Template.fill properties.find? (Template.pieces s) = .error key ↔
      _ := fill_eq_error_iff (Template.pieces s) key
  unfold resolveTemplate
  cases ending : Template.fill properties.find? (Template.pieces s) with
  | ok cs =>
      apply iff_of_false nofun
      rintro ⟨key, found, _⟩
      have failed := (failsIff key).mpr found
      rw [ending] at failed
      cases failed
  | error key =>
      have found : properties.firstUndefined (Template.keys s) = some key :=
        (failsIff key).mp ending
      rw [found]
      simp [eq_comm]

mutual

theorem failsOnFirst_resolveValue (v : Value) :
    FailsOnFirst properties step v.references (properties.resolveValue step v) := by
  cases v with
  | text s => exact (failsOnFirst_resolveTemplate s).map _
  | list items | tuple items | set items => exact (failsOnFirst_resolveItems items).map _
  | map entries => exact (failsOnFirst_resolveEntries entries).map _
  | _ => exact FailsOnFirst.ok _

theorem failsOnFirst_resolveItems (items : List Value) :
    FailsOnFirst properties step (Value.itemReferences items)
      (properties.resolveItems step items) := by
  cases items with
  | nil => exact FailsOnFirst.ok _
  | cons v rest =>
      apply (failsOnFirst_resolveValue v).bind
      intro first
      exact (failsOnFirst_resolveItems rest).map _

theorem failsOnFirst_resolveEntries (entries : List (Value × Value)) :
    FailsOnFirst properties step (Value.entryReferences entries)
      (properties.resolveEntries step entries) := by
  cases entries with
  | nil => exact FailsOnFirst.ok _
  | cons entry rest =>
      apply (failsOnFirst_resolveValue entry.2).bind
      intro value
      exact (failsOnFirst_resolveEntries rest).map _

end

/-! ## Shapes of results -/

/-- A text as it is filled from properties. -/
def Fills (properties : PropertySet) (step : Option Int) (s t : String) : Prop :=
  properties.resolveTemplate step s = .ok t

mutual

theorem resolveValue_eq_ok_iff {v result : Value} :
    properties.resolveValue step v = .ok result ↔
      v.Rewritten (properties.Fills step) result := by
  cases v with
  | text s =>
      constructor
      · intro success
        obtain ⟨t, filled, same⟩ := bind_eq_ok_iff.mp success
        cases same
        exact .text filled
      · intro rewritten
        cases rewritten with
        | text filled => exact bind_eq_ok_iff.mpr ⟨_, filled, rfl⟩
        | sequence ofItems => cases ofItems
        | other noText => cases noText
  | list items | tuple items | set items =>
      constructor
      · intro success
        obtain ⟨others, each, same⟩ := bind_eq_ok_iff.mp success
        cases same
        exact .sequence rfl (resolveItems_eq_ok_iff.mp each)
      · intro rewritten
        cases rewritten with
        | sequence ofItems each =>
            cases ofItems
            exact bind_eq_ok_iff.mpr ⟨_, resolveItems_eq_ok_iff.mpr each, rfl⟩
        | other _ noItems => cases noItems
  | map entries =>
      constructor
      · intro success
        obtain ⟨others, each, same⟩ := bind_eq_ok_iff.mp success
        cases same
        obtain ⟨keys, values⟩ := resolveEntries_eq_ok_iff.mp each
        exact .map keys values
      · intro rewritten
        cases rewritten with
        | sequence ofItems => cases ofItems
        | map keys values =>
            exact bind_eq_ok_iff.mpr ⟨_, resolveEntries_eq_ok_iff.mpr ⟨keys, values⟩, rfl⟩
        | other _ _ noEntries => cases noEntries
  | _ =>
      constructor
      · intro success
        cases success
        exact .other rfl rfl rfl
      · intro rewritten
        cases rewritten with
        | sequence ofItems => cases ofItems
        | other => rfl

theorem resolveItems_eq_ok_iff {items results : List Value} :
    properties.resolveItems step items = .ok results ↔
      List.Forall₂ (Value.Rewritten (properties.Fills step)) items results := by
  cases items with
  | nil =>
      rw [List.forall₂_nil_left_iff]
      exact ⟨fun success => (Except.ok.inj success).symm, fun same => same.symm ▸ rfl⟩
  | cons v rest =>
      rw [List.forall₂_cons_left_iff]
      constructor
      · intro success
        obtain ⟨first, here, success⟩ := bind_eq_ok_iff.mp success
        obtain ⟨others, later, same⟩ := bind_eq_ok_iff.mp success
        cases same
        exact ⟨first, others, resolveValue_eq_ok_iff.mp here, resolveItems_eq_ok_iff.mp later, rfl⟩
      · rintro ⟨first, others, here, later, rfl⟩
        exact bind_eq_ok_iff.mpr ⟨first, resolveValue_eq_ok_iff.mpr here,
          bind_eq_ok_iff.mpr ⟨others, resolveItems_eq_ok_iff.mpr later, rfl⟩⟩

theorem resolveEntries_eq_ok_iff {entries results : List (Value × Value)} :
    properties.resolveEntries step entries = .ok results ↔
      results.map Prod.fst = entries.map Prod.fst ∧
        List.Forall₂ (Value.Rewritten (properties.Fills step)) (entries.map Prod.snd)
          (results.map Prod.snd) := by
  cases entries with
  | nil =>
      rw [List.map_nil, List.map_eq_nil_iff, List.map_nil, List.forall₂_nil_left_iff,
        List.map_eq_nil_iff, and_self]
      exact ⟨fun success => (Except.ok.inj success).symm, fun same => same.symm ▸ rfl⟩
  | cons entry rest =>
      constructor
      · intro success
        obtain ⟨value, here, success⟩ := bind_eq_ok_iff.mp success
        obtain ⟨others, later, same⟩ := bind_eq_ok_iff.mp success
        cases same
        obtain ⟨keys, values⟩ := resolveEntries_eq_ok_iff.mp later
        exact ⟨congrArg (entry.1 :: ·) keys, .cons (resolveValue_eq_ok_iff.mp here) values⟩
      · rintro ⟨keys, values⟩
        obtain ⟨⟨key, value⟩, others, rfl⟩ :=
          List.exists_cons_of_ne_nil (l := results) (by rintro rfl; cases keys)
        obtain ⟨rfl, later⟩ := List.cons_eq_cons.mp keys
        cases values with
        | cons here values =>
            exact bind_eq_ok_iff.mpr ⟨value, resolveValue_eq_ok_iff.mpr here, bind_eq_ok_iff.mpr
              ⟨others, resolveEntries_eq_ok_iff.mpr ⟨later, values⟩, rfl⟩⟩

end

mutual

/-- Where a value has no placeholders, only the kinds of its sequences change. -/
theorem resolveValue_of_references_eq_nil {v : Value} (closed : v.references = []) :
    properties.resolveValue step v = .ok v.listed := by
  cases v with
  | text s =>
      rw [resolveValue, resolveTemplate_of_keys_eq_nil closed]
      rfl
  | list items | tuple items | set items =>
      rw [resolveValue, resolveItems_of_references_eq_nil closed]
      rfl
  | map entries =>
      rw [resolveValue, resolveEntries_of_references_eq_nil closed]
      rfl
  | _ => rfl

theorem resolveItems_of_references_eq_nil {items : List Value}
    (closed : Value.itemReferences items = []) :
    properties.resolveItems step items = .ok (Value.listedItems items) := by
  cases items with
  | nil => rfl
  | cons v rest =>
      obtain ⟨here, later⟩ := List.append_eq_nil_iff.mp closed
      rw [resolveItems, resolveValue_of_references_eq_nil here,
        resolveItems_of_references_eq_nil later]
      rfl

theorem resolveEntries_of_references_eq_nil {entries : List (Value × Value)}
    (closed : Value.entryReferences entries = []) :
    properties.resolveEntries step entries = .ok (Value.listedEntries entries) := by
  cases entries with
  | nil => rfl
  | cons entry rest =>
      obtain ⟨here, later⟩ := List.append_eq_nil_iff.mp closed
      rw [resolveEntries, resolveValue_of_references_eq_nil here,
        resolveEntries_of_references_eq_nil later]
      rfl

end

/-- Substitution succeeds if and only if every key of a placeholder in a text leaf has a value, and
fails on the first one, in the order of the document, that has none.  What it succeeds with has the
shape of the value: keys as they are, text leaves filled one by one, all other leaves as they are. A
value without placeholders stays as it is, but for its sequences. -/
theorem resolveValue_substitutes (properties : PropertySet) (step : Option Int) (v : Value) :
    ((∃ result, properties.resolveValue step v = .ok result) ↔
      ∀ key ∈ v.references, properties.contains key = true) ∧
    (∀ failure, properties.resolveValue step v = .error failure ↔
      ∃ key, properties.firstUndefined v.references = some key ∧
        failure = unresolved key step) ∧
    (∀ result, properties.resolveValue step v = .ok result ↔
      v.Rewritten (properties.Fills step) result) ∧
    (v.references = [] → properties.resolveValue step v = .ok v.listed) := by
  have fails : FailsOnFirst properties step v.references (properties.resolveValue step v) :=
    failsOnFirst_resolveValue v
  exact ⟨fails.exists_ok_iff, fails, fun _ => resolveValue_eq_ok_iff,
    resolveValue_of_references_eq_nil⟩

end PropertySet

end Playbook
