import Mathlib.Data.List.Nodup
import Playbook.Proofs.ParameterNames

/-!
# Keys of parameters

The names and aliases of all parameters of a schema share one space of keys with the reserved names.
Compiling goes through them in order of declaration and stops at the first key that is taken; if
every key is free, each parameter has its field, and no key is one of two fields.
-/

namespace Playbook

namespace Schema

open Fallible

/-- All names and aliases in order of declaration, a name in front of its aliases. -/
def keys (schema : Schema) : List String :=
  schema.flatMap fun entry => entry.1 :: entry.2.aliases

/-- All names and aliases, each with its parameter: what a key clashes as if it is not free. -/
def claims (schema : Schema) : List Clash :=
  schema.flatMap fun entry => (entry.1 :: entry.2.aliases).map fun key => ⟨key, entry.1⟩

/-- Keys that can be given away: none of them is taken, and none is given twice. -/
structure Free (taken keys : List String) : Prop where
  fresh : ∀ key ∈ keys, key ∉ taken
  distinct : keys.Nodup

/-- A key that is taken, or given before, behind keys that are free. -/
def ClashesFirst (taken : List String) (claims : List Clash) (clash : Clash) : Prop :=
  ∃ earlier later, claims = earlier ++ clash :: later ∧ Free taken (earlier.map Clash.key) ∧
    (clash.key ∈ taken ∨ clash.key ∈ earlier.map Clash.key)

variable {flavour : Flavour} {schema : Schema} {taken : List String} {key parameter : String}
variable {clash claimed : Clash} {later : List Clash}

theorem map_key_claims (schema : Schema) : schema.claims.map Clash.key = schema.keys := by
  unfold claims keys
  rw [List.map_flatMap]
  simp [Function.comp_def]

theorem free_nil (taken : List String) : Free taken [] :=
  ⟨List.forall_mem_nil _, List.nodup_nil⟩

/-- A key that has been given is taken for the ones behind it. -/
theorem free_cons_iff {others : List String} :
    Free taken (key :: others) ↔ key ∉ taken ∧ Free (key :: taken) others := by
  constructor
  · intro free
    obtain ⟨fresh, others⟩ := List.forall_mem_cons.mp free.fresh
    obtain ⟨single, distinct⟩ := List.nodup_cons.mp free.distinct
    refine ⟨fresh, fun other member => ?_, distinct⟩
    rintro (_ | ⟨_, present⟩)
    · exact single member
    · exact others other member present
  · rintro ⟨fresh, free⟩
    constructor
    · intro other member present
      rcases List.mem_cons.mp member with rfl | member
      · exact fresh present
      · exact free.fresh other member (List.mem_cons_of_mem key present)
    · exact List.nodup_cons.mpr
        ⟨fun member => free.fresh key member List.mem_cons_self, free.distinct⟩

theorem clashesFirst_cons_iff : ClashesFirst taken (claimed :: later) clash ↔
    (claimed.key ∈ taken ∧ clash = claimed) ∨
      claimed.key ∉ taken ∧ ClashesFirst (claimed.key :: taken) later clash := by
  constructor
  · rintro ⟨earlier, behind, same, free, clashes⟩
    cases earlier with
    | nil =>
        cases same
        exact .inl ⟨clashes.resolve_right List.not_mem_nil, rfl⟩
    | cons first earlier =>
        cases same
        obtain ⟨fresh, free⟩ := free_cons_iff.mp free
        refine .inr ⟨fresh, earlier, behind, rfl, free, ?_⟩
        rcases clashes with isTaken | given
        · exact .inl (List.mem_cons_of_mem _ isTaken)
        · rcases List.mem_cons.mp given with same | given
          · exact .inl (same ▸ List.mem_cons_self)
          · exact .inr given
  · rintro (⟨isTaken, rfl⟩ | ⟨fresh, earlier, behind, rfl, free, clashes⟩)
    · exact ⟨[], later, rfl, free_nil taken, .inl isTaken⟩
    · refine ⟨claimed :: earlier, behind, rfl, free_cons_iff.mpr ⟨fresh, free⟩, ?_⟩
      rcases clashes with isTaken | given
      · rcases List.mem_cons.mp isTaken with same | isTaken
        · exact .inr (same ▸ List.mem_cons_self)
        · exact .inl isTaken
      · exact .inr (List.mem_cons_of_mem _ given)

/-- Keys clash unless all of them are free. -/
theorem exists_clashesFirst_iff {claims : List Clash} :
    (∃ clash, ClashesFirst taken claims clash) ↔ ¬Free taken (claims.map Clash.key) := by
  induction claims generalizing taken with
  | nil =>
      apply iff_of_false
      · rintro ⟨clash, earlier, later, same, _⟩
        simp at same
      · exact not_not_intro (free_nil taken)
  | cons claimed later ih =>
      rw [List.map_cons, free_cons_iff, not_and, ← ih]
      simp only [clashesFirst_cons_iff]
      by_cases isTaken : claimed.key ∈ taken
      · exact iff_of_true ⟨claimed, .inl ⟨isTaken, rfl⟩⟩ fun fresh => absurd isTaken fresh
      · simp [isTaken]

/-! ## Compiling -/

/-- Once a parameter has got its keys, the first clash is one of the parameters behind it. -/
theorem clashesFirst_of_claim {keys after : List String}
    (claimedAll : claim parameter taken keys = .ok after) :
    ClashesFirst taken (keys.map (⟨·, parameter⟩) ++ later) clash ↔
      ClashesFirst after later clash := by
  induction keys generalizing taken with
  | nil =>
      cases claimedAll
      rfl
  | cons key rest ih =>
      unfold claim at claimedAll
      split at claimedAll
      · cases claimedAll
      · rename_i fresh
        rw [List.contains_iff_mem] at fresh
        rw [List.map_cons, List.cons_append, clashesFirst_cons_iff, ih claimedAll]
        simp [fresh]

/-- A parameter that cannot get its keys has the first clash. -/
theorem clashesFirst_of_refused {keys : List String} {found : Clash}
    (refused : claim parameter taken keys = .error found) :
    ClashesFirst taken (keys.map (⟨·, parameter⟩) ++ later) clash ↔ clash = found := by
  induction keys generalizing taken with
  | nil => cases refused
  | cons key rest ih =>
      unfold claim at refused
      rw [List.map_cons, List.cons_append, clashesFirst_cons_iff]
      split at refused
      · rename_i isTaken
        rw [List.contains_iff_mem] at isTaken
        cases refused
        simp [isTaken]
      · rename_i fresh
        rw [List.contains_iff_mem] at fresh
        rw [ih refused]
        simp [fresh]

theorem fieldsFrom_eq_error_iff :
    fieldsFrom flavour taken schema = .error clash ↔ ClashesFirst taken schema.claims clash := by
  induction schema generalizing taken with
  | nil =>
      apply iff_of_false nofun
      rintro ⟨earlier, later, same, _⟩
      simp [claims] at same
  | cons entry rest ih =>
      obtain ⟨name, parameter⟩ := entry
      change _ ↔ ClashesFirst taken
        ((name :: parameter.aliases).map (⟨·, name⟩) ++ claims rest) clash
      rw [fieldsFrom]
      cases claiming : claim name taken (name :: parameter.aliases) with
      | error found =>
          rw [clashesFirst_of_refused claiming]
          exact ⟨fun failed => (Except.error.inj failed).symm, fun same => congrArg _ same.symm⟩
      | ok after =>
          rw [clashesFirst_of_claim claiming, ← ih, ok_bind]
          exact bind_pure_eq_error_iff

theorem fields_eq_error_iff :
    schema.fields flavour = .error clash ↔ ClashesFirst reservedNames schema.claims clash :=
  fieldsFrom_eq_error_iff

/-- A schema compiles if and only if its keys are free, and then every parameter has its field. -/
theorem fields_eq_ok_iff {fields : List ParameterField} : schema.fields flavour = .ok fields ↔
    Free reservedNames schema.keys ∧
      fields = schema.map fun entry => field flavour entry.1 entry.2 := by
  have clashes : (∃ clash, schema.fields flavour = .error clash) ↔
      ¬Free reservedNames schema.keys := by
    simp only [fields_eq_error_iff, exists_clashesFirst_iff, map_key_claims]
  cases compiling : schema.fields flavour with
  | error clash =>
      apply iff_of_false nofun
      rintro ⟨free, _⟩
      exact clashes.mp ⟨clash, compiling⟩ free
  | ok made =>
      have free : Free reservedNames schema.keys := by
        by_contra unfree
        obtain ⟨clash, failed⟩ := clashes.mpr unfree
        rw [compiling] at failed
        cases failed
      rw [← eq_map_field_of_fieldsFrom compiling]
      constructor
      · intro same
        exact ⟨free, (Except.ok.inj same).symm⟩
      · rintro ⟨_, rfl⟩
        rfl

theorem not_free_iff {taken keys : List String} :
    ¬Free taken keys ↔ ∃ key ∈ keys, key ∈ taken ∨ 1 < keys.count key := by
  constructor
  · intro unfree
    by_contra free
    apply unfree
    constructor
    · intro key member isTaken
      exact free ⟨key, member, .inl isTaken⟩
    · apply List.nodup_iff_count_le_one.mpr
      intro key
      by_contra repeated
      have twice : 1 < keys.count key := Nat.lt_of_not_le repeated
      exact free ⟨key, List.count_pos_iff.mp (Nat.zero_lt_of_lt twice), .inr twice⟩
  · rintro ⟨key, member, isTaken | repeated⟩ free
    · exact free.fresh key member isTaken
    · exact absurd (List.nodup_iff_count_le_one.mp free.distinct key) (Nat.not_le_of_lt repeated)

end Schema

theorem Capability.nodup_keys_of_compile {declared : Capability} {plugin : Option String}
    {operation : Operation} (compiled : declared.compile plugin = .ok operation) :
    (operation.signature.fields.flatMap (·.keys)).Nodup ∧
      (operation.form.fields.flatMap (·.keys)).Nodup := by
  obtain ⟨loose, looseFields, _⟩ := Fallible.bind_eq_ok_iff.mp compiled
  obtain ⟨free, _⟩ := Schema.fields_eq_ok_iff.mp looseFields
  obtain ⟨signature, form, _⟩ := fields_of_compile compiled
  rw [signature, form, List.flatMap_map, List.flatMap_map]
  exact ⟨free.distinct, free.distinct⟩

namespace Schema

/-- A schema compiles, in either flavour, if and only if its names and aliases are not reserved and
each of them is there once; otherwise the first one that is not free is the error. -/
theorem fields_unambiguous (schema : Schema) :
    (∀ flavour, (∃ clash, schema.fields flavour = .error clash) ↔
        ∃ key ∈ schema.keys, key ∈ reservedNames ∨ 1 < schema.keys.count key) ∧
      (∀ flavour message, (schema.fields flavour).mapError Clash.message = .error message ↔
        ∃ key parameter, ClashesFirst reservedNames schema.claims ⟨key, parameter⟩ ∧
          message = "parameter name \x60" ++ key ++ "\x60 of \x60" ++ parameter ++
            "\x60 is used twice") ∧
      (∀ flavour fields, schema.fields flavour = .ok fields ↔
        (∀ key ∈ schema.keys, key ∉ reservedNames) ∧ schema.keys.Nodup ∧
          fields = schema.map fun entry => field flavour entry.1 entry.2) ∧
      ∀ (declared : Capability) (plugin : Option String) (operation : Operation),
        declared.parameters = schema → declared.compile plugin = .ok operation →
        (operation.signature.fields.flatMap (·.keys)).Nodup ∧
          (operation.form.fields.flatMap (·.keys)).Nodup := by
  refine ⟨?_, ?_, ?_, fun _ _ _ _ compiled => Capability.nodup_keys_of_compile compiled⟩
  · intro flavour
    simp only [fields_eq_error_iff, exists_clashesFirst_iff, map_key_claims, not_free_iff]
  · intro flavour message
    rw [Fallible.mapError_eq_error_iff]
    constructor
    · rintro ⟨⟨key, parameter⟩, failed, rfl⟩
      exact ⟨key, parameter, fields_eq_error_iff.mp failed, rfl⟩
    · rintro ⟨key, parameter, clashes, rfl⟩
      exact ⟨⟨key, parameter⟩, fields_eq_error_iff.mpr clashes, rfl⟩
  · intro flavour fields
    rw [fields_eq_ok_iff, ← and_assoc]
    exact and_congr_left fun _ =>
      ⟨fun free => ⟨free.fresh, free.distinct⟩, fun ⟨fresh, distinct⟩ => ⟨fresh, distinct⟩⟩

/-- A pause under two keys, and a second parameter that wants the second one of them. -/
theorem fields_unambiguous_pause :
    let pause : Schema :=
      [("duration", { type := .integer, aliases := ["ms"], required := true })]
    let clashing : Schema := pause ++ [("delay", { aliases := ["ms"] })]
    let declared : Capability :=
      { name := "pause", parameters := pause, behaviour := fun _ _ => { result := .ok .null } }
    (∃ clash, clashing.fields .typed = .error clash) ∧
      (clashing.fields .loose).mapError Clash.message =
        .error "parameter name \x60ms\x60 of \x60delay\x60 is used twice" ∧
      ∃ operation, declared.compile none = .ok operation ∧
        (operation.form.fields.flatMap (·.keys)).Nodup := by
  intro pause clashing declared
  have first : ClashesFirst reservedNames clashing.claims ⟨"ms", "delay"⟩ :=
    ⟨[⟨"duration", "duration"⟩, ⟨"ms", "duration"⟩, ⟨"delay", "delay"⟩], [], rfl,
      ⟨by decide, by decide⟩, .inr (by decide)⟩
  obtain ⟨refused, message, _⟩ := fields_unambiguous clashing
  refine ⟨(refused .typed).mpr ⟨"ms", by decide, .inr (by decide)⟩,
    (message .loose _).mpr ⟨"ms", "delay", first, rfl⟩, _, rfl, ?_⟩
  exact ((fields_unambiguous pause).2.2.2 declared none _ rfl rfl).2

end Schema

end Playbook
