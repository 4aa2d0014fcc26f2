import Mathlib.Data.List.Pairwise
import Playbook.Proofs.AssertionDocuments
import Playbook.Proofs.ParameterKeys

/-!
# Parameters under other keys

A parameter may be given under its name or any of its aliases.  Moving its value from one of these
keys to another one moves it past no other field, since no key is one of two fields, and does not
make it an undeclared parameter; so both forms of an operation read the same parameters.
-/

namespace Playbook

namespace Field

open Fallible

variable {entries rest : List (Value × Value)} {keys : List String} {key name : String} {v : Value}

/-- A mapping that holds one of some keys, and entries beside it with other keys.  A key that is
read as one of the keys counts as this one. -/
structure HoldsOne (keys : List String) (key : String) (v : Value)
    (rest entries : List (Value × Value)) : Prop where
  isKey : key ∈ keys
  held : ∃ front back, entries = front ++ (.text key, v) :: back ∧ rest = front ++ back
  others : ∀ entry ∈ rest, ∀ name, text entry.1 = .ok name → name ∉ keys

/-- An entry under a used key is no extra. -/
theorem noExtras_insert {used : List String} {k : Value} (read : text k = .ok name)
    (isUsed : name ∈ used) (front back : List (Value × Value)) :
    noExtras used (front ++ (k, v) :: back) = noExtras used (front ++ back) := by
  induction front with
  | nil =>
      rw [List.nil_append, noExtras, read]
      exact if_pos (List.contains_iff_mem.mpr isUsed)
  | cons entry front ih => rw [List.cons_append, List.cons_append, noExtras, noExtras, ih]

theorem extras_insert {used : List String} {k : Value} (read : text k = .ok name)
    (isUsed : name ∈ used) (front back : List (Value × Value)) :
    extras used (front ++ (k, v) :: back) = extras used (front ++ back) := by
  induction front with
  | nil =>
      rw [List.nil_append, List.nil_append, extras, read]
      simp [isUsed]
  | cons entry front ih => rw [List.cons_append, List.cons_append, extras, extras, ih]

theorem contains_congr {used others : List String} (same : name ∈ used ↔ name ∈ others) :
    used.contains name = others.contains name := by
  rw [Bool.eq_iff_iff, List.contains_iff_mem, List.contains_iff_mem]
  exact same

/-- Which entries are extras depends on the used ones of their own keys only. -/
theorem noExtras_congr {used others : List String}
    (same : ∀ entry ∈ entries, ∀ name, text entry.1 = .ok name → (name ∈ used ↔ name ∈ others)) :
    noExtras used entries = noExtras others entries := by
  induction entries with
  | nil => rfl
  | cons entry rest ih =>
      obtain ⟨here, later⟩ := List.forall_mem_cons.mp same
      rw [noExtras, noExtras, ih later]
      cases read : text entry.1 with
      | error issue => rfl
      | ok name =>
          dsimp only
          rw [contains_congr (here name read)]

theorem extras_congr {used others : List String}
    (same : ∀ entry ∈ entries, ∀ name, text entry.1 = .ok name → (name ∈ used ↔ name ∈ others)) :
    extras used entries = extras others entries := by
  induction entries with
  | nil => rfl
  | cons entry rest ih =>
      obtain ⟨here, later⟩ := List.forall_mem_cons.mp same
      rw [extras, extras, ih later]
      cases read : text entry.1 with
      | error issue => rfl
      | ok name =>
          dsimp only
          rw [contains_congr (here name read)]

/-- An extra comes from an entry whose key is read as its name. -/
theorem exists_mem_of_mem_extras {used : List String} {unused : List (String × Value)}
    (success : extras used entries = .ok unused) {extra : String × Value}
    (member : extra ∈ unused) : ∃ entry ∈ entries, text entry.1 = .ok extra.1 := by
  induction entries generalizing unused with
  | nil =>
      cases success
      cases member
  | cons entry rest ih =>
      unfold extras at success
      cases read : text entry.1 with
      | error issue =>
          rw [read] at success
          cases success
      | ok name =>
          rw [read] at success
          obtain ⟨others, inRest, success⟩ := bind_eq_ok_iff.mp success
          have later (member : extra ∈ others) :
              ∃ other ∈ entry :: rest, text other.1 = .ok extra.1 := by
            obtain ⟨other, otherMember, sameName⟩ := ih inRest member
            exact ⟨other, List.mem_cons_of_mem entry otherMember, sameName⟩
          split at success <;> cases success
          · exact later member
          · rcases List.mem_cons.mp member with rfl | member
            · exact ⟨entry, List.mem_cons_self, read⟩
            · exact later member

namespace HoldsOne

variable (holds : HoldsOne keys key v rest entries)
include holds

theorem field?_rest (member : name ∈ keys) : Value.field? name rest = none := by
  by_contra found
  obtain ⟨w, found⟩ := Option.ne_none_iff_exists'.mp found
  obtain ⟨entry, entryMember, same, _⟩ := Ordered.exists_mem_of_find? found
  have read : text entry.1 = .ok name := by
    rw [Value.beq_text_iff.mp same]
    rfl
  exact holds.others entry entryMember name read member

theorem field?_of_ne (other : name ≠ key) : Value.field? name entries = Value.field? name rest := by
  obtain ⟨front, back, rfl, rfl⟩ := holds.held
  have unequal : (Value.text key == Value.text name) = false := by
    rw [Bool.eq_false_iff]
    exact fun same => other (Value.text.inj (Value.beq_text_iff.mp same)).symm
  unfold Value.field?
  rw [Ordered.find?_append, Ordered.find?_append, Ordered.find?, unequal]
  rfl

theorem field?_self : Value.field? key entries = some v := by
  have beside := holds.field?_rest holds.isKey
  obtain ⟨front, back, rfl, rfl⟩ := holds.held
  unfold Value.field? at beside ⊢
  rw [Ordered.find?_append, Option.or_eq_none_iff] at beside
  rw [Ordered.find?_append, beside.1, Ordered.find?, Value.beq_text_iff.mpr rfl]
  rfl

/-- A field with these keys reads the one that is held. -/
theorem lookup?_self : lookup? entries keys = some (key, v) := by
  have among : ∀ names ⊆ keys, key ∈ names → lookup? entries names = some (key, v) := by
    intro names subset member
    induction names with
    | nil => cases member
    | cons name names ih =>
        obtain ⟨here, subset⟩ := List.cons_subset.mp subset
        by_cases same : name = key
        · rw [lookup?, same, holds.field?_self]
        · rw [lookup?, holds.field?_of_ne same, holds.field?_rest here]
          exact ih subset ((List.mem_cons.mp member).resolve_left (Ne.symm same))
  exact among keys (List.Subset.refl keys) holds.isKey

/-- A field with other keys does not see it. -/
theorem lookup?_of_disjoint {names : List String} (apart : names.Disjoint keys) :
    lookup? entries names = lookup? rest names := by
  apply Step.lookup?_congr
  intro name member
  apply holds.field?_of_ne
  rintro rfl
  exact apart member holds.isKey

/-- Of the keys beside the one that is held, the same ones are used with and without it. -/
theorem mem_usedNames_iff {fields : List (List String)}
    (apart : ∀ names ∈ fields, names = keys ∨ names.Disjoint keys) (other : name ∉ keys) :
    name ∈ usedNames entries fields ↔ name ∈ usedNames rest fields := by
  unfold usedNames
  rw [List.mem_filterMap, List.mem_filterMap]
  apply exists_congr
  intro names
  apply and_congr_right
  intro member
  rcases apart names member with rfl | disjoint
  · rw [map_fst_lookup?, map_fst_lookup?]
    exact iff_of_false (fun found => other (List.mem_of_find?_eq_some found))
      fun found => other (List.mem_of_find?_eq_some found)
  · rw [holds.lookup?_of_disjoint disjoint]

theorem mem_usedNames_self {fields : List (List String)} (member : keys ∈ fields) :
    key ∈ usedNames entries fields := by
  unfold usedNames
  exact List.mem_filterMap.mpr ⟨keys, member, by rw [holds.lookup?_self]; rfl⟩

end HoldsOne

end Field

namespace Form

open Playbook.Field Fallible

variable {form : Form} {field : ParameterField} {key other : String} {v : Value}
variable {rest entries moved : List (Value × Value)}

/-- Where no key is one of two fields, the keys of two fields are the same or have nothing in
common. -/
theorem eq_or_disjoint_of_nodup {fields : List ParameterField}
    (distinct : (fields.flatMap (·.keys)).Nodup) {first second : ParameterField}
    (isFirst : first ∈ fields) (isSecond : second ∈ fields) :
    first = second ∨ first.keys.Disjoint second.keys := by
  obtain ⟨_, apart⟩ := List.nodup_flatMap.mp distinct
  have symmetric : Std.Symm (Function.onFun List.Disjoint ParameterField.keys) :=
    ⟨fun _ _ => List.disjoint_symm⟩
  by_cases same : first = second
  · exact .inl same
  · exact .inr (apart.forall isFirst isSecond same)

/-- The field of a parameter that is held reads its value. -/
theorem readFrom_self_eq_ok_iff (holds : HoldsOne field.keys key v rest entries) {w : Value} :
    field.readFrom entries = .ok w ↔ field.read v = .ok w := by
  unfold ParameterField.readFrom withDefault required
  rw [holds.lookup?_self]
  split <;> exact mapError_eq_ok_iff

section Held

variable (distinct : (form.fields.flatMap (·.keys)).Nodup) (member : field ∈ form.fields)
  (holds : HoldsOne field.keys key v rest entries)
include distinct member holds

/-- Undeclared parameters are the ones of the entries beside a declared parameter. -/
theorem readUndeclared_eq : form.readUndeclared entries = form.readUndeclared rest := by
  have apart : ∀ names ∈ form.fields.map (·.keys), names = field.keys ∨
      names.Disjoint field.keys := by
    intro names namesMember
    obtain ⟨other, otherMember, rfl⟩ := List.mem_map.mp namesMember
    exact (eq_or_disjoint_of_nodup distinct otherMember member).imp_left (congrArg _)
  have isUsed := holds.mem_usedNames_self (List.mem_map_of_mem member)
  have same : ∀ entry ∈ rest, ∀ name, text entry.1 = .ok name →
      (name ∈ usedNames entries (form.fields.map (·.keys)) ↔
        name ∈ usedNames rest (form.fields.map (·.keys))) :=
    fun entry entryMember name read =>
      holds.mem_usedNames_iff apart (holds.others entry entryMember name read)
  have noExtra := noExtras_congr same
  have sameExtras := extras_congr same
  obtain ⟨front, back, split, rfl⟩ := holds.held
  unfold readUndeclared
  dsimp only
  rw [← noExtra, ← sameExtras]
  generalize usedNames entries (form.fields.map (·.keys)) = used at isUsed
  rw [split, noExtras_insert rfl isUsed, extras_insert rfl isUsed]

theorem readFrom_of_ne {second : ParameterField} (secondMember : second ∈ form.fields)
    (different : second ≠ field) : second.readFrom entries = second.readFrom rest := by
  have disjoint :=
    (eq_or_disjoint_of_nodup distinct secondMember member).resolve_left different
  unfold ParameterField.readFrom withDefault required
  rw [holds.lookup?_of_disjoint disjoint]

end Held

section Moved

variable (distinct : (form.fields.flatMap (·.keys)).Nodup) (member : field ∈ form.fields)
  (holds : HoldsOne field.keys key v rest entries) (moves : HoldsOne field.keys other v rest moved)
include distinct member holds moves

theorem readFrom_moved_eq_ok_iff {second : ParameterField} (secondMember : second ∈ form.fields)
    {w : Value} : second.readFrom entries = .ok w ↔ second.readFrom moved = .ok w := by
  by_cases same : second = field
  · rw [same, readFrom_self_eq_ok_iff holds, readFrom_self_eq_ok_iff moves]
  · rw [readFrom_of_ne distinct member holds secondMember same,
      readFrom_of_ne distinct member moves secondMember same]

theorem readAll_moved_eq_ok_iff {params : List (String × Value)} :
    ParameterField.readAll entries form.fields = .ok params ↔
      ParameterField.readAll moved form.fields = .ok params := by
  have each : ∀ second ∈ form.fields, ∀ w,
      second.readFrom entries = .ok w ↔ second.readFrom moved = .ok w :=
    fun second secondMember w => readFrom_moved_eq_ok_iff distinct member holds moves secondMember
  generalize form.fields = fields at each
  induction fields generalizing params with
  | nil => rfl
  | cons first later ih =>
      obtain ⟨here, each⟩ := List.forall_mem_cons.mp each
      rw [ParameterField.readAll, ParameterField.readAll, bind_eq_ok_iff, bind_eq_ok_iff]
      simp only [here, bind_eq_ok_iff, ih each]

/-- The same parameters are read from a mapping in which the value of one of them has been moved to
another one of its keys. -/
theorem read_moved_eq_ok_iff {params : List (String × Value)} :
    form.read (.map entries) = .ok params ↔ form.read (.map moved) = .ok params := by
  have undeclared : form.readUndeclared entries = form.readUndeclared moved :=
    (readUndeclared_eq distinct member holds).trans (readUndeclared_eq distinct member moves).symm
  have declared : ∀ params, ParameterField.readAll entries form.fields = .ok params ↔
      ParameterField.readAll moved form.fields = .ok params :=
    fun _ => readAll_moved_eq_ok_iff distinct member holds moves
  unfold read
  simp only [recordEntries, ok_bind, bind_eq_ok_iff, declared, undeclared]

end Moved

end Form

namespace ParameterField

open Fallible

variable {entries : List (Value × Value)}

/-- Fields are read one by one, each under its name. -/
theorem forall₂_of_readAll {fields : List ParameterField} {params : List (String × Value)}
    (success : readAll entries fields = .ok params) :
    List.Forall₂ (fun field param => field.name = param.1 ∧ field.readFrom entries = .ok param.2)
      fields params := by
  induction fields generalizing params with
  | nil =>
      cases success
      exact .nil
  | cons field later ih =>
      obtain ⟨v, first, success⟩ := bind_eq_ok_iff.mp success
      obtain ⟨others, further, same⟩ := bind_eq_ok_iff.mp success
      cases same
      exact .cons ⟨rfl, first⟩ (ih further)

theorem map_fst_of_readAll {fields : List ParameterField} {params : List (String × Value)}
    (success : readAll entries fields = .ok params) :
    params.map Prod.fst = fields.map ParameterField.name := by
  have each := forall₂_of_readAll success
  clear success
  induction each with
  | nil => rfl
  | cons here _ ih => rw [List.map_cons, List.map_cons, ih, here.1]

theorem exists_mem_of_readAll {fields : List ParameterField} {params : List (String × Value)}
    (success : readAll entries fields = .ok params) {field : ParameterField}
    (member : field ∈ fields) :
    ∃ held, field.readFrom entries = .ok held ∧ (field.name, held) ∈ params := by
  have each := forall₂_of_readAll success
  clear success
  induction each with
  | nil => cases member
  | @cons first param _ _ here _ ih =>
      rcases List.mem_cons.mp member with rfl | later
      · exact ⟨param.2, here.2, by rw [here.1]; exact List.mem_cons_self⟩
      · obtain ⟨held, read, isParam⟩ := ih later
        exact ⟨held, read, List.mem_cons_of_mem param isParam⟩

end ParameterField

namespace Form

open Playbook.Field Fallible

variable {form : Form} {field : ParameterField} {key : String} {v : Value}
variable {rest entries : List (Value × Value)}

/-- No key of a parameter that is held is the name of an undeclared one. -/
theorem not_mem_undeclared (holds : HoldsOne field.keys key v rest entries)
    {undeclared : List (String × Value)} (success : form.readUndeclared rest = .ok undeclared)
    {name : String} (isKey : name ∈ field.keys) : name ∉ undeclared.map Prod.fst := by
  intro member
  obtain ⟨extra, extraMember, rfl⟩ := List.mem_map.mp member
  have fromRest : ∃ entry ∈ rest, text entry.1 = .ok extra.1 := by
    unfold readUndeclared at success
    dsimp only at success
    split at success
    · obtain ⟨_, _, same⟩ := bind_eq_ok_iff.mp success
      cases same
      cases extraMember
    · obtain ⟨unused, unusedOf, success⟩ := bind_eq_ok_iff.mp success
      split at success
      · cases success
      · cases success
        exact exists_mem_of_mem_extras unusedOf extraMember
  obtain ⟨entry, entryMember, read⟩ := fromRest
  exact holds.others entry entryMember extra.1 read isKey

section Named

variable (distinct : (form.fields.flatMap (·.keys)).Nodup)
  (named : ∀ field ∈ form.fields, field.name ∈ field.keys)
include distinct named

theorem nodup_names : (form.fields.map ParameterField.name).Nodup := by
  obtain ⟨_, apart⟩ := List.nodup_flatMap.mp distinct
  apply List.pairwise_map.mpr
  apply apart.imp_of_mem
  intro first second isFirst isSecond disjoint same
  exact disjoint (named first isFirst) (same ▸ named second isSecond)

/-- What is read for a parameter that is held stands under the name of the parameter, and nothing
stands under its other keys. -/
theorem find?_of_read (member : field ∈ form.fields)
    (holds : HoldsOne field.keys key v rest entries) {params : List (String × Value)}
    (success : form.read (.map entries) = .ok params) :
    (∃ held, field.read v = .ok held ∧ Ordered.find? field.name params = some held) ∧
      ∀ other ∈ field.keys, other ≠ field.name → Ordered.find? other params = none := by
  obtain ⟨_, same, success⟩ := bind_eq_ok_iff.mp success
  cases same
  obtain ⟨declared, declaredOf, success⟩ := bind_eq_ok_iff.mp success
  obtain ⟨undeclared, undeclaredOf, same⟩ := bind_eq_ok_iff.mp success
  cases same
  rw [readUndeclared_eq distinct member holds] at undeclaredOf
  have names := ParameterField.map_fst_of_readAll declaredOf
  have lookup : ∀ other ∈ field.keys,
      Ordered.find? other (Ordered.putAll declared undeclared) = Ordered.find? other declared := by
    intro other isKey
    have absent := not_mem_undeclared holds undeclaredOf isKey
    rw [← List.mem_reverse, ← List.map_reverse, ← Ordered.isSome_find?_iff,
      Option.not_isSome_iff_eq_none] at absent
    rw [Ordered.find?_putAll, absent, Option.none_or]
  constructor
  · obtain ⟨held, read, isParam⟩ := ParameterField.exists_mem_of_readAll declaredOf member
    refine ⟨held, (readFrom_self_eq_ok_iff holds).mp read, ?_⟩
    rw [lookup field.name (named field member)]
    exact Ordered.find?_eq_some_of_mem (names ▸ nodup_names distinct named) isParam
  · intro other isKey different
    rw [lookup other isKey, ← Option.not_isSome_iff_eq_none, Ordered.isSome_find?_iff, names]
    intro isName
    obtain ⟨second, secondMember, rfl⟩ := List.mem_map.mp isName
    rcases eq_or_disjoint_of_nodup distinct secondMember member with rfl | disjoint
    · exact different rfl
    · exact disjoint (named second secondMember) isKey

end Named

end Form

namespace Capability

open Playbook.Field

/-- A parameter may be given under any of its keys: both forms of an operation accept a mapping
with the value under one key if and only if they accept it under another one, and read the same
parameters.  They hold what is read from the value under the name of the parameter, and nothing
under its aliases. -/
theorem aliases_interchangeable {declared : Capability} {plugin : Option String}
    {operation : Operation} (compiled : declared.compile plugin = .ok operation)
    {name : String} {parameter : Parameter} (member : (name, parameter) ∈ declared.parameters)
    {key other : String} {v : Value} {rest entries moved : List (Value × Value)}
    (holds : HoldsOne (name :: parameter.aliases) key v rest entries)
    (moves : HoldsOne (name :: parameter.aliases) other v rest moved) :
    (∀ raw, operation.signature.read (.map entries) = .ok raw ↔
        operation.signature.read (.map moved) = .ok raw) ∧
      (∀ params, operation.form.read (.map entries) = .ok params ↔
        operation.form.read (.map moved) = .ok params) ∧
      ∀ params, operation.form.read (.map entries) = .ok params →
        (∃ held, (Schema.field .typed name parameter).read v = .ok held ∧
          Ordered.find? name params = some held) ∧
        ∀ second ∈ parameter.aliases, Ordered.find? second params = none := by
  obtain ⟨looseKeys, typedKeys⟩ := nodup_keys_of_compile compiled
  obtain ⟨loose, typed, _⟩ := fields_of_compile compiled
  have isLoose : Schema.field .loose name parameter ∈ operation.signature.fields := by
    rw [loose]
    exact List.mem_map_of_mem member
  have isTyped : Schema.field .typed name parameter ∈ operation.form.fields := by
    rw [typed]
    exact List.mem_map_of_mem member
  have named : ∀ field ∈ operation.form.fields, field.name ∈ field.keys := by
    intro field fieldMember
    rw [typed] at fieldMember
    obtain ⟨entry, _, rfl⟩ := List.mem_map.mp fieldMember
    exact List.mem_cons_self
  refine ⟨fun raw => Form.read_moved_eq_ok_iff looseKeys isLoose holds moves,
    fun params => Form.read_moved_eq_ok_iff typedKeys isTyped holds moves, ?_⟩
  intro params success
  obtain ⟨carried, beside⟩ := Form.find?_of_read typedKeys named isTyped holds success
  refine ⟨carried, fun second isAlias => beside second (List.mem_cons_of_mem name isAlias) ?_⟩
  -- An alias that is the name of its own parameter would be a key twice.
  rintro rfl
  have once := (List.nodup_flatMap.mp typedKeys).1 _ isTyped
  exact (List.nodup_cons.mp once).1 isAlias

/-- A time to wait that is moved from one alias to another one, past an undeclared parameter. -/
theorem aliases_interchangeable_wait :
    let duration : Parameter := { type := .integer, aliases := ["ms", "pause"], required := true }
    let declared : Capability :=
      { name := "wait"
        parameters := [("duration", duration)]
        opens := true
        behaviour := fun params _ => { result := .ok (.record params) } }
    let note : Value × Value := (.text "note", .text "soon")
    let given := [note, (.text "ms", .text "5")]
    let moved := [(.text "pause", .text "5"), note]
    let params := [("duration", Value.int 5), ("note", .text "soon")]
    ∃ operation, declared.compile none = .ok operation ∧
      HoldsOne ("duration" :: duration.aliases) "ms" (.text "5") [note] given ∧
      HoldsOne ("duration" :: duration.aliases) "pause" (.text "5") [note] moved ∧
      operation.signature.read (.map moved) =
        .ok [("duration", .text "5"), ("note", .text "soon")] ∧
      operation.form.read (.map given) = .ok params ∧
      operation.form.read (.map moved) = .ok params ∧ Ordered.find? "ms" params = none := by
  intro duration declared note given moved params
  have others : ∀ entry ∈ [note], ∀ name, text entry.1 = .ok name →
      name ∉ "duration" :: duration.aliases := by
    intro entry member name read
    cases List.mem_singleton.mp member
    cases read
    decide
  have holds : HoldsOne ("duration" :: duration.aliases) "ms" (.text "5") [note] given :=
    ⟨by decide, ⟨[note], [], rfl, rfl⟩, others⟩
  have moves : HoldsOne ("duration" :: duration.aliases) "pause" (.text "5") [note] moved :=
    ⟨by decide, ⟨[], [note], rfl, rfl⟩, others⟩
  have compiled : declared.compile none = .ok _ := rfl
  obtain ⟨signature, form, carried⟩ :=
    aliases_interchangeable compiled List.mem_cons_self holds moves
  exact ⟨_, compiled, holds, moves, (signature _).mp rfl, rfl, (form params).mp rfl,
    (carried params rfl).2 "ms" List.mem_cons_self⟩

end Capability

end Playbook
