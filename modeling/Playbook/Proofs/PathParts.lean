import Playbook.Proofs.JsonRoundTrip
import Playbook.Proofs.PathMatches

/-!
# JSON at paths

What a lookup finds in a JSON value is JSON again, and so is the part that it resolves to.
-/

namespace Playbook

namespace Value

theorem itemsAreJson_iff {items : List Value} :
    itemsAreJson items = true ↔ ∀ v ∈ items, v.isJson = true := by
  induction items with
  | nil => simp [itemsAreJson]
  | cons v rest ih => simp [itemsAreJson, ih]

theorem isJson_of_mem_entries {entries : List (Value × Value)}
    (json : entriesAreJson entries = true) {entry : Value × Value} (member : entry ∈ entries) :
    entry.2.isJson = true := by
  induction entries with
  | nil => cases member
  | cons first rest ih =>
      obtain ⟨key, held⟩ := first
      cases key with
      | text name =>
          simp only [entriesAreJson, Bool.and_eq_true] at json
          rcases List.mem_cons.mp member with rfl | later
          · exact json.1.2
          · exact ih json.2 later
      | _ => simp [entriesAreJson] at json

end Value

namespace Lookup

/-- Parts that are JSON. -/
def AreJson (nodes : Found) : Prop := ∀ node ∈ nodes, node.2.isJson = true

section Parts

variable {v : Value}

theorem isJson_of_mem_children {segment : String} {child : String × Value} (json : v.isJson = true)
    (member : child ∈ children segment v) : child.2.isJson = true := by
  rcases value_of_mem_children member with ⟨items, sequence, inside⟩ |
    ⟨entries, rfl, entry, inside, same⟩
  · cases v with
    | list _ =>
        cases sequence
        exact Value.itemsAreJson_iff.mp json _ inside
    | tuple _ | set _ => cases json
    | _ => cases sequence
  · rw [← same]
    exact Value.isJson_of_mem_entries json inside

theorem isJson_of_mem_located {segments : List String} {part : List String × Value}
    (json : v.isJson = true) (member : part ∈ located segments v) : part.2.isJson = true := by
  induction segments generalizing v part with
  | nil =>
      rw [List.mem_singleton.mp member]
      exact json
  | cons segment rest ih =>
      obtain ⟨child, childOf, other, otherOf, rfl⟩ := exists_child_of_mem_located member
      have isJson := ih (isJson_of_mem_children json childOf) otherOf
      exact isJson

variable {lookup : Lookup} {found : Found}

/-- A lookup in a JSON value has an end, and everything it finds is JSON. -/
theorem exists_findAll (readable : ∀ segment ∈ lookup.segments, IsReadable segment)
    (json : v.isJson = true) : ∃ found, lookup.findAll v = .ok found ∧ AreJson found := by
  rcases findAll_cases lookup v with ⟨_, success, _⟩ | ⟨segment, blocks, _⟩
  · refine ⟨_, success, ?_⟩
    intro node member
    obtain ⟨part, partMember, rfl⟩ := List.mem_map.mp member
    exact isJson_of_mem_located json partMember
  · exact absurd (readable segment blocks.not_isReadable.1) blocks.not_isReadable.2

/-- The part at a path of a JSON value is JSON. -/
theorem exists_resolve (success : lookup.findAll v = .ok found) (json : AreJson found) :
    ∃ part, lookup.resolve v = .ok part ∧ part.isJson = true := by
  refine ⟨_, resolve_eq success, ?_⟩
  split
  · apply Value.itemsAreJson_iff.mpr
    intro v member
    obtain ⟨part, partMember, rfl⟩ := List.mem_map.mp member
    exact json part partMember
  · match found with
    | [] => rfl
    | (pointer, part) :: rest => exact json _ List.mem_cons_self

end Parts

end Lookup

end Playbook
